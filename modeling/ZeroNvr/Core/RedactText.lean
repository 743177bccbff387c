import ZeroNvr.Core.Redaction
import ZeroNvr.Lib.Pattern

/-! # Redaction of texts

The five patterns of `redact_text`, which are applied one after the other.  What
counts as a letter or a digit beyond ASCII is a parameter; only `\b` asks for it.
-/

namespace ZeroNvr.RedactText

open Lib Lib.Pattern

/-! ## The patterns -/

def schemeChar (c : Char) : Bool := c.isAlphanum || c == '+' || c == '.' || c == '-'

/-- `[^/@\s]`. -/
def userinfoChar (c : Char) : Bool := !(c == '/' || c == '@' || isSpace c)

/-- `_URL_USERINFO`, which captures the scheme. -/
def urlUserinfo : Pattern (List Char) := do
  let first ← item Char.isAlpha
  let others ← many schemeChar
  let slashes ← literal id "://".toList
  let _ ← many1 userinfoChar
  let _ ← item (· == '@')
  pure (first :: (others ++ slashes))

/-- `\s*[:=]\s*`. -/
def separator : Pattern (List Char) := do
  let before ← many isSpace
  let sign ← item fun c => c == ':' || c == '='
  let after ← many isSpace
  pure (before ++ sign :: after)

section
variable (isalnum : Char → Bool)

/-- `\w`. -/
def isWord (c : Char) : Bool := isalnum c || c == '_'

/-- `\bAuthorization\s*[:=]\s*`. -/
def authName : Pattern Unit := do
  boundary (isWord isalnum)
  let _ ← literal foldCase "authorization".toList
  let _ ← separator
  pure ()

/-- `[^\r\n,;]`. -/
def authChar (c : Char) : Bool := !(c == '\r' || c == '\n' || c == ',' || c == ';')

/-- `_AUTH_HEADER`. -/
def authHeader : Pattern Unit := headed (authName isalnum) authChar

/-- `\b(?:Cookie|Set-Cookie)\s*[:=]\s*`. -/
def cookieName : Pattern Unit := do
  boundary (isWord isalnum)
  let _ ← firstOf [literal foldCase "cookie".toList, literal foldCase "set-cookie".toList]
  let _ ← separator
  pure ()

/-- `[^\r\n]`. -/
def cookieChar (c : Char) : Bool := !(c == '\r' || c == '\n')

/-- `_COOKIE_HEADER`. -/
def cookieHeader : Pattern Unit := headed (cookieName isalnum) cookieChar

/-- `\bBearer\s+`. -/
def bearerName : Pattern Unit := do
  boundary (isWord isalnum)
  let _ ← literal foldCase "bearer".toList
  let _ ← many1 isSpace
  pure ()

/-- `[^\s,;]`. -/
def bearerChar (c : Char) : Bool := !(isSpace c || c == ',' || c == ';')

/-- `_BEARER`. -/
def bearer : Pattern Unit := headed (bearerName isalnum) bearerChar

end

/-- Two words, which may be joined by a character. -/
def joined (first second : String) : Pattern (List Char) := do
  let start ← literal foldCase first.toList
  let joint ← optional fun c => c == '_' || c == '-'
  let end_ ← literal foldCase second.toList
  pure (start ++ joint ++ end_)

/-- The keys of `_KEY_VALUE`, in their order. -/
def keyWords : List (Pattern (List Char)) :=
  (["password", "passwd", "secret", "token", "credential", "authorization"].map fun word =>
    literal foldCase word.toList) ++
  [joined "api" "key", joined "client" "secret", joined "access" "key", joined "private" "key"]

/-- A character between two quotes that are alike, with the quotes. -/
def quotedValue (quote : Char) : Pattern (List Char) := do
  let open_ ← item (· == quote)
  let inner ← many (· != quote)
  let close ← item (· == quote)
  pure (open_ :: (inner ++ [close]))

/-- `[^\s,;&]`. -/
def plainChar (c : Char) : Bool := !(isSpace c || c == ',' || c == ';' || c == '&')

def keyValueValue : Pattern (List Char) := firstOf [quotedValue '"', quotedValue '\'', many1 plainChar]

/-- `_KEY_VALUE`, which captures what stands before the value. -/
def keyValue : Pattern (List Char) := do
  notAfter fun c => (foldCase c).isAlphanum || foldCase c == '_'
  let quote ← optional fun c => c == '"' || c == '\''
  let key ← firstOf keyWords
  let _ ← literal id quote
  let sep ← separator
  let _ ← keyValueValue
  pure (quote ++ key ++ quote ++ sep)

/-! ## The function -/

section
variable (isalnum : Char → Bool)

def redactUrls (text : List Char) : List Char := urlUserinfo.sub (fun scheme => scheme ++ "***:***@".toList) text

def redactAuth (text : List Char) : List Char := (authHeader isalnum).sub (fun _ => "Authorization: ***".toList) text

def redactCookies (text : List Char) : List Char := (cookieHeader isalnum).sub (fun _ => "Cookie: ***".toList) text

def redactBearers (text : List Char) : List Char := (bearer isalnum).sub (fun _ => "Bearer ***".toList) text

def redactKeyValues (text : List Char) : List Char := keyValue.sub (fun front => front ++ redacted.toList) text

def redactChars (text : List Char) : List Char :=
  redactKeyValues (redactBearers isalnum (redactCookies isalnum (redactAuth isalnum (redactUrls text))))

/-- `redact_text`. -/
def redactText (text : String) : String := String.ofList (redactChars isalnum text.toList)

end

end ZeroNvr.RedactText
