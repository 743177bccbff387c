import ZeroNvr.Core.Json

/-! # Redaction

What is stored of a provider's metadata: the values of sensitive keys are
replaced, and texts pass through the patterns of `redact_text`, which is a
parameter.
-/

namespace ZeroNvr

def redacted : String := "***"

/-- `re.IGNORECASE` for one character: what may match an ASCII letter. -/
def foldCase (c : Char) : Char :=
  if c.toNat = 0x17F then 's'
  else if c.toNat = 0x212A then 'k'
  else if c.toNat = 0x130 ∨ c.toNat = 0x131 then 'i'
  else c.toLower

/-- The alternatives of `_SENSITIVE_KEY`. -/
def sensitiveWords : List String :=
  ["password", "passwd", "secret", "token", "credential", "authorization",
    "apikey", "api_key", "api-key", "clientsecret", "client_secret", "client-secret",
    "accesskey", "access_key", "access-key", "privatekey", "private_key", "private-key",
    "cookie", "session"]

def isSensitiveKey (key : String) : Bool :=
  let folded := key.toList.map foldCase
  sensitiveWords.any fun word => folded.tails.any fun rest => word.toList.isPrefixOf rest

variable (redactText : String → String)

mutual

/-- `redact_sensitive_value` on a JSON value. -/
def redactValue : Json → Json
  | .str text => .str (redactText text)
  | .arr items => .arr (redactItems items)
  | .obj fields => .obj (redactFields fields)
  | .null => .null
  | .bool value => .bool value
  | .int value => .int value
  | .float value => .float value

def redactItems : List Json → List Json
  | [] => []
  | item :: items => redactValue item :: redactItems items

def redactFields : List (String × Json) → List (String × Json)
  | [] => []
  | (key, item) :: fields =>
    (key, if isSensitiveKey key then .str redacted else redactValue item) :: redactFields fields

end

end ZeroNvr
