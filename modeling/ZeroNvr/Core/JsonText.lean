import ZeroNvr.Core.Json

/-! # JSON text

`json.dumps` of an object of texts with the compact separators, and
`json.loads`, over the characters of a text.  The scanner takes what Python's
takes, `NaN` and the infinities included; numbers with a fraction or an
exponent keep their text.
-/

namespace ZeroNvr.JsonText

/-! ## Strings -/

def hexDigit (n : Nat) : Char := Char.ofNat (if n % 16 < 10 then 48 + n % 16 else 87 + n % 16)

def hexValue? (c : Char) : Option Nat :=
  if '0' ≤ c ∧ c ≤ '9' then some (c.toNat - 48)
  else if 'a' ≤ c ∧ c ≤ 'f' then some (c.toNat - 87)
  else if 'A' ≤ c ∧ c ≤ 'F' then some (c.toNat - 55)
  else none

theorem hexValue?_hexDigit (n : Nat) : hexValue? (hexDigit n) = some (n % 16) := by
  have every : ∀ m : Fin 16, hexValue? (Char.ofNat (if m.val < 10 then 48 + m.val else 87 + m.val)) = some m.val := by
    decide
  exact every ⟨n % 16, Nat.mod_lt _ (by decide)⟩

/-- `\uXXXX` for a code unit. -/
def unitEscape (n : Nat) : List Char :=
  ['\\', 'u', hexDigit (n / 4096), hexDigit (n / 256), hexDigit (n / 16), hexDigit n]

def hex4? (a b c d : Char) : Option Nat := do
  let a ← hexValue? a
  let b ← hexValue? b
  let c ← hexValue? c
  let d ← hexValue? d
  some (((a * 16 + b) * 16 + c) * 16 + d)

theorem hex4?_unit {n : Nat} (small : n < 65536) :
    hex4? (hexDigit (n / 4096)) (hexDigit (n / 256)) (hexDigit (n / 16)) (hexDigit n) = some n := by
  simp only [hex4?, hexValue?_hexDigit, Option.bind_eq_bind, Option.bind_some]
  exact congrArg some (by omega)

/-- The UTF-16 code units of a character. -/
def unitsOf (c : Char) : List Nat :=
  if c.toNat < 0x10000 then [c.toNat]
  else [0xD800 + (c.toNat - 0x10000) / 0x400, 0xDC00 + (c.toNat - 0x10000) % 0x400]

/-- A character within a string that is written in ASCII. -/
def escapeChar (c : Char) : List Char :=
  if c = '"' then ['\\', '"']
  else if c = '\\' then ['\\', '\\']
  else if ' ' ≤ c ∧ c ≤ '~' then [c]
  else if c = '\n' then ['\\', 'n']
  else if c = '\r' then ['\\', 'r']
  else if c = '\t' then ['\\', 't']
  else if c = '\x0c' then ['\\', 'f']
  else if c = '\x08' then ['\\', 'b']
  else (unitsOf c).flatMap unitEscape

def quoted (text : String) : List Char := '"' :: text.toList.flatMap escapeChar ++ ['"']

/-- The character after a backslash, other than `u`. -/
def unescape? (c : Char) : Option Nat :=
  if c = '"' then some 34
  else if c = '\\' then some 92
  else if c = '/' then some 47
  else if c = 'b' then some 8
  else if c = 'f' then some 12
  else if c = 'n' then some 10
  else if c = 'r' then some 13
  else if c = 't' then some 9
  else none

/-- The code units of a string up to its closing quote, and the text after it. -/
def scanUnits : List Char → Option (List Nat × List Char)
  | [] => none
  | '"' :: rest => some ([], rest)
  | '\\' :: 'u' :: a :: b :: c :: d :: rest => do
    let unit ← hex4? a b c d
    let (units, rest) ← scanUnits rest
    some (unit :: units, rest)
  | '\\' :: c :: rest => do
    let unit ← unescape? c
    let (units, rest) ← scanUnits rest
    some (unit :: units, rest)
  | c :: rest =>
    if c.toNat < 32 then none
    else do
      let (units, rest) ← scanUnits rest
      some (c.toNat :: units, rest)

/-- A code unit by itself; a surrogate without its partner becomes the replacement character. -/
def charOf (unit : Nat) : Char := if unit.isValidChar then Char.ofNat unit else '\uFFFD'

/-- Code units as characters, with the surrogate pairs put together. -/
def joinUnits : List Nat → List Char
  | high :: low :: rest =>
    if (0xD800 ≤ high ∧ high ≤ 0xDBFF) ∧ 0xDC00 ≤ low ∧ low ≤ 0xDFFF then
      Char.ofNat (0x10000 + (high - 0xD800) * 0x400 + (low - 0xDC00)) :: joinUnits rest
    else charOf high :: joinUnits (low :: rest)
  | [unit] => [charOf unit]
  | [] => []

def scanString (text : List Char) : Option (String × List Char) :=
  (scanUnits text).map fun (units, rest) => (String.ofList (joinUnits units), rest)

/-! ### Reading what was written -/

theorem joinUnits_unitsOf (c : Char) (units : List Nat) : joinUnits (unitsOf c ++ units) = c :: joinUnits units := by
  have valid : c.toNat.isValidChar := c.valid
  have back : Char.ofNat c.toNat = c := Char.ofNat_toNat c
  rw [unitsOf]
  split
  · next small =>
    have alone : charOf c.toNat = c := by rw [charOf, if_pos valid, back]
    cases units with
    | nil => rw [List.append_nil, joinUnits, joinUnits, alone]
    | cons low rest =>
      have noHigh : ¬((0xD800 ≤ c.toNat ∧ c.toNat ≤ 0xDBFF) ∧ 0xDC00 ≤ low ∧ low ≤ 0xDFFF) := by
        simp only [Nat.isValidChar] at valid
        omega
      rw [List.singleton_append, joinUnits, if_neg noHigh, alone]
  · next large =>
    simp only [Nat.isValidChar] at valid
    simp only [List.cons_append, List.nil_append]
    rw [joinUnits, if_pos (by omega)]
    exact congrArg (· :: joinUnits units) ((congrArg Char.ofNat (by omega)).trans back)

theorem scanUnits_unitEscape {n : Nat} (small : n < 65536) (rest : List Char) :
    scanUnits (unitEscape n ++ rest) = (scanUnits rest).map fun (units, rest) => (n :: units, rest) := by
  simp only [unitEscape, List.cons_append, List.nil_append, scanUnits, hex4?_unit small]
  cases scanUnits rest <;> rfl

theorem scanUnits_plain {c : Char} (noQuote : c ≠ '"') (noBackslash : c ≠ '\\') (printable : 32 ≤ c.toNat)
    (rest : List Char) :
    scanUnits (c :: rest) = (scanUnits rest).map fun (units, rest) => (c.toNat :: units, rest) := by
  rw [scanUnits.eq_5 _ _ noQuote (by simp [noBackslash]) (by simp [noBackslash]), if_neg (by omega)]
  cases scanUnits rest <;> rfl

theorem scanUnits_simple {c : Char} {unit : Nat} (known : unescape? c = some unit) (rest : List Char) :
    scanUnits ('\\' :: c :: rest) = (scanUnits rest).map fun (units, rest) => (unit :: units, rest) := by
  have noUnit : c ≠ 'u' := by
    rintro rfl
    simp [unescape?] at known
  rw [scanUnits.eq_4 _ _ (by simp [noUnit]), known]
  cases scanUnits rest <;> rfl

/-- A character that is written with a backslash and a letter. -/
theorem scanUnits_letter {c letter : Char} (escape : escapeChar c = ['\\', letter])
    (known : unescape? letter = some c.toNat) (small : c.toNat < 0x10000) (rest : List Char) :
    scanUnits (escapeChar c ++ rest) = (scanUnits rest).map fun (units, rest) => (unitsOf c ++ units, rest) := by
  rw [escape, unitsOf, if_pos small]
  exact scanUnits_simple known rest

theorem scanUnits_escapeChar (c : Char) (rest : List Char) :
    scanUnits (escapeChar c ++ rest) = (scanUnits rest).map fun (units, rest) => (unitsOf c ++ units, rest) := by
  by_cases quote : c = '"'
  · subst quote
    exact scanUnits_letter rfl rfl (by decide) rest
  by_cases backslash : c = '\\'
  · subst backslash
    exact scanUnits_letter rfl rfl (by decide) rest
  by_cases plain : ' ' ≤ c ∧ c ≤ '~'
  · have printable : 32 ≤ c.toNat := plain.1
    have ascii : c.toNat ≤ 126 := plain.2
    have itself : escapeChar c = [c] := by simp [escapeChar, quote, backslash, plain]
    rw [itself, unitsOf, if_pos (by omega)]
    exact scanUnits_plain quote backslash printable rest
  by_cases newline : c = '\n'
  · subst newline
    exact scanUnits_letter rfl rfl (by decide) rest
  by_cases carriageReturn : c = '\r'
  · subst carriageReturn
    exact scanUnits_letter rfl rfl (by decide) rest
  by_cases tab : c = '\t'
  · subst tab
    exact scanUnits_letter rfl rfl (by decide) rest
  by_cases formFeed : c = '\x0c'
  · subst formFeed
    exact scanUnits_letter rfl rfl (by decide) rest
  by_cases backspace : c = '\x08'
  · subst backspace
    exact scanUnits_letter rfl rfl (by decide) rest
  have inUnits : escapeChar c = (unitsOf c).flatMap unitEscape := by
    simp [escapeChar, quote, backslash, plain, newline, carriageReturn, tab, formFeed, backspace]
  have bound : c.toNat < 0x110000 := by
    have valid : c.toNat.isValidChar := c.valid
    simp only [Nat.isValidChar] at valid
    omega
  rw [inUnits, unitsOf]
  split
  · next small =>
    rw [List.flatMap_cons, List.flatMap_nil, List.append_nil, scanUnits_unitEscape small]
    rfl
  · next large =>
    rw [List.flatMap_cons, List.flatMap_cons, List.flatMap_nil, List.append_nil, List.append_assoc,
      scanUnits_unitEscape (by omega), scanUnits_unitEscape (by omega), Option.map_map]
    rfl

theorem scanUnits_quoted (text rest : List Char) :
    scanUnits (text.flatMap escapeChar ++ '"' :: rest) = some (text.flatMap unitsOf, rest) := by
  induction text with
  | nil => rfl
  | cons c text ih => rw [List.flatMap_cons, List.append_assoc, scanUnits_escapeChar, ih]; rfl

theorem joinUnits_flatMap (text : List Char) : joinUnits (text.flatMap unitsOf) = text := by
  induction text with
  | nil => rfl
  | cons c text ih => rw [List.flatMap_cons, joinUnits_unitsOf, ih]

/-- Reading a string from after its opening quote. -/
theorem scanString_quoted (text : String) (rest : List Char) :
    scanString (text.toList.flatMap escapeChar ++ '"' :: rest) = some (text, rest) := by
  simp only [scanString, scanUnits_quoted, Option.map_some, joinUnits_flatMap, String.ofList_toList]

/-! ## Values -/

/-- What `json.loads` returns; a float keeps the text it was written with. -/
inductive Value where
  | null
  | bool (value : Bool)
  | int (value : Int)
  | float (text : String)
  | str (text : String)
  | arr (items : List Value)
  | obj (fields : List (String × Value))

/-- `dict[key]`: the last binding of a key is the one in force. -/
def Value.field? (fields : List (String × Value)) (key : String) : Option Value :=
  fields.reverse.lookup key

def skipSpace (text : List Char) : List Char :=
  text.dropWhile fun c => c == ' ' || c == '\t' || c == '\n' || c == '\r'

def isDigit (c : Char) : Bool := '0' ≤ c && c ≤ '9'

/-- The text after a word it begins with. -/
def after (word : String) (text : List Char) : Option (List Char) :=
  if word.toList.isPrefixOf text then some (text.drop word.length) else none

/-- The integer part of a number, and the text after it. -/
def scanInteger : List Char → Option (List Char × List Char)
  | '0' :: rest => some (['0'], rest)
  | text =>
    let digits := text.takeWhile isDigit
    if digits = [] then none else some (digits, text.dropWhile isDigit)

/-- A fraction, or nothing where no digit follows the point. -/
def scanFraction : List Char → List Char × List Char
  | '.' :: rest =>
    let digits := rest.takeWhile isDigit
    if digits = [] then ([], '.' :: rest) else ('.' :: digits, rest.dropWhile isDigit)
  | text => ([], text)

/-- The sign of an exponent, and the text after it. -/
def scanSign : List Char → List Char × List Char
  | '+' :: rest => (['+'], rest)
  | '-' :: rest => (['-'], rest)
  | text => ([], text)

/-- An exponent, or nothing where no digit follows it. -/
def scanExponent (text : List Char) : List Char × List Char :=
  match text with
  | [] => ([], [])
  | mark :: rest =>
    if mark = 'e' ∨ mark = 'E' then
      let (sign, digits) := scanSign rest
      if digits.takeWhile isDigit = [] then ([], text)
      else (mark :: sign ++ digits.takeWhile isDigit, digits.dropWhile isDigit)
    else ([], text)

def natOfDigits (digits : List Char) : Nat := digits.foldl (fun value c => value * 10 + (c.toNat - 48)) 0

/-- A number.  `int` refuses to read more than 4300 digits. -/
def scanNumber (text : List Char) : Option (Value × List Char) := do
  let (negative, rest) := match text with
    | '-' :: rest => (true, rest)
    | rest => (false, rest)
  let (digits, rest) ← scanInteger rest
  let (fraction, rest) := scanFraction rest
  let (exponent, rest) := scanExponent rest
  if fraction = [] ∧ exponent = [] then
    if 4300 < digits.length then none
    else some (.int (if negative then -natOfDigits digits else natOfDigits digits), rest)
  else some (.float (String.ofList ((if negative then ['-'] else []) ++ digits ++ fraction ++ exponent)), rest)

mutual

/-- One value; every level of `fuel` stands for a character, or for a step into an array or object. -/
def scanValue : (fuel : Nat) → List Char → Option (Value × List Char)
  | 0, _ => none
  | fuel + 1, text =>
    match text with
    | '"' :: rest => (scanString rest).map fun (text, rest) => (.str text, rest)
    | '{' :: rest =>
      match skipSpace rest with
      | '}' :: rest => some (.obj [], rest)
      | rest => (scanMembers fuel rest).map fun (fields, rest) => (.obj fields, rest)
    | '[' :: rest =>
      match skipSpace rest with
      | ']' :: rest => some (.arr [], rest)
      | rest => (scanItems fuel rest).map fun (items, rest) => (.arr items, rest)
    | text =>
      (after "null" text).map (.null, ·) <|>
      (after "true" text).map (.bool true, ·) <|>
      (after "false" text).map (.bool false, ·) <|>
      (after "NaN" text).map (.float "NaN", ·) <|>
      (after "Infinity" text).map (.float "Infinity", ·) <|>
      (after "-Infinity" text).map (.float "-Infinity", ·) <|>
      scanNumber text

/-- The items of an array up to its closing bracket. -/
def scanItems : (fuel : Nat) → List Char → Option (List Value × List Char)
  | 0, _ => none
  | fuel + 1, text => do
    let (item, rest) ← scanValue fuel text
    match skipSpace rest with
    | ']' :: rest => some ([item], rest)
    | ',' :: rest => do
      let (items, rest) ← scanItems fuel (skipSpace rest)
      some (item :: items, rest)
    | _ => none

/-- The members of an object up to its closing brace. -/
def scanMembers : (fuel : Nat) → List Char → Option (List (String × Value) × List Char)
  | 0, _ => none
  | fuel + 1, text =>
    match text with
    | '"' :: rest => do
      let (key, rest) ← scanString rest
      match skipSpace rest with
      | ':' :: rest => do
        let (value, rest) ← scanValue fuel (skipSpace rest)
        match skipSpace rest with
        | '}' :: rest => some ([(key, value)], rest)
        | ',' :: rest => do
          let (fields, rest) ← scanMembers fuel (skipSpace rest)
          some ((key, value) :: fields, rest)
        | _ => none
      | _ => none
    | _ => none

end

/-- `json.loads`; a text is refused when anything but white space follows its value.  Nesting
    beyond the recursion limit of the interpreter is left out. -/
def loads (text : List Char) : Option Value :=
  match scanValue (2 * text.length + 2) (skipSpace text) with
  | some (value, rest) => if skipSpace rest = [] then some value else none
  | none => none

/-! ### Objects of texts -/

def dumpsMember (field : String × String) : List Char := quoted field.1 ++ ':' :: quoted field.2

/-- `json.dumps(fields, separators=(",", ":"))`. -/
def dumps (fields : List (String × String)) : List Char :=
  '{' :: (List.intercalate [','] (fields.map dumpsMember)) ++ ['}']

theorem skipSpace_of_visible {c : Char} (visible : c ≠ ' ' ∧ c ≠ '\t' ∧ c ≠ '\n' ∧ c ≠ '\r') (rest : List Char) :
    skipSpace (c :: rest) = c :: rest := by
  simp [skipSpace, visible]

theorem scanValue_quoted (fuel : Nat) (text : String) (rest : List Char) :
    scanValue (fuel + 1) (quoted text ++ rest) = some (.str text, rest) := by
  simp only [quoted, List.cons_append, List.append_assoc, List.nil_append, scanValue, scanString_quoted, Option.map_some]

/-- The first member of an object, up to the comma or the brace after it. -/
theorem scanMembers_member (fuel : Nat) (key value : String) (rest : List Char) :
    scanMembers (fuel + 2) (dumpsMember (key, value) ++ rest) =
      match skipSpace rest with
      | '}' :: rest => some ([(key, .str value)], rest)
      | ',' :: rest => do
        let (fields, rest) ← scanMembers (fuel + 1) (skipSpace rest)
        some ((key, .str value) :: fields, rest)
      | _ => none := by
  have colon := @skipSpace_of_visible ':' (by decide) (quoted value ++ rest)
  have quote : skipSpace (quoted value ++ rest) = quoted value ++ rest := skipSpace_of_visible (by decide) _
  have keyText : dumpsMember (key, value) ++ rest =
      '"' :: (key.toList.flatMap escapeChar ++ '"' :: ':' :: (quoted value ++ rest)) := by
    simp [dumpsMember, quoted]
  rw [keyText]
  simp only [scanMembers, scanString_quoted, Option.bind_eq_bind, Option.bind_some, colon, quote, scanValue_quoted]

theorem scanMembers_dumps (fields : List (String × String)) {fuel : Nat} (enough : fields.length < fuel)
    (nonempty : fields ≠ []) (rest : List Char) :
    scanMembers fuel (List.intercalate [','] (fields.map dumpsMember) ++ '}' :: rest) =
      some (fields.map fun field => (field.1, .str field.2), rest) := by
  induction fields generalizing fuel with
  | nil => exact absurd rfl nonempty
  | cons field fields ih =>
    obtain ⟨fuel, rfl⟩ : ∃ n, fuel = n + 2 := ⟨fuel - 2, by simp only [List.length_cons] at enough; omega⟩
    obtain ⟨key, value⟩ := field
    cases fields with
    | nil =>
      have brace := @skipSpace_of_visible '}' (by decide) rest
      simp only [List.map_cons, List.map_nil, List.intercalate, List.intersperse_singleton, List.flatten_cons,
        List.flatten_nil, List.append_nil, scanMembers_member, brace]
    | cons next fields =>
      have shape : List.intercalate [','] (((key, value) :: next :: fields).map dumpsMember) ++ '}' :: rest =
          dumpsMember (key, value) ++
            ',' :: (List.intercalate [','] ((next :: fields).map dumpsMember) ++ '}' :: rest) := by
        simp [List.intercalate]
      have comma := @skipSpace_of_visible ',' (by decide)
        (List.intercalate [','] ((next :: fields).map dumpsMember) ++ '}' :: rest)
      have quote : skipSpace (List.intercalate [','] ((next :: fields).map dumpsMember) ++ '}' :: rest) =
          List.intercalate [','] ((next :: fields).map dumpsMember) ++ '}' :: rest := by
        cases fields <;> exact skipSpace_of_visible (by decide) _
      have later := @ih (fuel + 1) (by simp only [List.length_cons] at enough ⊢; omega) (List.cons_ne_nil _ _)
      rw [shape, scanMembers_member, comma]
      simp only [quote, later, Option.bind_eq_bind, Option.bind_some]
      rfl

theorem length_le_dumps (fields : List (String × String)) :
    fields.length ≤ (List.intercalate [','] (fields.map dumpsMember)).length := by
  induction fields with
  | nil => exact Nat.zero_le _
  | cons field fields ih =>
    cases fields with
    | nil => simp [List.intercalate, dumpsMember, quoted]
    | cons next fields =>
      simp only [List.intercalate, List.map_cons, List.intersperse_cons₂, List.flatten_cons, List.length_append,
        List.length_cons] at ih ⊢
      omega

/-- Reading what was written. -/
theorem loads_dumps (fields : List (String × String)) :
    loads (dumps fields) = some (.obj (fields.map fun field => (field.1, .str field.2))) := by
  have enough := length_le_dumps fields
  have open' : skipSpace (dumps fields) = dumps fields := skipSpace_of_visible (by decide) _
  rw [loads, open']
  cases fields with
  | nil => rfl
  | cons field fields =>
    have quote : skipSpace (List.intercalate [','] ((field :: fields).map dumpsMember) ++ ['}']) =
        List.intercalate [','] ((field :: fields).map dumpsMember) ++ ['}'] := by
      cases fields <;> exact skipSpace_of_visible (by decide) _
    have members := @scanMembers_dumps (field :: fields) (2 * (dumps (field :: fields)).length + 1)
      (by simp only [dumps, List.length_append, List.length_cons] at enough ⊢; omega) (List.cons_ne_nil _ _) []
    obtain ⟨inner, isInner⟩ : ∃ inner, List.intercalate [','] ((field :: fields).map dumpsMember) ++ ['}'] = '"' :: inner := by
      cases fields <;> exact ⟨_, rfl⟩
    have text : dumps (field :: fields) = '{' :: '"' :: inner := congrArg ('{' :: ·) isInner
    rw [isInner] at members quote
    have scanned : scanValue (2 * (dumps (field :: fields)).length + 2) (dumps (field :: fields)) =
        some (.obj ((field :: fields).map fun field => (field.1, .str field.2)), []) := by
      rw [text, scanValue, ← text]
      simp only [quote]
      exact congrArg (Option.map fun (fields, rest) => (Value.obj fields, rest)) members
    rw [scanned]
    rfl

end ZeroNvr.JsonText
