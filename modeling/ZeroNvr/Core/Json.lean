import Mathlib

/-! # Text and JSON values

`Json` is what a JSON column holds.  An object is an association list with the
first binding of a key in force, as `dict.get` sees it.
-/

namespace ZeroNvr

/-! ## Text -/

/-- `str.isspace` for one character. -/
def isSpace (c : Char) : Bool :=
  let n := c.toNat
  (9 ≤ n && n ≤ 13) || (28 ≤ n && n ≤ 32) || n == 133 || n == 160 || n == 5760 ||
    (8192 ≤ n && n ≤ 8202) || n == 8232 || n == 8233 || n == 8239 || n == 8287 || n == 12288

/-- `str.strip()`. -/
def strip (text : String) : String :=
  String.ofList (((text.toList.dropWhile isSpace).reverse.dropWhile isSpace).reverse)

theorem dropWhile_rdropWhile (p : Char → Bool) (text : List Char) :
    (((text.dropWhile p).rdropWhile p).dropWhile p) = (text.dropWhile p).rdropWhile p := by
  rw [List.dropWhile_eq_self_iff]
  intro nonempty
  have isPrefix := List.rdropWhile_prefix p (text.dropWhile p)
  have inner : 0 < (text.dropWhile p).length := nonempty.trans_le isPrefix.length_le
  rw [isPrefix.getElem nonempty]
  exact List.dropWhile_get_zero_not p text inner

/-- Stripping a second time changes nothing. -/
theorem strip_strip (text : String) : strip (strip text) = strip text := by
  have reversed (chars : List Char) : (chars.reverse.dropWhile isSpace).reverse = chars.rdropWhile isSpace := rfl
  simp only [strip, String.toList_ofList, reversed, dropWhile_rdropWhile, List.rdropWhile_idempotent]

/-- A text without white space needs no stripping. -/
theorem strip_eq_self {text : String} (noSpace : ∀ c ∈ text.toList, isSpace c = false) : strip text = text := by
  have keeps (chars : List Char) (none : ∀ c ∈ chars, isSpace c = false) : chars.dropWhile isSpace = chars := by
    cases chars with
    | nil => rfl
    | cons head tail => simp [none head List.mem_cons_self]
  rw [strip, keeps _ noSpace, keeps _ fun c member => noSpace c (List.mem_reverse.mp member), List.reverse_reverse,
    String.ofList_toList]

/-- A decimal number consists of digits. -/
theorem isDigit_of_mem_toString {n : Nat} {c : Char} (member : c ∈ (toString n).toList) : c.isDigit = true := by
  rw [show toString n = Nat.repr n from rfl, Nat.repr, String.toList_ofList] at member
  exact Nat.isDigit_of_mem_toDigits (by decide) (by decide) member

theorem isSpace_of_isDigit {c : Char} (digit : c.isDigit = true) : isSpace c = false := by
  simp only [Char.isDigit, Bool.and_eq_true, decide_eq_true_eq, ge_iff_le, UInt32.le_iff_toNat_le] at digit
  have lower : 48 ≤ c.toNat := digit.1
  have upper : c.toNat ≤ 57 := digit.2
  simp only [isSpace, Bool.or_eq_false_iff, Bool.and_eq_false_iff, decide_eq_false_iff_not, beq_eq_false_iff_ne]
  omega

/-- `str.lower()` up to letters outside ASCII, which only meet ASCII words here.
    The Kelvin sign is the one other letter whose lower case is an ASCII letter. -/
def lower (text : String) : String :=
  String.ofList (text.toList.map fun c => if c.toNat = 0x212A then 'k' else c.toLower)

/-- `str.upper()` up to letters outside ASCII. -/
def upper (text : String) : String :=
  String.ofList (text.toList.map Char.toUpper)

/-- What `str.casefold` makes of one character, up to letters that fold to no ASCII letter. -/
def casefoldChar (c : Char) : List Char :=
  let n := c.toNat
  if n = 0xDF ∨ n = 0x1E9E then ['s', 's']
  else if n = 0x17F then ['s']
  else if n = 0x212A then ['k']
  else if n = 0xFB00 then ['f', 'f']
  else if n = 0xFB01 then ['f', 'i']
  else if n = 0xFB02 then ['f', 'l']
  else if n = 0xFB03 then ['f', 'f', 'i']
  else if n = 0xFB04 then ['f', 'f', 'l']
  else if n = 0xFB05 ∨ n = 0xFB06 then ['s', 't']
  else [c.toLower]

/-- `str.casefold()` where it meets ASCII words. -/
def casefold (text : String) : String := String.ofList (text.toList.flatMap casefoldChar)

abbrev Bytes := List UInt8

/-- `encode("utf-8")`. -/
def utf8 (text : List Char) : Bytes := text.flatMap String.utf8EncodeChar

theorem utf8_injective {left right : List Char} (same : utf8 left = utf8 right) : left = right := by
  have decoded (text : List Char) : (utf8 text).toByteArray.utf8Decode? = some text.toArray := List.utf8Decode?_utf8Encode
  have arrays := (decoded left).symm.trans ((congrArg (fun bytes => bytes.toByteArray.utf8Decode?) same).trans (decoded right))
  simpa using arrays

/-! ## JSON -/

inductive Json where
  | null
  | bool (value : Bool)
  | int (value : Int)
  | float (value : ℚ)
  | str (value : String)
  | arr (items : List Json)
  | obj (fields : List (String × Json))

/-- The number a JSON value is for Python; a boolean is one. -/
def Json.number? : Json → Option ℚ
  | .int value => some value
  | .float value => some value
  | .bool value => some (if value then 1 else 0)
  | _ => none

mutual

/-- `==`: numbers compare by value, objects regardless of the order of their fields. -/
def Json.equal : Json → Json → Bool
  | .null, .null => true
  | .str left, .str right => left == right
  | .arr left, .arr right => Json.equalItems left right
  | .obj left, .obj right => left.length == right.length && Json.equalFields left right
  | left, right =>
    match left.number?, right.number? with
    | some left, some right => left == right
    | _, _ => false

def Json.equalItems : List Json → List Json → Bool
  | [], [] => true
  | left :: lefts, right :: rights => Json.equal left right && Json.equalItems lefts rights
  | _, _ => false

def Json.equalFields : List (String × Json) → List (String × Json) → Bool
  | [], _ => true
  | (key, left) :: lefts, rights =>
    (match rights.lookup key with
      | some right => Json.equal left right
      | none => false) && Json.equalFields lefts rights

end

instance : BEq Json := ⟨Json.equal⟩

/-- Only a text equals a text. -/
theorem Json.beq_str_iff (value : Option Json) (text : String) :
    (value == some (.str text)) = true ↔ value = some (.str text) := by
  cases value with
  | none => simp
  | some value =>
    rw [Option.some_beq_some, show (value == Json.str text) = Json.equal value (.str text) from rfl]
    cases value <;> simp [Json.equal, Json.number?]

/-- `bool(dict.get(key))` for a JSON value. -/
def Json.truthy : Option Json → Bool
  | some (.bool value) => value
  | some (.int value) => value ≠ 0
  | some (.float value) => value ≠ 0
  | some (.str value) => value ≠ ""
  | some (.arr items) => !items.isEmpty
  | some (.obj fields) => !fields.isEmpty
  | some .null | none => false

/-- A text column as a JSON value. -/
def Json.ofText : Option String → Json
  | some text => .str text
  | none => .null

abbrev Dict := List (String × Json)

namespace Dict

def get (dict : Dict) (key : String) : Option Json := dict.lookup key

/-- `{**dict, **changes}`. -/
def merge (dict changes : Dict) : Dict :=
  changes ++ dict.filter fun field => !changes.any fun change => change.1 == field.1

/-- `{**dict, key: value}`. -/
def set (dict : Dict) (key : String) (value : Json) : Dict := merge dict [(key, value)]

theorem lookup_filter_of_keeps (dict : Dict) (keep : String × Json → Bool) (key : String)
    (keeps : ∀ value, keep (key, value) = true) :
    (dict.filter keep).lookup key = dict.lookup key := by
  induction dict with
  | nil => rfl
  | cons field dict ih =>
    obtain ⟨name, value⟩ := field
    by_cases same : key = name
    · subst same
      simp [keeps]
    · have differs : (key == name) = false := by simpa using same
      by_cases kept : keep (name, value) = true <;>
        simp [kept, List.lookup_cons, differs, ih]

theorem get_merge (dict changes : Dict) (key : String) :
    get (merge dict changes) key = (get changes key).or (get dict key) := by
  simp only [get, merge, List.lookup_append]
  cases found : changes.lookup key with
  | some value => rfl
  | none =>
    rw [Option.none_or, Option.none_or]
    apply lookup_filter_of_keeps
    intro value
    have absent := List.lookup_eq_none_iff.mp found
    simp only [Bool.not_eq_true', List.any_eq_false, beq_iff_eq]
    intro change member same
    simpa [same] using absent change member

end Dict

end ZeroNvr
