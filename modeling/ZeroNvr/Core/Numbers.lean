import ZeroNvr.Core.Json

/-! # Numbers in a text

What `int(text, base)` reads.  White space and decimal digits of any script stand
for their ASCII counterparts, and single underscores may stand between digits.
-/

namespace ZeroNvr

/-! ## Characters -/

/-- The zeros of the scripts.  What `\d` takes for a digit is a decimal digit of any script. -/
def decimalZeros : List Nat :=
  [0x30, 0x660, 0x6f0, 0x7c0, 0x966, 0x9e6, 0xa66, 0xae6, 0xb66, 0xbe6, 0xc66, 0xce6, 0xd66, 0xde6, 0xe50, 0xed0, 0xf20,
    0x1040, 0x1090, 0x17e0, 0x1810, 0x1946, 0x19d0, 0x1a80, 0x1a90, 0x1b50, 0x1bb0, 0x1c40, 0x1c50, 0xa620, 0xa8d0,
    0xa900, 0xa9d0, 0xa9f0, 0xaa50, 0xabf0, 0xff10, 0x104a0, 0x10d30, 0x11066, 0x110f0, 0x11136, 0x111d0, 0x112f0,
    0x11450, 0x114d0, 0x11650, 0x116c0, 0x11730, 0x118e0, 0x11950, 0x11c50, 0x11d50, 0x11da0, 0x11f50, 0x16a60, 0x16ac0,
    0x16b50, 0x1d7ce, 0x1d7d8, 0x1d7e2, 0x1d7ec, 0x1d7f6, 0x1e140, 0x1e2f0, 0x1e4f0, 0x1e950, 0x1fbf0]

/-- The value of a decimal digit. -/
def decimal? (c : Char) : Option Nat :=
  (decimalZeros.find? fun first => first ≤ c.toNat ∧ c.toNat ≤ first + 9).map (c.toNat - ·)

def isAscii (c : Char) : Bool := c.toNat < 128

/-- `_PyUnicode_TransformDecimalAndSpaceToASCII`. -/
def asciiForm (c : Char) : Char :=
  if isAscii c then c
  else if isSpace c then ' '
  else
    match decimal? c with
    | some digit => Char.ofNat (48 + digit)
    | none => '?'

/-- `Py_ISSPACE`. -/
def isNumberSpace (c : Char) : Bool := (9 ≤ c.toNat && c.toNat ≤ 13) || c.toNat == 32

theorem asciiForm_of_isAscii {c : Char} (ascii : isAscii c = true) : asciiForm c = c := if_pos ascii

/-- A text of ASCII characters is read as it is. -/
theorem map_asciiForm {text : List Char} (ascii : ∀ c ∈ text, isAscii c = true) : text.map asciiForm = text := by
  refine (List.map_congr_left fun c member => asciiForm_of_isAscii (ascii c member)).trans ?_
  exact List.map_id' text

/-- A text without a certain kind of character is not trimmed of it. -/
theorem trim_eq_self {p : Char → Bool} {text : List Char} (plain : ∀ c ∈ text, p c = false) :
    (text.dropWhile p).rdropWhile p = text := by
  have front : text.dropWhile p = text := by
    rw [List.dropWhile_eq_self_iff]
    exact fun nonempty => by rw [plain _ (List.getElem_mem nonempty)]; decide
  rw [front, List.rdropWhile_eq_self_iff]
  exact fun nonempty => by rw [plain _ (List.getLast_mem nonempty)]; decide

/-- The text between the white space, in ASCII. -/
def numberText (text : List Char) : List Char :=
  ((text.map asciiForm).dropWhile isNumberSpace).rdropWhile isNumberSpace

/-- A text without white space is read as it is. -/
theorem numberText_eq_self {text : List Char} (plain : ∀ c ∈ text, isAscii c = true ∧ isNumberSpace c = false) :
    numberText text = text := by
  rw [numberText, map_asciiForm fun c member => (plain c member).1, trim_eq_self fun c member => (plain c member).2]

/-! ## Decimal numbers -/

/-- Decimal digits with single underscores between them. -/
def decimalRun : (value : Nat) → (afterDigit : Bool) → List Char → Option Nat
  | value, afterDigit, [] => if afterDigit then some value else none
  | value, afterDigit, c :: rest =>
    if c = '_' then if afterDigit then decimalRun value false rest else none
    else if c.isDigit then decimalRun (10 * value + (c.toNat - '0'.toNat)) true rest
    else none

/-- `sys.get_int_max_str_digits()`. -/
def maxStrDigits : Nat := 4300

/-- The digits of a number; more of them than the limit are refused. -/
def decimalDigits (digits : List Char) : Option Nat :=
  if maxStrDigits < digits.countP Char.isDigit then none else decimalRun 0 false digits

/-- `int(text)`. -/
def int10 (text : List Char) : Option Int :=
  match numberText text with
  | '-' :: digits => (decimalDigits digits).map fun value => -Int.ofNat value
  | '+' :: digits => (decimalDigits digits).map Int.ofNat
  | digits => (decimalDigits digits).map Int.ofNat

/-! ## Reading what was written -/

theorem isDigit_bounds {c : Char} (digit : c.isDigit = true) : 48 ≤ c.toNat ∧ c.toNat ≤ 57 := by
  simp only [Char.isDigit, Bool.and_eq_true, decide_eq_true_eq, ge_iff_le, UInt32.le_iff_toNat_le] at digit
  exact digit

theorem decimalRun_digits {digits : List Char} (every : ∀ c ∈ digits, c.isDigit = true) (value : Nat) (afterDigit : Bool)
    (some? : afterDigit = true ∨ digits ≠ []) :
    decimalRun value afterDigit digits = some (Nat.ofDigitChars 10 digits value) := by
  induction digits generalizing value afterDigit with
  | nil =>
    rcases some? with rfl | nonempty
    · rfl
    · exact absurd rfl nonempty
  | cons c rest ih =>
    have digit := every c List.mem_cons_self
    have noUnderscore : c ≠ '_' := by
      rintro rfl
      exact absurd digit (by decide)
    rw [decimalRun, if_neg noUnderscore, if_pos digit, Nat.ofDigitChars_cons]
    exact ih (fun c inRest => every c (List.mem_cons_of_mem _ inRest)) _ true (.inl rfl)

/-- A number with so few digits is read back. -/
theorem decimalDigits_repr {n : Nat} (small : n < 10 ^ maxStrDigits) : decimalDigits n.repr.toList = some n := by
  have every : ∀ c ∈ Nat.toDigits 10 n, c.isDigit = true := fun c member =>
    Nat.isDigit_of_mem_toDigits (by decide) (by decide) member
  have few : (Nat.toDigits 10 n).length ≤ maxStrDigits :=
    (Nat.length_toDigits_le_iff (by decide) (by decide)).mpr small
  have counted : (Nat.toDigits 10 n).countP Char.isDigit ≤ maxStrDigits := List.countP_le_length.trans few
  rw [Nat.toList_repr, decimalDigits, if_neg (not_lt.mpr counted),
    decimalRun_digits every 0 false (.inr Nat.toDigits_ne_nil), Nat.ofDigitChars_ten_toDigits]

theorem plain_of_isDigit {c : Char} (digit : c.isDigit = true) : isAscii c = true ∧ isNumberSpace c = false := by
  have bounds := isDigit_bounds digit
  simp only [isAscii, isNumberSpace, decide_eq_true_eq, Bool.or_eq_false_iff, Bool.and_eq_false_iff,
    decide_eq_false_iff_not, beq_eq_false_iff_ne]
  omega

theorem int10_toString {n : Int} (small : n.natAbs < 10 ^ maxStrDigits) : int10 (toString n).toList = some n := by
  cases n with
  | ofNat n =>
    have plain : ∀ c ∈ n.repr.toList, isAscii c = true ∧ isNumberSpace c = false := fun c member =>
      plain_of_isDigit (isDigit_of_mem_toString member)
    have noSign {c : Char} (sign : c.isDigit = false) {digits : List Char} : n.repr.toList ≠ c :: digits := by
      intro starts
      have digit := @isDigit_of_mem_toString n c (starts ▸ List.mem_cons_self)
      exact absurd digit (by simp [sign])
    rw [show toString (Int.ofNat n) = n.repr from rfl, int10, numberText_eq_self plain]
    split
    · next digits starts => exact absurd starts (noSign (by decide))
    · next digits starts => exact absurd starts (noSign (by decide))
    · rw [@decimalDigits_repr n small, Option.map_some]
  | negSucc n =>
    have written : (toString (Int.negSucc n)).toList = '-' :: (n + 1).repr.toList := by
      rw [show toString (Int.negSucc n) = "-" ++ (n + 1).repr from rfl, String.toList_append]
      rfl
    have plain : ∀ c ∈ '-' :: (n + 1).repr.toList, isAscii c = true ∧ isNumberSpace c = false := by
      intro c member
      rcases List.mem_cons.mp member with rfl | inDigits
      · decide
      · exact plain_of_isDigit (isDigit_of_mem_toString inDigits)
    simp only [written, int10, numberText_eq_self plain]
    rw [@decimalDigits_repr (n + 1) small]
    rfl

end ZeroNvr
