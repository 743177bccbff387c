import ZeroNvr.Core.JsonText
import ZeroNvr.Core.Numbers

/-! # The text of a UUID

`str(uuid)` and `uuid.UUID(text)`.  The parser is as lenient as Python's: it
drops the prefixes, braces and dashes wherever they stand, and reads what is
left as `int(hex, 16)` does.
-/

namespace ZeroNvr

open JsonText (hexDigit hexValue? hexValue?_hexDigit)

/-- `uuid.UUID`: 128 bits. -/
structure UUID where
  int : Nat
  bound : int < 2 ^ 128
  deriving DecidableEq

namespace UUID

theorem eq_of_int {a b : UUID} (same : a.int = b.int) : a = b := by
  cases a
  cases b
  cases same
  rfl

/-! ## Writing -/

/-- The last hexadecimal digits of a number. -/
def hexDigits : Nat → Nat → List Char
  | 0, _ => []
  | count + 1, n => hexDigits count (n / 16) ++ [hexDigit n]

def str (id : UUID) : List Char :=
  let hex := hexDigits 32 id.int
  hex.take 8 ++ '-' :: (hex.drop 8).take 4 ++ '-' :: (hex.drop 12).take 4 ++ '-' :: (hex.drop 16).take 4 ++
    '-' :: hex.drop 20

/-- `str(uuid)` of an id. -/
def text (id : Nat) : String := String.ofList (str ⟨id % 2 ^ 128, Nat.mod_lt _ (by positivity)⟩)

/-! ## Reading -/

/-- `replace("urn:", "")`. -/
def withoutUrn : List Char → List Char
  | 'u' :: 'r' :: 'n' :: ':' :: rest => withoutUrn rest
  | c :: rest => c :: withoutUrn rest
  | [] => []

/-- `replace("uuid:", "")`. -/
def withoutUuid : List Char → List Char
  | 'u' :: 'u' :: 'i' :: 'd' :: ':' :: rest => withoutUuid rest
  | c :: rest => c :: withoutUuid rest
  | [] => []

def isBrace (c : Char) : Bool := c == '{' || c == '}'

/-- Hexadecimal digits with single underscores between them. -/
def hexRun : (value : Nat) → (afterDigit : Bool) → List Char → Option Nat
  | value, afterDigit, [] => if afterDigit then some value else none
  | value, afterDigit, c :: rest =>
    if c = '_' then if afterDigit then hexRun value false rest else none
    else (hexValue? c).bind fun digit => hexRun (value * 16 + digit) true rest

/-- The digits after a prefix `0x`, which an underscore may follow. -/
def withoutPrefix : List Char → List Char
  | '0' :: x :: rest =>
    if x = 'x' ∨ x = 'X' then
      match rest with
      | '_' :: rest => rest
      | rest => rest
    else '0' :: x :: rest
  | text => text

/-- `int(text, 16)`. -/
def int16 (text : List Char) : Option Int :=
  match numberText text with
  | '-' :: digits => (hexRun 0 false (withoutPrefix digits)).map fun value => -(value : Int)
  | '+' :: digits => (hexRun 0 false (withoutPrefix digits)).map fun value => (value : Int)
  | digits => (hexRun 0 false (withoutPrefix digits)).map fun value => (value : Int)

/-- `uuid.UUID(text)`. -/
def parse (text : List Char) : Option UUID :=
  let hex := (((withoutUuid (withoutUrn text)).dropWhile isBrace).rdropWhile isBrace).filter (· != '-')
  if hex.length ≠ 32 then none
  else
    match int16 hex with
    | some (.ofNat value) => if bound : value < 2 ^ 128 then some ⟨value, bound⟩ else none
    | _ => none

/-! ## Reading what was written -/

/-- A character that is no hexadecimal digit is none of the digits written. -/
theorem hexDigit_ne {c : Char} (noDigit : hexValue? c = none) (n : Nat) : hexDigit n ≠ c := by
  rintro rfl
  simp [hexValue?_hexDigit] at noDigit

theorem length_hexDigits (count n : Nat) : (hexDigits count n).length = count := by
  induction count generalizing n with
  | zero => rfl
  | succ count ih => simp [hexDigits, ih]

theorem mem_hexDigits {digit : Char} {count n : Nat} (member : digit ∈ hexDigits count n) : ∃ m, digit = hexDigit m := by
  induction count generalizing n with
  | zero => cases member
  | succ count ih =>
    rcases List.mem_append.mp member with inFront | isLast
    · exact ih inFront
    · exact ⟨n, List.mem_singleton.mp isLast⟩

theorem ne_of_mem_hexDigits {c digit : Char} (noDigit : hexValue? c = none) {count n : Nat}
    (member : digit ∈ hexDigits count n) : digit ≠ c := by
  obtain ⟨m, rfl⟩ := mem_hexDigits member
  exact hexDigit_ne noDigit m

theorem plain_hexDigit (n : Nat) : isAscii (hexDigit n) = true ∧ isNumberSpace (hexDigit n) = false := by
  have every : ∀ m : Fin 16, let c := Char.ofNat (if m.val < 10 then 48 + m.val else 87 + m.val)
      isAscii c = true ∧ isNumberSpace c = false := by decide
  exact every ⟨n % 16, Nat.mod_lt _ (by decide)⟩

theorem hexRun_hexDigits (count n value : Nat) (rest : List Char) (positive : 0 < count) :
    ∀ afterDigit, hexRun value afterDigit (hexDigits count n ++ rest) =
      hexRun (value * 16 ^ count + n % 16 ^ count) true rest := by
  have digit (value n : Nat) (afterDigit : Bool) (rest : List Char) :
      hexRun value afterDigit (hexDigit n :: rest) = hexRun (value * 16 + n % 16) true rest := by
    rw [hexRun, if_neg (hexDigit_ne (by decide) n), hexValue?_hexDigit, Option.bind_some]
  induction count generalizing n rest with
  | zero => exact absurd positive (lt_irrefl 0)
  | succ count ih =>
    intro afterDigit
    rw [hexDigits, List.append_assoc, List.singleton_append]
    rcases Nat.eq_zero_or_pos count with rfl | more
    · rw [hexDigits, List.nil_append, digit, Nat.zero_add, pow_one]
    · rw [ih (n / 16) _ more, digit]
      refine congrArg (hexRun · true rest) ?_
      rw [pow_succ, mul_comm (16 ^ count) 16, Nat.mod_mul]
      ring

theorem withoutUrn_eq_self {text : List Char} (plain : 'u' ∉ text) : withoutUrn text = text := by
  fun_induction withoutUrn text with
  | case1 rest => exact absurd List.mem_cons_self plain
  | case2 c rest _ ih => rw [ih fun inRest => plain (List.mem_cons_of_mem _ inRest)]
  | case3 => rfl

theorem withoutUuid_eq_self {text : List Char} (plain : 'u' ∉ text) : withoutUuid text = text := by
  fun_induction withoutUuid text with
  | case1 rest => exact absurd List.mem_cons_self plain
  | case2 c rest _ ih => rw [ih fun inRest => plain (List.mem_cons_of_mem _ inRest)]
  | case3 => rfl

theorem mem_str {id : UUID} {c : Char} (member : c ∈ id.str) : c ∈ hexDigits 32 id.int ∨ c = '-' := by
  simp only [str, List.mem_append, List.mem_cons] at member
  rcases member with ((((first | rfl | second) | rfl | third) | rfl | fourth) | rfl | fifth)
  · exact .inl (List.mem_of_mem_take first)
  · exact .inr rfl
  · exact .inl (List.mem_of_mem_drop (List.mem_of_mem_take second))
  · exact .inr rfl
  · exact .inl (List.mem_of_mem_drop (List.mem_of_mem_take third))
  · exact .inr rfl
  · exact .inl (List.mem_of_mem_drop (List.mem_of_mem_take fourth))
  · exact .inr rfl
  · exact .inl (List.mem_of_mem_drop fifth)

/-- Without the dashes there are the digits. -/
theorem filter_str (id : UUID) : id.str.filter (· != '-') = hexDigits 32 id.int := by
  have digits : ∀ c ∈ hexDigits 32 id.int, (c != '-') = true := fun c member => by
    simpa using ne_of_mem_hexDigits (by decide) member
  have kept (part : List Char) (isPart : part ⊆ hexDigits 32 id.int) : part.filter (· != '-') = part :=
    List.filter_eq_self.mpr fun c member => digits c (isPart member)
  have inDrop (k m : Nat) : ((hexDigits 32 id.int).drop k).take m ⊆ hexDigits 32 id.int :=
    fun _ member => List.mem_of_mem_drop (List.mem_of_mem_take member)
  have joined (k m : Nat) : ((hexDigits 32 id.int).drop k).take m ++ (hexDigits 32 id.int).drop (k + m) =
      (hexDigits 32 id.int).drop k := by
    rw [← List.drop_drop, List.take_append_drop]
  simp only [str, List.filter_append, List.filter_cons, bne_self_eq_false, Bool.false_eq_true, if_false, List.append_assoc]
  rw [kept _ (List.take_subset _ _), kept _ (inDrop 8 4), kept _ (inDrop 12 4), kept _ (inDrop 16 4),
    kept _ (List.drop_subset _ _), joined 16 4, joined 12 4, joined 8 4, List.take_append_drop]

theorem withoutPrefix_eq_self {text : List Char} (plain : ∀ c ∈ text, c ≠ 'x' ∧ c ≠ 'X') : withoutPrefix text = text := by
  unfold withoutPrefix
  split
  · next x rest =>
    have noMark : ¬(x = 'x' ∨ x = 'X') := by
      have := plain x (by simp)
      tauto
    rw [if_neg noMark]
  · rfl

theorem int16_hexDigits (n : Nat) {count : Nat} (positive : 0 < count) :
    int16 (hexDigits count n) = some (n % 16 ^ count : Nat) := by
  have ascii : ∀ c ∈ hexDigits count n, isAscii c = true ∧ isNumberSpace c = false := by
    intro c member
    obtain ⟨m, rfl⟩ := mem_hexDigits member
    exact plain_hexDigit m
  have plain : ∀ c ∈ hexDigits count n, c ≠ 'x' ∧ c ≠ 'X' := fun c member =>
    ⟨ne_of_mem_hexDigits (by decide) member, ne_of_mem_hexDigits (by decide) member⟩
  have value := hexRun_hexDigits count n 0 [] positive false
  rw [List.append_nil, Nat.zero_mul, Nat.zero_add, hexRun, if_pos rfl] at value
  rw [int16, numberText_eq_self ascii]
  split
  · next digits shape => exact absurd rfl (ne_of_mem_hexDigits (by decide) (shape ▸ List.mem_cons_self))
  · next digits shape => exact absurd rfl (ne_of_mem_hexDigits (by decide) (shape ▸ List.mem_cons_self))
  · rw [withoutPrefix_eq_self plain, value]
    rfl

theorem parse_str (id : UUID) : parse id.str = some id := by
  have plain {c : Char} (noDigit : hexValue? c = none) (noDash : c ≠ '-') : c ∉ id.str := by
    intro member
    rcases mem_str member with digit | rfl
    · exact ne_of_mem_hexDigits noDigit digit rfl
    · exact noDash rfl
  have noBrace : ∀ c ∈ id.str, isBrace c = false := by
    intro c member
    simp only [isBrace, Bool.or_eq_false_iff, beq_eq_false_iff_ne]
    exact ⟨fun brace => plain (by decide) (by decide) (brace ▸ member),
      fun brace => plain (by decide) (by decide) (brace ▸ member)⟩
  have noU : 'u' ∉ id.str := plain (by decide) (by decide)
  simp only [parse, withoutUrn_eq_self noU, withoutUuid_eq_self noU, trim_eq_self noBrace, filter_str,
    length_hexDigits, int16_hexDigits id.int (show 0 < 32 by decide), ne_eq, not_true_eq_false, if_false]
  have whole : id.int % 16 ^ 32 = id.int := Nat.mod_eq_of_lt (id.bound.trans_eq (by decide))
  rw [whole]
  exact dif_pos id.bound

end UUID

end ZeroNvr
