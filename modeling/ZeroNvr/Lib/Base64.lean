import Mathlib

/-! # Base64 text

The encoder writes the url-safe alphabet.  The decoder is the lenient one: it
reads both alphabets, passes over every other character, and stops at the
padding that completes a group of four.
-/

namespace ZeroNvr.Lib.Base64

/-! ## The alphabet -/

/-- The letter of six bits. -/
def letter (sextet : Nat) : Char :=
  if sextet < 26 then Char.ofNat (sextet + 65)
  else if sextet < 52 then Char.ofNat (sextet + 71)
  else if sextet < 62 then Char.ofNat (sextet - 4)
  else if sextet = 62 then '-' else '_'

/-- The six bits of a letter of either alphabet. -/
def sextet? (c : Char) : Option Nat :=
  if 'A' ≤ c ∧ c ≤ 'Z' then some (c.toNat - 65)
  else if 'a' ≤ c ∧ c ≤ 'z' then some (c.toNat - 71)
  else if '0' ≤ c ∧ c ≤ '9' then some (c.toNat + 4)
  else if c = '-' ∨ c = '+' then some 62
  else if c = '_' ∨ c = '/' then some 63
  else none

theorem sextet?_letter {n : Nat} (small : n < 64) : sextet? (letter n) = some n := by
  have every : ∀ m : Fin 64, sextet? (letter m) = some m.val := by decide
  exact every ⟨n, small⟩

theorem letter_ne_pad {n : Nat} (small : n < 64) : letter n ≠ '=' := by
  have every : ∀ m : Fin 64, letter m ≠ '=' := by decide
  exact every ⟨n, small⟩

/-! ## Encoding -/

def encode : List UInt8 → List Char
  | a :: b :: c :: rest =>
    letter (a.toNat / 4) :: letter (a.toNat % 4 * 16 + b.toNat / 16) ::
      letter (b.toNat % 16 * 4 + c.toNat / 64) :: letter (c.toNat % 64) :: encode rest
  | [a, b] =>
    [letter (a.toNat / 4), letter (a.toNat % 4 * 16 + b.toNat / 16), letter (b.toNat % 16 * 4), '=']
  | [a] => [letter (a.toNat / 4), letter (a.toNat % 4 * 16), '=', '=']
  | [] => []

/-- The encoding without its padding. -/
def unpadded (text : List Char) : List Char := text.rdropWhile (· == '=')

/-- The padding a text lacks to a multiple of four letters. -/
def padding (text : List Char) : List Char := List.replicate ((4 - text.length % 4) % 4) '='

/-- An encoding is a text of letters followed by its padding. -/
theorem encode_padded (bytes : List UInt8) :
    ∃ letters, encode bytes = letters ++ padding letters ∧ ∀ c ∈ letters, c ≠ '=' := by
  fun_induction encode bytes with
  | case1 a b c rest ih =>
    obtain ⟨letters, shape, noPad⟩ := ih
    have := a.toNat_lt
    have := b.toNat_lt
    refine ⟨letter (a.toNat / 4) :: letter (a.toNat % 4 * 16 + b.toNat / 16) ::
      letter (b.toNat % 16 * 4 + c.toNat / 64) :: letter (c.toNat % 64) :: letters, ?_, ?_⟩
    · simp only [shape, padding, List.length_cons, List.cons_append, List.cons.injEq, List.append_cancel_left_eq,
        true_and]
      congr 1
      omega
    · have := c.toNat_lt
      simp only [List.mem_cons]
      rintro c (rfl | rfl | rfl | rfl | inLetters)
      · exact letter_ne_pad (by omega)
      · exact letter_ne_pad (by omega)
      · exact letter_ne_pad (by omega)
      · exact letter_ne_pad (by omega)
      · exact noPad c inLetters
  | case2 a b =>
    have := a.toNat_lt
    have := b.toNat_lt
    refine ⟨[letter (a.toNat / 4), letter (a.toNat % 4 * 16 + b.toNat / 16), letter (b.toNat % 16 * 4)], rfl, ?_⟩
    simp only [List.mem_cons, List.not_mem_nil, or_false]
    rintro c (rfl | rfl | rfl) <;> exact letter_ne_pad (by omega)
  | case3 a =>
    have := a.toNat_lt
    refine ⟨[letter (a.toNat / 4), letter (a.toNat % 4 * 16)], rfl, ?_⟩
    simp only [List.mem_cons, List.not_mem_nil, or_false]
    rintro c (rfl | rfl) <;> exact letter_ne_pad (by omega)
  | case4 => exact ⟨[], rfl, by simp⟩

theorem unpadded_append_replicate {letters : List Char} (noPad : ∀ c ∈ letters, c ≠ '=') (n : Nat) :
    unpadded (letters ++ List.replicate n '=') = letters := by
  rw [unpadded, List.rdropWhile, List.reverse_append, List.reverse_replicate,
    List.dropWhile_append_of_pos (by simp)]
  have kept : letters.reverse.dropWhile (· == '=') = letters.reverse := by
    rw [List.dropWhile_eq_self_iff]
    intro nonempty isPad
    exact noPad _ (List.mem_reverse.mp (List.getElem_mem nonempty)) (by simpa using isPad)
  rw [kept, List.reverse_reverse]

/-- What the padding was can be told from the number of letters left. -/
theorem unpadded_append_padding (bytes : List UInt8) :
    unpadded (encode bytes) ++ padding (unpadded (encode bytes)) = encode bytes := by
  obtain ⟨letters, shape, noPad⟩ := encode_padded bytes
  have stripped : unpadded (encode bytes) = letters := by
    rw [shape]
    exact unpadded_append_replicate noPad _
  rw [stripped, shape]

theorem mem_of_mem_unpadded {text : List Char} {c : Char} (member : c ∈ unpadded text) : c ∈ text :=
  (List.rdropWhile_prefix _ text).subset member

/-- An encoding is ASCII text. -/
theorem toNat_lt_of_mem_encode {bytes : List UInt8} {c : Char} (member : c ∈ encode bytes) : c.toNat < 128 := by
  have ascii {n : Nat} (small : n < 64) : (letter n).toNat < 128 := by
    have every : ∀ m : Fin 64, (letter m).toNat < 128 := by decide
    exact every ⟨n, small⟩
  fun_induction encode bytes with
  | case1 a b d rest ih =>
    have := a.toNat_lt
    have := b.toNat_lt
    have := d.toNat_lt
    simp only [List.mem_cons] at member
    rcases member with rfl | rfl | rfl | rfl | inRest
    · exact ascii (by omega)
    · exact ascii (by omega)
    · exact ascii (by omega)
    · exact ascii (by omega)
    · exact ih inRest
  | case2 a b =>
    have := a.toNat_lt
    have := b.toNat_lt
    simp only [List.mem_cons, List.not_mem_nil, or_false] at member
    rcases member with rfl | rfl | rfl | rfl
    · exact ascii (by omega)
    · exact ascii (by omega)
    · exact ascii (by omega)
    · decide
  | case3 a =>
    have := a.toNat_lt
    simp only [List.mem_cons, List.not_mem_nil, or_false] at member
    rcases member with rfl | rfl | rfl | rfl
    · exact ascii (by omega)
    · exact ascii (by omega)
    · decide
    · decide
  | case4 => cases member

/-! ## Decoding -/

/-- How far a group of four letters has been read, with the bits that do not make a byte yet. -/
inductive Quad where
  | zero
  | one (left : Nat)
  | two (left : Nat)
  | three (left : Nat)
  deriving DecidableEq

def Quad.position : Quad → Nat
  | zero => 0
  | one _ => 1
  | two _ => 2
  | three _ => 3

/-- The bytes of the rest of a text; a text that ends within a group is refused. -/
def decodeFrom : List Char → Quad → (pads : Nat) → Option (List UInt8)
  | [], quad, _ => if quad = .zero then some [] else none
  | c :: rest, quad, pads =>
    if c = '=' then
      if 2 ≤ quad.position then
        if 4 ≤ quad.position + (pads + 1) then some [] else decodeFrom rest quad (pads + 1)
      else decodeFrom rest quad pads
    else
      match sextet? c with
      | none => decodeFrom rest quad pads
      | some value =>
        match quad with
        | .zero => decodeFrom rest (.one value) 0
        | .one left => (decodeFrom rest (.two (value % 16)) 0).map (UInt8.ofNat (left * 4 + value / 16) :: ·)
        | .two left => (decodeFrom rest (.three (value % 4)) 0).map (UInt8.ofNat (left * 16 + value / 4) :: ·)
        | .three left => (decodeFrom rest .zero 0).map (UInt8.ofNat (left * 64 + value) :: ·)

def decode (text : List Char) : Option (List UInt8) := decodeFrom text .zero 0

section Letters

variable {value : Nat} (small : value < 64) (rest : List Char) (pads : Nat)
include small

theorem decodeFrom_zero : decodeFrom (letter value :: rest) .zero pads = decodeFrom rest (.one value) 0 := by
  simp only [decodeFrom, if_neg (letter_ne_pad small), sextet?_letter small]

theorem decodeFrom_one (left : Nat) :
    decodeFrom (letter value :: rest) (.one left) pads =
      (decodeFrom rest (.two (value % 16)) 0).map (UInt8.ofNat (left * 4 + value / 16) :: ·) := by
  simp only [decodeFrom, if_neg (letter_ne_pad small), sextet?_letter small]

theorem decodeFrom_two (left : Nat) :
    decodeFrom (letter value :: rest) (.two left) pads =
      (decodeFrom rest (.three (value % 4)) 0).map (UInt8.ofNat (left * 16 + value / 4) :: ·) := by
  simp only [decodeFrom, if_neg (letter_ne_pad small), sextet?_letter small]

theorem decodeFrom_three (left : Nat) :
    decodeFrom (letter value :: rest) (.three left) pads =
      (decodeFrom rest .zero 0).map (UInt8.ofNat (left * 64 + value) :: ·) := by
  simp only [decodeFrom, if_neg (letter_ne_pad small), sextet?_letter small]

end Letters

/-- A byte put together from its bits. -/
theorem ofNat_eq {n : Nat} (a : UInt8) (same : n = a.toNat) : UInt8.ofNat n = a := by
  rw [same, UInt8.ofNat_toNat]

/-- Decoding gives back the bytes that were encoded. -/
theorem decode_encode (bytes : List UInt8) : decode (encode bytes) = some bytes := by
  rw [decode]
  fun_induction encode bytes with
  | case1 a b c rest ih =>
    have := a.toNat_lt
    have := b.toNat_lt
    have := c.toNat_lt
    rw [decodeFrom_zero (by omega), decodeFrom_one (by omega), decodeFrom_two (by omega), decodeFrom_three (by omega),
      ih, ofNat_eq a (by omega), ofNat_eq b (by omega), ofNat_eq c (by omega)]
    rfl
  | case2 a b =>
    have := a.toNat_lt
    have := b.toNat_lt
    rw [decodeFrom_zero (by omega), decodeFrom_one (by omega), decodeFrom_two (by omega),
      ofNat_eq a (by omega), ofNat_eq b (by omega)]
    rfl
  | case3 a =>
    have := a.toNat_lt
    rw [decodeFrom_zero (by omega), decodeFrom_one (by omega), ofNat_eq a (by omega)]
    rfl
  | case4 => rfl

end ZeroNvr.Lib.Base64
