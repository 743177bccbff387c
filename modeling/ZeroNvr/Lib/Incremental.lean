import Mathlib

/-! # Reading a stream in chunks

A reader takes what it has buffered and gives the items that are complete and what it
keeps.  When reading the rest of a stream continues reading its beginning, it does not
matter where the stream was cut.
-/

namespace ZeroNvr.Lib

variable {α β ε : Type}

/-- The first place of a pattern in a text. -/
def find [DecidableEq α] (pattern : List α) : List α → Option Nat
  | [] => if pattern = [] then some 0 else none
  | c :: text => if pattern.isPrefixOf (c :: text) then some 0 else (find pattern text).map (· + 1)

/-! ## Finding a pattern -/

section
variable [DecidableEq α] {pattern text : List α} {i : Nat}

theorem find_split (found : find pattern text = some i) :
    ∃ before after, text = before ++ pattern ++ after ∧ before.length = i := by
  induction text generalizing i with
  | nil =>
    rw [find] at found
    split at found
    · next isEmpty =>
      cases found
      exact ⟨[], [], by simp [isEmpty], rfl⟩
    · cases found
  | cons c text ih =>
    rw [find] at found
    split at found
    · next isPrefix =>
      cases found
      obtain ⟨after, split⟩ := List.isPrefixOf_iff_prefix.mp isPrefix
      exact ⟨[], after, split.symm, rfl⟩
    · obtain ⟨j, later, rfl⟩ := Option.map_eq_some_iff.mp found
      obtain ⟨before, after, rfl, rfl⟩ := ih later
      exact ⟨c :: before, after, rfl, rfl⟩

theorem find_isSome_of_infix (isInfix : pattern <:+: text) : (find pattern text).isSome := by
  induction text with
  | nil => simp [find, List.infix_nil.mp isInfix]
  | cons c text ih =>
    rw [find]
    split
    · rfl
    · next noPrefix =>
      rcases List.infix_cons_iff.mp isInfix with isPrefix | later
      · exact absurd (List.isPrefixOf_iff_prefix.mpr isPrefix) noPrefix
      · rw [Option.isSome_map]
        exact ih later

/-- What is found in the beginning of a text is found there in the whole. -/
theorem find_append (found : find pattern text = some i) (rest : List α) : find pattern (text ++ rest) = some i := by
  induction text generalizing i with
  | nil =>
    rw [find] at found
    split at found
    · next isEmpty =>
      cases found
      cases rest <;> simp [find, isEmpty]
    · cases found
  | cons c text ih =>
    rw [find] at found
    rw [List.cons_append, find]
    split at found
    · next isPrefix =>
      cases found
      rw [List.isPrefixOf_iff_prefix] at isPrefix
      exact if_pos (List.isPrefixOf_iff_prefix.mpr (isPrefix.trans (List.prefix_append (c :: text) rest)))
    · next noPrefix =>
      obtain ⟨j, later, rfl⟩ := Option.map_eq_some_iff.mp found
      have fits : pattern.length ≤ (c :: text).length := by
        obtain ⟨before, after, rfl, _⟩ := find_split later
        simp only [List.length_cons, List.length_append]
        omega
      rw [if_neg, ih later, Option.map_some]
      intro isPrefix
      rw [List.isPrefixOf_iff_prefix] at isPrefix noPrefix
      exact noPrefix (List.prefix_of_prefix_length_le isPrefix (List.prefix_append (c :: text) rest) fits)

/-- What is found only with the rest of a text ends in the rest. -/
theorem find_append_of_none {rest : List α} (absent : find pattern text = none) (found : find pattern (text ++ rest) = some i) :
    text.length < i + pattern.length := by
  by_contra inside
  obtain ⟨before, after, split, rfl⟩ := find_split found
  have isPrefix : before ++ pattern <+: text :=
    List.prefix_of_prefix_length_le (split ▸ List.prefix_append (before ++ pattern) after) (List.prefix_append text rest)
      (by rw [List.length_append]; omega)
  have isSome := find_isSome_of_infix ((List.suffix_append before pattern).isInfix.trans isPrefix.isInfix)
  rw [absent] at isSome
  cases isSome

theorem find_self_append (pattern rest : List α) : find pattern (pattern ++ rest) = some 0 := by
  cases pattern with
  | nil => cases rest <;> simp [find]
  | cons c pattern =>
    rw [List.cons_append, find]
    exact if_pos (List.isPrefixOf_iff_prefix.mpr (List.prefix_append (c :: pattern) rest))

/-! ## Two items -/

variable {a b : α}

/-- The part of a text that may be the beginning of a pattern of two. -/
def begun (a : α) (text : List α) : List α := if text.getLast? = some a then [a] else []

theorem begun_append (a : α) (text rest : List α) : begun a (text ++ rest) = begun a (begun a text ++ rest) := by
  rw [begun, begun, List.getLast?_append, List.getLast?_append]
  by_cases isLast : text.getLast? = some a
  · simp [begun, isLast]
  · cases rest.getLast? <;> simp [begun, isLast]

/-- A text without the pattern can be skipped, but for what may have begun. -/
theorem find_begun (absent : find [a, b] text = none) :
    ∃ skipped, text = skipped ++ begun a text ∧ ∀ rest,
      find [a, b] (text ++ rest) = (find [a, b] (begun a text ++ rest)).map (· + skipped.length) := by
  induction text with
  | nil => exact ⟨[], rfl, fun rest => by simp [begun]⟩
  | cons c text ih =>
    rw [find] at absent
    split at absent
    · cases absent
    next noPrefix =>
    rw [Option.map_eq_none_iff] at absent
    cases text with
    | nil =>
      by_cases isFirst : c = a
      · exact ⟨[], by simp [begun, isFirst], fun rest => by simp [begun, isFirst]⟩
      · exact ⟨[c], by simp [begun, isFirst], fun rest => by simp [begun, isFirst, find, Ne.symm isFirst]⟩
    | cons d text =>
      obtain ⟨skipped, split, later⟩ := ih absent
      have sameBegun : begun a (c :: d :: text) = begun a (d :: text) := by
        rw [begun, begun, List.getLast?_cons_cons]
      refine ⟨c :: skipped, by rw [sameBegun, List.cons_append, ← split], fun rest => ?_⟩
      have noStart : ¬[a, b].isPrefixOf (c :: (d :: text ++ rest)) = true := by
        simpa [List.isPrefixOf] using noPrefix
      rw [List.cons_append, find, if_neg noStart, later rest, sameBegun, Option.map_map]
      rfl

/-- A pattern of two different items after a text that does not hold it. -/
theorem find_after (differ : a ≠ b) (absent : ¬[a, b] <:+: text) (rest : List α) :
    find [a, b] (text ++ ([a, b] ++ rest)) = some text.length := by
  have none : find [a, b] text = none := by
    cases found : find [a, b] text with
    | none => rfl
    | some i =>
      obtain ⟨before, after, split, _⟩ := find_split found
      exact absurd ⟨before, after, split.symm⟩ absent
  obtain ⟨skipped, split, later⟩ := find_begun none
  have begins : find [a, b] (begun a text ++ ([a, b] ++ rest)) = some (begun a text).length := by
    rw [begun]
    split
    · simp [find, List.isPrefixOf, Ne.symm differ]
    · exact find_self_append [a, b] rest
  have lengths := congrArg List.length split
  rw [List.length_append] at lengths
  rw [later, begins, Option.map_some, lengths, Nat.add_comm]

end

/-! ## Readers -/

/-- A reader gives its complete items and what it keeps of its buffer, or fails. -/
abbrev Reader (α β ε : Type) := List α → Except ε (List β × List α)

namespace Reader

variable {read : Reader α β ε}

/-- The chunks of a stream after what was kept. -/
def feedAll (read : Reader α β ε) : (kept : List α) → List (List α) → Except ε (List β × List α)
  | kept, [] => .ok ([], kept)
  | kept, chunk :: chunks =>
    match read (kept ++ chunk) with
    | .error e => .error e
    | .ok (items, kept) => (feedAll read kept chunks).map fun (later, kept) => (items ++ later, kept)

/-- Reading goes on from what is kept as it would have from the beginning. -/
def Continues (read : Reader α β ε) : Prop :=
  ∀ first second, read (first ++ second) =
    match read first with
    | .error e => .error e
    | .ok (items, kept) => (read (kept ++ second)).map fun (later, kept) => (items ++ later, kept)

/-- Nothing more is read of what was kept. -/
theorem Continues.settled (continues : Continues read) {text kept : List α} {items : List β}
    (done : read text = .ok (items, kept)) : read kept = .ok ([], kept) := by
  have again := continues text []
  rw [List.append_nil, done] at again
  dsimp only at again
  rw [List.append_nil] at again
  cases rest : read kept with
  | error e =>
    rw [rest] at again
    cases again
  | ok result =>
    rw [rest] at again
    obtain ⟨later, kept'⟩ := result
    simp only [Except.map, Except.ok.injEq, Prod.mk.injEq, List.self_eq_append_right] at again
    rw [again.1, again.2]

/-- The chunks of a stream are read as the stream is. -/
theorem Continues.feedAll_eq (continues : Continues read) (chunks : List (List α)) {kept : List α}
    (settled : read kept = .ok ([], kept)) : read.feedAll kept chunks = read (kept ++ chunks.flatten) := by
  induction chunks generalizing kept with
  | nil => rw [feedAll, List.flatten_nil, List.append_nil, settled]
  | cons chunk chunks ih =>
    rw [feedAll, List.flatten_cons, ← List.append_assoc, continues (kept ++ chunk)]
    cases done : read (kept ++ chunk) with
    | error e => rfl
    | ok result =>
      obtain ⟨items, rest⟩ := result
      exact congrArg (Except.map _) (ih (continues.settled done))

end Reader

end ZeroNvr.Lib
