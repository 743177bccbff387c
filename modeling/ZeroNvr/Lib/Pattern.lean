import Mathlib

/-! # Patterns with backtracking

A pattern gives the ways to match at a place of a text, in the order in which a
backtracking matcher comes upon them.  The first of them is the match.  `sub`
replaces the matches from left to right.

A text may have a wall that no match gets over.  What is before it and what is
after it are then replaced on their own.
-/

namespace ZeroNvr.Lib

/-- A place in a text: the character before it and what follows. -/
structure Cursor where
  before : Option Char
  rest : List Char
deriving DecidableEq

/-- What is captured and where the match ends, for each way to match. -/
def Pattern (α : Type) := Cursor → List (α × Cursor)

namespace Pattern

variable {α β : Type}

instance : Monad Pattern where
  pure x := fun cursor => [(x, cursor)]
  bind pattern next := fun cursor => (pattern cursor).flatMap fun found => next found.1 found.2

/-- `pattern|other`. -/
def orElse (pattern other : Pattern α) : Pattern α := fun cursor => pattern cursor ++ other cursor

def firstOf : List (Pattern α) → Pattern α
  | [] => fun _ => []
  | pattern :: patterns => pattern.orElse (firstOf patterns)

/-- A character of a set. -/
def item (p : Char → Bool) : Pattern Char := fun cursor =>
  match cursor.rest with
  | [] => []
  | c :: rest => if p c then [(c, ⟨some c, rest⟩)] else []

def manyFrom (p : Char → Bool) : Option Char → List Char → List (List Char × Cursor)
  | before, [] => [([], ⟨before, []⟩)]
  | before, c :: rest =>
    if p c then ((manyFrom p (some c) rest).map fun found => (c :: found.1, found.2)) ++ [([], ⟨before, c :: rest⟩)]
    else [([], ⟨before, c :: rest⟩)]

/-- `p*`, as many as there are and then fewer. -/
def many (p : Char → Bool) : Pattern (List Char) := fun cursor => manyFrom p cursor.before cursor.rest

/-- `p+`. -/
def many1 (p : Char → Bool) : Pattern (List Char) := do
  let first ← item p
  let others ← many p
  pure (first :: others)

/-- `p?`. -/
def optional (p : Char → Bool) : Pattern (List Char) :=
  (do let c ← item p; pure [c] : Pattern (List Char)).orElse (pure [])

/-- A word, whose characters are compared after `fold`. -/
def literal (fold : Char → Char) : List Char → Pattern (List Char)
  | [] => pure []
  | letter :: word => do
    let c ← item fun c => fold c == letter
    let others ← literal fold word
    pure (c :: others)

/-- `(?<!p)`. -/
def notAfter (p : Char → Bool) : Pattern Unit := fun cursor =>
  if cursor.before.any p then [] else [((), cursor)]

/-- `\b`. -/
def boundary (isWord : Char → Bool) : Pattern Unit := fun cursor =>
  if cursor.before.any isWord != cursor.rest.head?.any isWord then [((), cursor)] else []

/-- A head and a run of characters after it. -/
def headed (head : Pattern Unit) (p : Char → Bool) : Pattern Unit := do
  head
  let _ ← many1 p
  pure ()

section
variable (pattern : Pattern α) (replace : α → List Char)

/-- Replaces the matches after the next `skip` characters, which belong to a match before.  No
pattern here matches an empty text. -/
def scan : Nat → Option Char → List Char → List Char
  | _, _, [] => []
  | skip + 1, _, c :: rest => scan skip (some c) rest
  | 0, before, c :: rest =>
    match pattern ⟨before, c :: rest⟩ with
    | [] => c :: scan 0 (some c) rest
    | (found, after) :: _ => replace found ++ scan (rest.length - after.rest.length) (some c) rest

/-- `pattern.sub(replace, text)`. -/
def sub (text : List Char) : List Char := scan pattern replace 0 none text

/-- Whether there is a match from a place on. -/
def foundFrom : Option Char → List Char → Bool
  | _, [] => false
  | before, c :: rest => !(pattern ⟨before, c :: rest⟩).isEmpty || foundFrom (some c) rest

/-- `bool(pattern.search(text))`. -/
def search (text : List Char) : Bool := foundFrom pattern none text

end

theorem bind_apply (pattern : Pattern α) (next : α → Pattern β) (cursor : Cursor) :
    (pattern >>= next) cursor = (pattern cursor).flatMap fun found => next found.1 found.2 := rfl

theorem pure_apply (x : α) (cursor : Cursor) : (pure x : Pattern α) cursor = [(x, cursor)] := rfl

theorem map_apply (pattern : Pattern α) (f : α → β) (cursor : Cursor) :
    (pattern >>= fun x => pure (f x)) cursor = (pattern cursor).map fun found => (f found.1, found.2) := by
  rw [bind_apply]
  exact List.flatMap_pure_eq_map _ _

/-! ## Walls -/

/-- The ways to match before a wall do not depend on what follows the wall, and end before
`left`, which is the last part of the wall. -/
def Within (pattern : Pattern α) (wall left : List Char) : Prop :=
  ∀ before text, ∃ ends : List (α × Option Char × List Char),
    (∀ found ∈ ends, found.2.2 ++ left <:+ text ++ wall) ∧
    ∀ rest, pattern ⟨before, text ++ wall ++ rest⟩ =
      ends.map fun found => (found.1, ⟨found.2.1, found.2.2 ++ left ++ rest⟩)

/-- What a pattern can capture. -/
def Captures (pattern : Pattern α) (x : α) : Prop := ∃ cursor after, (x, after) ∈ pattern cursor

section
variable {pattern other : Pattern α} {next : α → Pattern β} {p isWord : Char → Bool} {fold : Char → Char} {c : Char}
  {wall middle left more : List Char}

theorem Within.pure (x : α) : Within (pure x) wall wall :=
  fun before text => ⟨[(x, before, text)], by simp, fun rest => by simp [pure_apply]⟩

theorem Within.bind (first : Within pattern wall middle)
    (second : ∀ x, Captures pattern x → Within (next x) middle left) : Within (pattern >>= next) wall left := by
  intro before text
  obtain ⟨ends, inside, matched⟩ := first before text
  have continued : ∀ found ∈ ends, ∃ more : List (β × Option Char × List Char),
      (∀ last ∈ more, last.2.2 ++ left <:+ found.2.2 ++ middle) ∧
      ∀ rest, next found.1 ⟨found.2.1, found.2.2 ++ middle ++ rest⟩ =
        more.map fun last => (last.1, ⟨last.2.1, last.2.2 ++ left ++ rest⟩) := by
    intro found member
    have captured : Captures pattern found.1 := by
      refine ⟨⟨before, text ++ wall ++ []⟩, ⟨found.2.1, found.2.2 ++ middle ++ []⟩, ?_⟩
      rw [matched []]
      exact List.mem_map.mpr ⟨found, member, rfl⟩
    exact second found.1 captured found.2.1 found.2.2
  have gathered (list : List (α × Option Char × List Char)) (among : ∀ found ∈ list, found ∈ ends) :
      ∃ all : List (β × Option Char × List Char), (∀ last ∈ all, last.2.2 ++ left <:+ text ++ wall) ∧
        ∀ rest, (list.flatMap fun found => next found.1 ⟨found.2.1, found.2.2 ++ middle ++ rest⟩) =
          all.map fun last => (last.1, ⟨last.2.1, last.2.2 ++ left ++ rest⟩) := by
    induction list with
    | nil => exact ⟨[], by simp, by simp⟩
    | cons found list ih =>
      obtain ⟨more, isSuffix, isNext⟩ := continued found (among found List.mem_cons_self)
      obtain ⟨all, areSuffixes, areNext⟩ := ih fun other member => among other (List.mem_cons_of_mem _ member)
      refine ⟨more ++ all, fun last member => ?_, fun rest => by rw [List.flatMap_cons, isNext, areNext, List.map_append]⟩
      rcases List.mem_append.mp member with isMore | isOther
      · exact (isSuffix last isMore).trans (inside found (among found List.mem_cons_self))
      · exact areSuffixes last isOther
  obtain ⟨all, areSuffixes, areNext⟩ := gathered ends fun _ member => member
  refine ⟨all, areSuffixes, fun rest => ?_⟩
  rw [bind_apply, matched, List.flatMap_map]
  exact areNext rest

theorem Within.orElse (one : Within pattern wall left) (second : Within other wall left) :
    Within (pattern.orElse other) wall left := by
  intro before text
  obtain ⟨ends, areSuffixes, matched⟩ := one before text
  obtain ⟨ends', areSuffixes', matched'⟩ := second before text
  refine ⟨ends ++ ends', fun found member => ?_, fun rest => by rw [Pattern.orElse, matched, matched', List.map_append]⟩
  rcases List.mem_append.mp member with isOne | isOther
  · exact areSuffixes found isOne
  · exact areSuffixes' found isOther

theorem Within.firstOf {patterns : List (Pattern α)} (every : ∀ pattern ∈ patterns, Within pattern wall left) :
    Within (firstOf patterns) wall left := by
  induction patterns with
  | nil => exact fun _ _ => ⟨[], by simp, fun _ => rfl⟩
  | cons pattern patterns ih =>
    exact (every pattern List.mem_cons_self).orElse (ih fun other member => every other (List.mem_cons_of_mem _ member))

/-- A longer wall. -/
theorem Within.extend (within : Within pattern wall left) (more : List Char) : Within pattern (more ++ wall) left := by
  intro before text
  obtain ⟨ends, areSuffixes, matched⟩ := within before (text ++ more)
  refine ⟨ends, fun found member => ?_, fun rest => ?_⟩
  · rw [← List.append_assoc]
    exact areSuffixes found member
  · rw [← List.append_assoc]
    exact matched rest

/-- Less of the wall is left. -/
theorem Within.shrink (within : Within pattern wall (more ++ left)) : Within pattern wall left := by
  intro before text
  obtain ⟨ends, areSuffixes, matched⟩ := within before text
  refine ⟨ends.map fun found => (found.1, found.2.1, found.2.2 ++ more), fun found member => ?_, fun rest => ?_⟩
  · obtain ⟨original, isEnd, rfl⟩ := List.mem_map.mp member
    rw [List.append_assoc]
    exact areSuffixes original isEnd
  · rw [matched, List.map_map]
    simp [Function.comp_def]

/-- One character of the wall may be taken. -/
theorem Within.item : Within (item p) (c :: left) left := by
  intro before text
  cases text with
  | nil =>
    by_cases taken : p c
    · exact ⟨[(c, some c, [])], by simp, fun rest => by simp [Pattern.item, taken]⟩
    · exact ⟨[], by simp, fun rest => by simp [Pattern.item, taken]⟩
  | cons first text =>
    by_cases taken : p first
    · refine ⟨[(first, some first, text ++ [c])], ?_, fun rest => by simp [Pattern.item, taken]⟩
      simp only [List.mem_singleton, forall_eq, List.append_assoc, List.cons_append]
      exact List.suffix_cons _ _
    · exact ⟨[], by simp, fun rest => by simp [Pattern.item, taken]⟩

theorem Within.item_stop (stop : p c = false) : Within (Pattern.item p) (c :: left) (c :: left) := by
  intro before text
  cases text with
  | nil => exact ⟨[], by simp, fun rest => by simp [Pattern.item, stop]⟩
  | cons first text =>
    by_cases taken : p first
    · refine ⟨[(first, some first, text)], ?_, fun rest => by simp [Pattern.item, taken]⟩
      simp only [List.mem_singleton, forall_eq, List.cons_append]
      exact List.suffix_cons _ _
    · exact ⟨[], by simp, fun rest => by simp [Pattern.item, taken]⟩

theorem Within.many (stop : p c = false) : Within (many p) (c :: left) (c :: left) := by
  intro before text
  induction text generalizing before with
  | nil =>
    exact ⟨[([], before, [])], by simp, fun rest => by simp [Pattern.many, manyFrom, stop]⟩
  | cons first text ih =>
    by_cases taken : p first
    · obtain ⟨ends, areSuffixes, matched⟩ := ih (some first)
      refine ⟨ends.map (fun found => (first :: found.1, found.2)) ++ [([], before, first :: text)], ?_, fun rest => ?_⟩
      · intro found member
        rcases List.mem_append.mp member with isLater | isHere
        · obtain ⟨later, isEnd, rfl⟩ := List.mem_map.mp isLater
          exact (areSuffixes later isEnd).trans (List.suffix_cons _ _)
        · cases List.mem_singleton.mp isHere
          exact List.suffix_rfl
      · have later := matched rest
        simp only [Pattern.many, List.append_assoc, List.cons_append] at later ⊢
        rw [manyFrom, if_pos taken, later]
        simp [Function.comp_def]
    · refine ⟨[([], before, first :: text)], by simp, fun rest => ?_⟩
      simp [Pattern.many, manyFrom, taken]

theorem Within.many1 (stop : p c = false) : Within (many1 p) (c :: left) (c :: left) :=
  (Within.item_stop stop).bind fun _ _ => (Within.many stop).bind fun _ _ => Within.pure _

theorem Within.optional (stop : p c = false) : Within (optional p) (c :: left) (c :: left) :=
  ((Within.item_stop stop).bind fun _ _ => Within.pure _).orElse (Within.pure _)

theorem captures_optional {x : List Char} (captured : Captures (optional p) x) : ∀ c ∈ x, p c = true := by
  obtain ⟨⟨before, rest⟩, after, member⟩ := captured
  rcases List.mem_append.mp member with isItem | isEmpty
  · cases rest with
    | nil => simp [map_apply, Pattern.item] at isItem
    | cons first rest =>
      rw [map_apply, Pattern.item] at isItem
      by_cases taken : p first
      · have same : x = [first] := by
          simp only [taken, if_true, List.map_cons, List.map_nil, List.mem_singleton, Prod.mk.injEq] at isItem
          exact isItem.1
        simpa [same] using taken
      · simp [taken] at isItem
  · have same : x = [] := congrArg Prod.fst (List.mem_singleton.mp isEmpty)
    simp [same]

theorem Within.literal {word : List Char} (stop : ∀ letter ∈ word, fold c ≠ letter) :
    Within (literal fold word) (c :: left) (c :: left) := by
  induction word with
  | nil => exact Within.pure _
  | cons letter word ih =>
    have isStop : (fold c == letter) = false := by simpa using stop letter List.mem_cons_self
    exact (Within.item_stop (p := fun c => fold c == letter) isStop).bind fun _ _ =>
      (ih fun other member => stop other (List.mem_cons_of_mem _ member)).bind fun _ _ => Within.pure _

theorem Within.notAfter : Within (notAfter p) wall wall := by
  intro before text
  by_cases after : before.any p
  · exact ⟨[], by simp, fun rest => by simp [Pattern.notAfter, after]⟩
  · exact ⟨[((), before, text)], by simp, fun rest => by simp [Pattern.notAfter, after]⟩

theorem Within.boundary : Within (boundary isWord) (c :: left) (c :: left) := by
  intro before text
  have sameHead (rest : List Char) : (text ++ c :: left ++ rest).head? = (text ++ [c]).head? := by cases text <;> rfl
  by_cases meets : before.any isWord != (text ++ [c]).head?.any isWord
  · exact ⟨[((), before, text)], by simp, fun rest => by simp only [Pattern.boundary, sameHead, meets]; rfl⟩
  · exact ⟨[], by simp, fun rest => by simp only [Pattern.boundary, sameHead, meets]; rfl⟩

end

/-! ## Replacing around a wall -/

/-- No match starts within the text. -/
def Silent (pattern : Pattern α) : List Char → Prop
  | [] => True
  | c :: text => (∀ before rest, pattern ⟨before, c :: text ++ rest⟩ = []) ∧ Silent pattern text

theorem silent_of_forall {pattern : Pattern α} {text : List Char}
    (quiet : ∀ c ∈ text, ∀ before rest, pattern ⟨before, c :: rest⟩ = []) : Silent pattern text := by
  induction text with
  | nil => trivial
  | cons c text ih =>
    exact ⟨fun before rest => quiet c List.mem_cons_self before (text ++ rest),
      ih fun x member => quiet x (List.mem_cons_of_mem _ member)⟩

/-- The last character of a text, or the one before it. -/
def lastOf (before : Option Char) (text : List Char) : Option Char := text.getLast?.or before

section
variable {pattern : Pattern α} {replace : α → List Char} {wall left text : List Char}

theorem lastOf_cons (before : Option Char) (c : Char) (text : List Char) :
    lastOf before (c :: text) = lastOf (some c) text := by
  cases text <;> simp [lastOf, List.getLast?_cons]

theorem lastOf_append (before : Option Char) (one other : List Char) :
    lastOf before (one ++ other) = lastOf (lastOf before one) other := by
  cases other with
  | nil => simp [lastOf]
  | cons c other => simp [lastOf, List.getLast?_append, Option.or_assoc]

theorem scan_silent (silent : Silent pattern text) (before : Option Char) (rest : List Char) :
    scan pattern replace 0 before (text ++ rest) = text ++ scan pattern replace 0 (lastOf before text) rest := by
  induction text generalizing before with
  | nil => rfl
  | cons c text ih =>
    rw [List.cons_append, scan, ← List.cons_append, silent.1, lastOf_cons]
    exact congrArg (c :: ·) (ih silent.2 (some c))

theorem scan_skip (skipped : List Char) (skip : Nat) (before : Option Char) (rest : List Char) :
    scan pattern replace (skipped.length + skip) before (skipped ++ rest) =
      scan pattern replace skip (lastOf before skipped) rest := by
  induction skipped generalizing before with
  | nil => simp [lastOf]
  | cons c skipped ih => rw [List.length_cons, List.cons_append, Nat.add_right_comm, scan, ih, lastOf_cons]

theorem Silent.append_right {more : List Char} (silent : Silent pattern (text ++ more)) : Silent pattern more := by
  induction text with
  | nil => exact silent
  | cons c text ih => exact ih silent.2

/-- What stands before a wall is replaced on its own, and what is left of the wall stays. -/
theorem scan_within {open_ : List Char} (within : Within pattern (open_ ++ left) left)
    (silent : Silent pattern (open_ ++ left)) (skip : Nat) (before : Option Char)
    (inside : skip ≤ (text ++ open_).length) :
    ∃ replaced, ∀ rest, scan pattern replace skip before (text ++ (open_ ++ left) ++ rest) =
      replaced ++ left ++ scan pattern replace 0 (lastOf before (text ++ (open_ ++ left))) rest := by
  induction text generalizing skip before with
  | nil =>
    -- the skipped characters end before what is left of the wall
    have skipped : open_ = open_.take skip ++ open_.drop skip := (List.take_append_drop skip open_).symm
    have isLength : (open_.take skip).length = skip := by simpa using inside
    have kept : Silent pattern (open_.drop skip ++ left) := by
      rw [skipped, List.append_assoc] at silent
      exact silent.append_right
    refine ⟨open_.drop skip, fun rest => ?_⟩
    have split : open_ ++ left ++ rest = open_.take skip ++ (open_.drop skip ++ left ++ rest) := by
      simp only [← List.append_assoc, List.take_append_drop]
    have ends : lastOf (lastOf before (open_.take skip)) (open_.drop skip ++ left) = lastOf before (open_ ++ left) := by
      rw [← lastOf_append, ← List.append_assoc, List.take_append_drop]
    have afterSkip := @scan_skip _ pattern replace (open_.take skip) 0 before
      (open_.drop skip ++ left ++ rest)
    rw [isLength, Nat.add_zero] at afterSkip
    rw [List.nil_append, split, afterSkip, scan_silent kept, ends]
  | cons c text ih =>
    cases skip with
    | succ skip =>
      obtain ⟨replaced, isReplaced⟩ := ih skip (some c) (by simpa using inside)
      refine ⟨replaced, fun rest => ?_⟩
      rw [List.cons_append, List.cons_append, scan, isReplaced, lastOf_cons]
    | zero =>
      -- whether a match begins here does not depend on what follows the wall
      obtain ⟨ends, areSuffixes, matched⟩ := within before (c :: text)
      cases ends with
      | nil =>
        obtain ⟨replaced, isReplaced⟩ := ih 0 (some c) (Nat.zero_le _)
        refine ⟨c :: replaced, fun rest => ?_⟩
        have noMatch := matched rest
        simp only [List.cons_append, List.map_nil] at noMatch
        rw [List.cons_append, List.cons_append, scan, noMatch, isReplaced, lastOf_cons]
        simp
      | cons found others =>
        have shorter := (areSuffixes found List.mem_cons_self).length_le
        simp only [List.length_append, List.length_cons] at shorter
        obtain ⟨replaced, isReplaced⟩ := ih (text.length + open_.length - found.2.2.length) (some c)
          (by simp only [List.length_append]; omega)
        refine ⟨replace found.1 ++ replaced, fun rest => ?_⟩
        have firstMatch := matched rest
        simp only [List.cons_append, List.map_cons] at firstMatch
        have skipped : (text ++ (open_ ++ left) ++ rest).length - (found.2.2 ++ left ++ rest).length =
            text.length + open_.length - found.2.2.length := by
          simp only [List.length_append]
          omega
        rw [List.cons_append, List.cons_append, scan, firstMatch]
        dsimp only
        rw [skipped, isReplaced, lastOf_cons]
        simp only [List.append_assoc]

theorem scan_exhausted {skip : Nat} {before : Option Char} (enough : text.length ≤ skip) :
    scan pattern replace skip before text = [] := by
  induction text generalizing skip before with
  | nil => cases skip <;> rfl
  | cons c text ih =>
    obtain ⟨skip, rfl⟩ : ∃ less, skip = less + 1 := ⟨skip - 1, by simp only [List.length_cons] at enough; omega⟩
    exact ih (by simpa using enough)

end

/-! ## Runs that give nothing back -/

section
variable {pattern : Pattern α} {next : List Char → Pattern α} {p : Char → Bool} {replace : α → List Char}

/-- What `scan` asks of a pattern: the first way to match and what follows it. -/
def firstMatch (pattern : Pattern α) (before : Option Char) (text : List Char) : Option (α × List Char) :=
  (pattern ⟨before, text⟩).head?.map fun found => (found.1, found.2.rest)

theorem scan_cons (before : Option Char) (c : Char) (text : List Char) :
    scan pattern replace 0 before (c :: text) =
      match firstMatch pattern before (c :: text) with
      | none => c :: scan pattern replace 0 (some c) text
      | some (found, after) => replace found ++ scan pattern replace (text.length - after.length) (some c) text := by
  rw [scan, firstMatch]
  cases pattern ⟨before, c :: text⟩ with
  | nil => rfl
  | cons found others => rfl

theorem mem_scan {c : Char} {skip : Nat} {before : Option Char} {text : List Char}
    (member : c ∈ scan pattern replace skip before text) :
    c ∈ text ∨ ∃ before' rest found after, rest <:+ text ∧ firstMatch pattern before' rest = some (found, after) ∧
      c ∈ replace found := by
  induction text generalizing skip before with
  | nil => cases skip <;> simp [scan] at member
  | cons first text ih =>
    have further {skip : Nat} {before : Option Char} (later : c ∈ scan pattern replace skip before text) :
        c ∈ first :: text ∨ ∃ before' rest found after, rest <:+ first :: text ∧
          firstMatch pattern before' rest = some (found, after) ∧ c ∈ replace found := by
      rcases ih later with isText | ⟨before', rest, found, after, isSuffix, matched, isReplaced⟩
      · exact .inl (List.mem_cons_of_mem _ isText)
      · exact .inr ⟨before', rest, found, after, isSuffix.trans (List.suffix_cons _ _), matched, isReplaced⟩
    cases skip with
    | succ skip => exact further member
    | zero =>
      rw [scan_cons] at member
      cases matched : firstMatch pattern before (first :: text) with
      | none =>
        rw [matched] at member
        rcases List.mem_cons.mp member with rfl | later
        · exact .inl List.mem_cons_self
        · exact further later
      | some found =>
        rw [matched] at member
        rcases List.mem_append.mp member with isReplaced | later
        · exact .inr ⟨before, first :: text, found.1, found.2, List.suffix_rfl, matched, isReplaced⟩
        · exact further later

theorem many_bind_manyFrom (stops : ∀ found cursor, cursor.rest.head?.any p = true → next found cursor = [])
    (taken : List Char) (before : Option Char) (text : List Char) :
    ((manyFrom p before text).flatMap fun found => next (taken ++ found.1) found.2) =
      next (taken ++ text.takeWhile p) ⟨lastOf before (text.takeWhile p), text.dropWhile p⟩ := by
  induction text generalizing before taken with
  | nil => simp [manyFrom, lastOf]
  | cons c text ih =>
    by_cases isTaken : p c
    · have later := ih (taken ++ [c]) (some c)
      simp only [List.append_assoc, List.singleton_append] at later
      rw [manyFrom, if_pos isTaken, List.flatMap_append, List.flatMap_map, later]
      simp [isTaken, stops, lastOf_cons]
    · simp [manyFrom, isTaken, lastOf]

/-- When nothing can follow a shorter run, only the longest one counts. -/
theorem many_bind (stops : ∀ found cursor, cursor.rest.head?.any p = true → next found cursor = [])
    (before : Option Char) (text : List Char) :
    (many p >>= next) ⟨before, text⟩ =
      next (text.takeWhile p) ⟨lastOf before (text.takeWhile p), text.dropWhile p⟩ :=
  many_bind_manyFrom stops [] before text

theorem many1_bind (stops : ∀ found cursor, cursor.rest.head?.any p = true → next found cursor = [])
    (before : Option Char) (text : List Char) :
    (many1 p >>= next) ⟨before, text⟩ =
      if text.head?.any p then next (text.takeWhile p) ⟨lastOf before (text.takeWhile p), text.dropWhile p⟩ else [] := by
  cases text with
  | nil => rfl
  | cons c text =>
    by_cases taken : p c
    · have run := many_bind (fun found => stops (c :: found)) (some c) text
      rw [bind_apply] at run
      simp [many1, bind_apply, item, taken, pure_apply, List.flatMap_assoc, lastOf_cons, run]
    · simp [many1, bind_apply, item, taken]

end

/-! ## A head and a run -/

section
variable {head : Pattern Unit} {p : Char → Bool} {c : Char} {mark text : List Char}

theorem head?_manyFrom (before : Option Char) (text : List Char) :
    (manyFrom p before text).head?.map (·.2.rest) = some (text.dropWhile p) := by
  induction text generalizing before with
  | nil => rfl
  | cons c text ih =>
    by_cases taken : p c
    · obtain ⟨found, isFirst, isRest⟩ := Option.map_eq_some_iff.mp (ih (some c))
      simp [manyFrom, taken, isFirst, isRest]
    · simp [manyFrom, taken]

theorem head?_many1 (cursor : Cursor) :
    (many1 p cursor).head?.map (·.2.rest) =
      if cursor.rest.head?.any p then some (cursor.rest.dropWhile p) else none := by
  obtain ⟨before, rest⟩ := cursor
  cases rest with
  | nil => rfl
  | cons c rest =>
    by_cases taken : p c
    · have later := @head?_manyFrom p (some c) rest
      rw [many1, bind_apply]
      simp [item, taken, map_apply, many, Option.map_map, Function.comp_def, later]
    · simp [many1, bind_apply, item, taken]

/-- The run goes as far as it can from the first end of the head that it can follow. -/
theorem head?_headed (cursor : Cursor) :
    (headed head p cursor).head?.map (·.2.rest) =
      ((head cursor).find? fun found => found.2.rest.head?.any p).map fun found => found.2.rest.dropWhile p := by
  rw [headed, bind_apply]
  induction head cursor with
  | nil => rfl
  | cons found ends ih =>
    have first := @head?_many1 p found.2
    rw [List.flatMap_cons, List.head?_append, List.find?_cons, map_apply, List.head?_map]
    by_cases follows : found.2.rest.head?.any p
    · rw [if_pos follows] at first
      obtain ⟨run, isFirst, isRest⟩ := Option.map_eq_some_iff.mp first
      simp [follows, isFirst, isRest]
    · rw [if_neg follows, Option.map_eq_none_iff] at first
      simpa [follows, first] using ih

/-- At a place before a character of the run there is no match, or one that ends before the
character, or one that goes on after it. -/
theorem headed_cases (within : Within head [c] [c]) (runs : p c = true) (before : Option Char) (text : List Char) :
    (∀ rest, headed head p ⟨before, text ++ c :: rest⟩ = []) ∨
    (∃ left, left.length ≤ text.length ∧ (∃ x ∈ text, p x = false) ∧ ∀ rest,
      (headed head p ⟨before, text ++ c :: rest⟩).head?.map (·.2.rest) = some (left ++ c :: rest)) ∨
    ∀ rest, (headed head p ⟨before, text ++ c :: rest⟩).head?.map (·.2.rest) = some (rest.dropWhile p) := by
  obtain ⟨ends, areSuffixes, matched⟩ := within before text
  have first (rest : List Char) : (headed head p ⟨before, text ++ c :: rest⟩).head?.map (·.2.rest) =
      (ends.find? fun found => (found.2.2 ++ [c]).head?.any p).map
        fun found => (found.2.2 ++ c :: rest).dropWhile p := by
    have sameHead (end_ : List Char) : (end_ ++ c :: rest).head? = (end_ ++ [c]).head? := by cases end_ <;> rfl
    rw [head?_headed, List.append_cons, matched rest, List.find?_map, Option.map_map]
    simp only [Function.comp_def, List.append_assoc, List.singleton_append, sameHead]
  cases found : ends.find? fun found => (found.2.2 ++ [c]).head?.any p with
  | none =>
    refine .inl fun rest => ?_
    have noMatch := first rest
    rw [found] at noMatch
    exact List.head?_eq_none_iff.mp (Option.map_eq_none_iff.mp noMatch)
  | some end_ =>
    simp only [found, Option.map_some] at first
    have isSuffix : end_.2.2 <:+ text :=
      List.suffix_append_self_iff.mp (areSuffixes end_ (List.mem_of_find?_eq_some found))
    by_cases every : ∀ x ∈ end_.2.2, p x = true
    · refine .inr (.inr fun rest => ?_)
      rw [first, List.dropWhile_append_of_pos every, List.dropWhile_cons_of_pos runs]
    · push Not at every
      obtain ⟨x, isIn, stops⟩ := every
      refine .inr (.inl ⟨end_.2.2.dropWhile p, ?_, ⟨x, isSuffix.subset isIn, by simpa using stops⟩, fun rest => ?_⟩)
      · exact (List.dropWhile_suffix p).length_le.trans isSuffix.length_le
      · rw [first, List.dropWhile_append, if_neg]
        simp only [List.isEmpty_iff, List.dropWhile_eq_nil_iff]
        exact fun all => stops (all x isIn)

theorem scan_headed_match {before : Option Char} {after : List Char}
    (matched : (headed head p ⟨before, c :: text⟩).head?.map (·.2.rest) = some after) :
    scan (headed head p) (fun _ => mark) 0 before (c :: text) =
      mark ++ scan (headed head p) (fun _ => mark) (text.length - after.length) (some c) text := by
  obtain ⟨found, isFirst, rfl⟩ := Option.map_eq_some_iff.mp matched
  obtain ⟨others, isMatch⟩ := List.head?_eq_some_iff.mp isFirst
  rw [scan, isMatch]

/-- What follows the character is replaced on its own, but for the rest of a run that goes on. -/
theorem scan_headed (within : Within head [c] [c]) (runs : p c = true)
    (quiet : ∀ before rest, headed head p ⟨before, c :: rest⟩ = []) (skip : Nat) (before : Option Char)
    (inside : skip ≤ text.length) :
    ∃ replaced,
      (∀ rest, scan (headed head p) (fun _ => mark) skip before (text ++ c :: rest) =
        replaced ++ c :: scan (headed head p) (fun _ => mark) 0 (some c) rest) ∨
      ∀ rest, scan (headed head p) (fun _ => mark) skip before (text ++ c :: rest) =
        replaced ++ mark ++ scan (headed head p) (fun _ => mark) (rest.takeWhile p).length (some c) rest := by
  induction text generalizing skip before with
  | nil =>
    obtain rfl : skip = 0 := by simpa using inside
    exact ⟨[], .inl fun rest => by rw [List.nil_append, scan, quiet]; rfl⟩
  | cons x text ih =>
    cases skip with
    | succ skip => exact ih skip (some x) (by simpa using inside)
    | zero =>
      have copied (front : List Char) (skip : Nat) (inside : skip ≤ text.length)
          (isFront : ∀ rest, scan (headed head p) (fun _ => mark) 0 before (x :: text ++ c :: rest) =
            front ++ scan (headed head p) (fun _ => mark) skip (some x) (text ++ c :: rest)) :
          ∃ replaced,
            (∀ rest, scan (headed head p) (fun _ => mark) 0 before (x :: text ++ c :: rest) =
              replaced ++ c :: scan (headed head p) (fun _ => mark) 0 (some c) rest) ∨
            ∀ rest, scan (headed head p) (fun _ => mark) 0 before (x :: text ++ c :: rest) =
              replaced ++ mark ++ scan (headed head p) (fun _ => mark) (rest.takeWhile p).length (some c) rest := by
        obtain ⟨replaced, closed | opened⟩ := ih skip (some x) inside
        · exact ⟨front ++ replaced, .inl fun rest => by rw [isFront, closed, List.append_assoc]⟩
        · exact ⟨front ++ replaced, .inr fun rest => by rw [isFront, opened]; simp only [List.append_assoc]⟩
      rcases headed_cases within runs before (x :: text) with none | ⟨left, shorter, _, ends⟩ | goesOn
      · refine copied [x] 0 (Nat.zero_le _) fun rest => ?_
        rw [List.cons_append, scan, ← List.cons_append, none]
        rfl
      · refine copied mark (text.length - left.length) (Nat.sub_le _ _) fun rest => ?_
        have skipped : (text ++ c :: rest).length - (left ++ c :: rest).length = text.length - left.length := by
          simp only [List.length_append]
          omega
        rw [List.cons_append, @scan_headed_match _ _ x mark (text ++ c :: rest) before _ (ends rest), skipped]
      · refine ⟨[], .inr fun rest => ?_⟩
        have lengths := congrArg List.length (List.takeWhile_append_dropWhile : rest.takeWhile p ++ rest.dropWhile p = rest)
        have skipped : (text ++ c :: rest).length - (rest.dropWhile p).length =
            (text ++ [c]).length + (rest.takeWhile p).length := by
          simp only [List.length_append, List.length_cons, List.length_nil] at lengths ⊢
          omega
        have last : lastOf (some x) (text ++ [c]) = some c := by simp [lastOf]
        rw [List.cons_append, @scan_headed_match _ _ x mark (text ++ c :: rest) before _ (goesOn rest), skipped,
          List.append_cons text c rest, scan_skip, last]
        rfl

/-- A text in which nothing is found is copied. -/
theorem scan_notFound (within : Within head [c] [c]) (runs : p c = true) {before : Option Char}
    (notFound : foundFrom (headed head p) before (text ++ [c]) = false) (rest : List Char) :
    scan (headed head p) (fun _ => mark) 0 before (text ++ c :: rest) =
      text ++ c :: scan (headed head p) (fun _ => mark) 0 (some c) rest := by
  have quiet {before : Option Char} {text : List Char} (noMatch : headed head p ⟨before, text ++ [c]⟩ = []) :
      headed head p ⟨before, text ++ c :: rest⟩ = [] := by
    rcases headed_cases within runs before text with none | ⟨left, _, _, ends⟩ | goesOn
    · exact none rest
    · simpa [noMatch] using ends []
    · simpa [noMatch] using goesOn []
  induction text generalizing before with
  | nil =>
    simp only [List.nil_append, foundFrom, Bool.or_false, Bool.not_eq_false', List.isEmpty_iff] at notFound
    rw [List.nil_append, scan, ← List.nil_append (c :: rest), quiet notFound]
    rfl
  | cons x text ih =>
    simp only [List.cons_append, foundFrom, Bool.or_eq_false_iff, Bool.not_eq_false', List.isEmpty_iff] at notFound
    rw [List.cons_append, scan, ← List.cons_append, quiet notFound.1]
    exact congrArg (x :: ·) (ih notFound.2)

/-- A run that nothing can stop takes the whole rest of the text. -/
theorem scan_found (within : Within head [c] [c]) (runs : p c = true)
    (quiet : ∀ before rest, headed head p ⟨before, c :: rest⟩ = []) {before : Option Char}
    (found : foundFrom (headed head p) before (text ++ [c]) = true) (noStop : ∀ x ∈ text, p x = true)
    {rest : List Char} (noStopAfter : ∀ x ∈ rest, p x = true) :
    scan (headed head p) (fun _ => mark) 0 before (text ++ c :: rest) =
      scan (headed head p) (fun _ => mark) 0 before (text ++ [c]) := by
  induction text generalizing before with
  | nil => simp [foundFrom, quiet] at found
  | cons x text ih =>
    rcases headed_cases within runs before (x :: text) with none | ⟨_, _, ⟨y, isIn, stops⟩, _⟩ | goesOn
    · have here (rest : List Char) : scan (headed head p) (fun _ => mark) 0 before (x :: text ++ c :: rest) =
          x :: scan (headed head p) (fun _ => mark) 0 (some x) (text ++ c :: rest) := by
        rw [List.cons_append, scan, ← List.cons_append, none]
      have later : foundFrom (headed head p) (some x) (text ++ [c]) = true := by
        have noMatch := none []
        simpa [foundFrom, List.cons_append ▸ noMatch] using found
      rw [here, here, ih later fun y member => noStop y (List.mem_cons_of_mem _ member)]
    · rw [noStop y isIn] at stops
      cases stops
    · have everything {rest : List Char} (noStopAfter : ∀ x ∈ rest, p x = true) :
          scan (headed head p) (fun _ => mark) 0 before (x :: text ++ c :: rest) = mark := by
        have atEnd : rest.dropWhile p = [] := List.dropWhile_eq_nil_iff.mpr noStopAfter
        rw [List.cons_append, @scan_headed_match _ _ x mark (text ++ c :: rest) before _ (goesOn rest), atEnd, scan_exhausted (by simp), List.append_nil]
      rw [everything noStopAfter, everything (by simp)]

end

end Pattern

end ZeroNvr.Lib
