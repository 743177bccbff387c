import ZeroNvr.Lib.Outcome

/-! # Interval covers by sweeping

A sweep visits the cells between consecutive boundaries in order and appends a
labelled span for a cell, or extends the last span when it touches the cell and
carries the same label.  The stack of spans, newest first, then stays sorted,
disjoint and maximally merged, and labels exactly the instants of the cells it
was given.
-/

namespace ZeroNvr.Lib

variable {κ : Type}

/-- The half-open interval from `startAt` to `endAt`, with a label. -/
structure Span (κ : Type) where
  startAt : Int
  endAt : Int
  label : κ
  deriving DecidableEq

def Span.Contains (span : Span κ) (t : Int) : Prop := span.startAt ≤ t ∧ t < span.endAt

/-- Spans in chronological order: non-empty, inside the window, disjoint, and no two that touch
    carry the same label. -/
structure Tidy (first last : Int) (spans : List (Span κ)) : Prop where
  inside : ∀ span ∈ spans, first ≤ span.startAt ∧ span.startAt < span.endAt ∧ span.endAt ≤ last
  apart : spans.Pairwise fun earlier later => earlier.endAt ≤ later.startAt ∧
    (earlier.endAt = later.startAt → earlier.label ≠ later.label)

/-- The same for a stack, newest first. -/
def Stacked (first last : Int) (spans : List (Span κ)) : Prop := Tidy first last spans.reverse

/-- Some span gives the instant the label. -/
def Labelled (spans : List (Span κ)) (t : Int) (label : κ) : Prop :=
  ∃ span ∈ spans, span.Contains t ∧ span.label = label

theorem labelled_reverse {spans : List (Span κ)} {t : Int} {label : κ} :
    Labelled spans.reverse t label ↔ Labelled spans t label := by
  simp only [Labelled, List.mem_reverse]

theorem stacked_nil (first last : Int) : Stacked (κ := κ) first last [] :=
  ⟨fun _ member => absurd member List.not_mem_nil, List.Pairwise.nil⟩

theorem stacked_cons {first last : Int} {span : Span κ} {spans : List (Span κ)} :
    Stacked first last (span :: spans) ↔
      (first ≤ span.startAt ∧ span.startAt < span.endAt ∧ span.endAt ≤ last) ∧
        (∀ earlier ∈ spans, earlier.endAt ≤ span.startAt ∧
          (earlier.endAt = span.startAt → earlier.label ≠ span.label)) ∧
        Stacked first last spans := by
  constructor
  · rintro ⟨inside, apart⟩
    rw [List.pairwise_reverse, List.pairwise_cons] at apart
    simp only [List.mem_reverse, List.forall_mem_cons] at inside
    exact ⟨inside.1, apart.1, ⟨by simpa using inside.2, List.pairwise_reverse.mpr apart.2⟩⟩
  · rintro ⟨inside, apart, rest⟩
    refine ⟨?_, List.pairwise_reverse.mpr (List.pairwise_cons.mpr ⟨apart, List.pairwise_reverse.mp rest.apart⟩)⟩
    simp only [List.mem_reverse, List.forall_mem_cons]
    exact ⟨inside, by simpa using rest.inside⟩

theorem Stacked.mono {first last later : Int} {spans : List (Span κ)} (stacked : Stacked first last spans)
    (le : last ≤ later) : Stacked first later spans :=
  ⟨fun span member => by
    obtain ⟨start, nonempty, stop⟩ := stacked.inside span member
    exact ⟨start, nonempty, stop.trans le⟩, stacked.apart⟩

/-- Nothing is labelled from the end of the stack on. -/
theorem Stacked.not_labelled {first last t : Int} {spans : List (Span κ)} (stacked : Stacked first last spans)
    (after : last ≤ t) (label : κ) : ¬ Labelled spans t label := by
  rintro ⟨span, member, contains, _⟩
  have ends := (stacked.inside span (List.mem_reverse.mpr member)).2.2
  simp only [Span.Contains] at contains
  omega

/-! ## Extending the stack by a cell -/

variable [DecidableEq κ]

/-- Append a cell; the last span takes it in when it touches it and has the same label. -/
def extend (spans : List (Span κ)) (left right : Int) (label : κ) : List (Span κ) :=
  match spans with
  | last :: earlier =>
    if last.label = label ∧ last.endAt = left then { last with endAt := right } :: earlier
    else { startAt := left, endAt := right, label } :: last :: earlier
  | [] => [{ startAt := left, endAt := right, label }]

theorem Stacked.extend {first left right : Int} {spans : List (Span κ)} (stacked : Stacked first left spans)
    (start : first ≤ left) (cell : left < right) (label : κ) :
    Stacked first right (extend spans left right label) := by
  cases spans with
  | nil => exact stacked_cons.mpr ⟨⟨start, cell, le_rfl⟩,
      fun _ member => absurd member List.not_mem_nil, stacked_nil _ _⟩
  | cons last earlier =>
    obtain ⟨inside, apart, rest⟩ := stacked_cons.mp stacked
    unfold Lib.extend
    dsimp only
    split
    next merges =>
      refine stacked_cons.mpr ⟨⟨inside.1, ?_, le_rfl⟩, apart, rest.mono cell.le⟩
      dsimp only
      omega
    next differs =>
      refine stacked_cons.mpr ⟨⟨start, cell, le_rfl⟩, ?_, stacked.mono cell.le⟩
      intro span member
      rcases List.mem_cons.mp member with rfl | older
      · exact ⟨inside.2.2, fun touches same => differs ⟨same, touches⟩⟩
      · obtain ⟨before, _⟩ := apart span older
        dsimp only
        refine ⟨by omega, fun touches => ?_⟩
        omega

theorem labelled_extend {first left right : Int} {spans : List (Span κ)} (stacked : Stacked first left spans)
    (cell : left < right) (label : κ) (t : Int) (other : κ) :
    Labelled (extend spans left right label) t other ↔
      Labelled spans t other ∨ (left ≤ t ∧ t < right ∧ label = other) := by
  have fresh (others : List (Span κ)) : Labelled ({ startAt := left, endAt := right, label } :: others) t other ↔
      Labelled others t other ∨ (left ≤ t ∧ t < right ∧ label = other) := by
    simp only [Labelled, List.exists_mem_cons_iff, Span.Contains, and_assoc]
    exact or_comm
  cases spans with
  | nil => exact fresh []
  | cons last earlier =>
    obtain ⟨⟨_, nonempty, _⟩, _⟩ := stacked_cons.mp stacked
    unfold Lib.extend
    dsimp only
    split
    next merges =>
      obtain ⟨rfl, rfl⟩ := merges
      have halves : ({ last with endAt := right } : Span κ).Contains t ↔
          last.Contains t ∨ (last.endAt ≤ t ∧ t < right) := by
        simp only [Span.Contains]
        omega
      simp only [Labelled, List.exists_mem_cons_iff, halves, or_and_right, and_assoc]
      exact or_right_comm
    next => exact fresh _

/-- Before the cell the labels stay; in the cell there is the one label. -/
theorem labelled_extend_before {first left right : Int} {spans : List (Span κ)}
    (stacked : Stacked first left spans) (cell : left < right) (label : κ) {t : Int} (before : t < left)
    (other : κ) : Labelled (extend spans left right label) t other ↔ Labelled spans t other := by
  rw [labelled_extend stacked cell]
  exact or_iff_left fun inCell => absurd inCell.1 (not_le.mpr before)

theorem labelled_extend_cell {first left right : Int} {spans : List (Span κ)}
    (stacked : Stacked first left spans) (cell : left < right) (label : κ) {t : Int}
    (inCell : left ≤ t ∧ t < right) (other : κ) :
    Labelled (extend spans left right label) t other ↔ label = other := by
  rw [labelled_extend stacked cell, or_iff_right (stacked.not_labelled inCell.1 other)]
  exact ⟨fun labelled => labelled.2.2, fun same => ⟨inCell.1, inCell.2, same⟩⟩

/-! ## Cells between consecutive boundaries -/

/-- Sorted boundaries start and end with the bounds they contain. -/
theorem eq_cons_of_bounds {boundaries : List Int} (sorted : boundaries.Pairwise (· < ·)) {first last : Int}
    (hasFirst : first ∈ boundaries) (hasLast : last ∈ boundaries)
    (inside : ∀ x ∈ boundaries, first ≤ x ∧ x ≤ last) :
    ∃ rest, boundaries = first :: rest ∧ (first :: rest).getLast (List.cons_ne_nil _ _) = last := by
  cases boundaries with
  | nil => cases hasFirst
  | cons head rest =>
    have isHead : head = first := by
      rcases List.mem_cons.mp hasFirst with same | inRest
      · exact same.symm
      · have before := (List.pairwise_cons.mp sorted).1 first inRest
        have atLeast := (inside head List.mem_cons_self).1
        omega
    subst isHead
    refine ⟨rest, rfl, ?_⟩
    have lastMember := List.getLast_mem (List.cons_ne_nil head rest)
    refine le_antisymm (inside _ lastMember).2 ?_
    exact (sorted.imp le_of_lt).rel_getLast hasLast

/-- Nothing lies strictly between two consecutive boundaries. -/
theorem zip_tail_gap {boundaries : List Int} (sorted : boundaries.Pairwise (· < ·)) :
    ∀ cell ∈ boundaries.zip boundaries.tail, cell.1 < cell.2 ∧ ∀ x ∈ boundaries, x ≤ cell.1 ∨ cell.2 ≤ x := by
  induction boundaries with
  | nil => exact fun _ member => by cases member
  | cons left rest ih =>
    obtain ⟨before, sortedRest⟩ := List.pairwise_cons.mp sorted
    cases rest with
    | nil => exact fun _ member => by cases member
    | cons right later =>
      intro cell member
      rcases List.mem_cons.mp member with rfl | inRest
      · refine ⟨before right List.mem_cons_self, fun x isBoundary => ?_⟩
        rcases List.mem_cons.mp isBoundary with rfl | isLater
        · exact .inl le_rfl
        · rcases List.mem_cons.mp isLater with rfl | afterRight
          · exact .inr le_rfl
          · exact .inr ((List.pairwise_cons.mp sortedRest).1 x afterRight).le
      · obtain ⟨cell₁, between⟩ := ih sortedRest cell inRest
        refine ⟨cell₁, fun x isBoundary => ?_⟩
        rcases List.mem_cons.mp isBoundary with rfl | isLater
        · exact .inl (before cell.1 (List.of_mem_zip inRest).1).le
        · exact between x isLater

/-- A sweep over the cells: the invariant moves from boundary to boundary. -/
theorem foldlM_cells {ε β : Type} {step : β → Int × Int → Except ε β} {Inv : Int → β → Prop}
    (first : Int) (rest : List Int)
    (preserved : ∀ b, ∀ cell ∈ (first :: rest).zip rest, ∀ b', Inv cell.1 b → step b cell = .ok b' → Inv cell.2 b')
    {b b' : β} (start : Inv first b) (swept : ((first :: rest).zip rest).foldlM step b = .ok b') :
    Inv ((first :: rest).getLast (List.cons_ne_nil _ _)) b' := by
  induction rest generalizing first b with
  | nil =>
    cases swept
    exact start
  | cons right later ih =>
    rw [List.zip_cons_cons, List.foldlM_cons, bind_eq_ok] at swept
    obtain ⟨middle, firstStep, swept⟩ := swept
    have moved := preserved b _ List.mem_cons_self middle start firstStep
    exact ih right (fun b cell member => preserved b cell (List.mem_cons_of_mem _ member)) moved swept

end ZeroNvr.Lib
