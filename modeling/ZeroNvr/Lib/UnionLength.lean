import Mathlib

/-! # The length of a union of intervals

One pass over intervals that are sorted by their starts adds up the length of their
union: what an interval adds is the part of it behind the furthest end so far.
-/

namespace ZeroNvr.Lib

open MeasureTheory (volume)

/-! ## Rounding -/

section
variable {K : Type} [Field K] [LinearOrder K] [IsStrictOrderedRing K] [FloorRing K]

/-- The nearest integer, and of two the even one. -/
def roundHalfEven (x : K) : Int :=
  let below := ⌊x⌋
  let part := x - below
  if part < 1 / 2 then below
  else if 1 / 2 < part then below + 1
  else if below % 2 = 0 then below
  else below + 1

end

/-- The instants of half-open intervals. -/
def covered (spans : List (Int × Int)) : Set ℝ := {t | ∃ span ∈ spans, (span.1 : ℝ) ≤ t ∧ t < span.2}

/-- One pass over intervals: what they cover, when `total` is covered up to `until`. -/
def sweep : (total : Int) → (reached : Option Int) → List (Int × Int) → Int
  | total, _, [] => total
  | total, reached, (first, last) :: spans =>
    if last ≤ first then sweep total reached spans
    else
      match reached with
      | none => sweep (total + (last - first)) (some last) spans
      | some stop =>
        if stop < first then sweep (total + (last - first)) (some last) spans
        else if stop < last then sweep (total + (last - stop)) (some last) spans
        else sweep total (some stop) spans

/-- What a sweep has seen: a set of some length that ends where the sweep has reached, with an interval
    there that begins before everything to come. -/
structure Swept (total : Int) (reached : Option Int) (spans : List (Int × Int)) (seen : Set ℝ) : Prop where
  measurable : MeasurableSet seen
  nonneg : 0 ≤ total
  length : volume seen = ENNReal.ofReal total
  start : reached = none → seen = ∅
  ends : ∀ stop, reached = some stop → (∀ t ∈ seen, t < stop) ∧
    ∃ first : Int, Set.Ico (first : ℝ) stop ⊆ seen ∧ ∀ span ∈ spans, first ≤ span.1

section
variable {total first last : Int} {reached : Option Int} {spans : List (Int × Int)} {seen : Set ℝ}

/-- What an interval behind everything seen adds. -/
theorem Swept.add (swept : Swept total reached spans seen) (nonempty : first ≤ last) (behind : ∀ t ∈ seen, t < first) :
    volume (seen ∪ Set.Ico (first : ℝ) last) = ENNReal.ofReal (total + (last - first) : Int) := by
  have disjoint : Disjoint seen (Set.Ico (first : ℝ) last) :=
    Set.disjoint_left.mpr fun t inSeen inside => absurd (behind t inSeen) (not_lt.mpr inside.1)
  have nonneg : (0 : ℝ) ≤ total := by exact_mod_cast swept.nonneg
  have positive : (0 : ℝ) ≤ (last : ℝ) - first := by
    rw [sub_nonneg]
    exact_mod_cast nonempty
  rw [MeasureTheory.measure_union disjoint measurableSet_Ico, swept.length, Real.volume_Ico, ← ENNReal.ofReal_add nonneg positive]
  push_cast
  rfl

/-- An interval behind everything seen. -/
theorem Swept.apart (swept : Swept total reached ((first, last) :: spans) seen) (nonempty : first < last)
    (sorted : ∀ span ∈ spans, first ≤ span.1) (behind : ∀ t ∈ seen, t < first) :
    Swept (total + (last - first)) (some last) spans (seen ∪ Set.Ico (first : ℝ) last) where
  measurable := swept.measurable.union measurableSet_Ico
  nonneg := by
    have nonneg := swept.nonneg
    omega
  length := swept.add nonempty.le behind
  start isNone := by cases isNone
  ends stop isStop := by
    cases isStop
    refine ⟨fun t member => ?_, first, Set.subset_union_right, sorted⟩
    rcases member with inSeen | inside
    · exact (behind t inSeen).trans (by exact_mod_cast nonempty)
    · exact inside.2

/-- An interval that goes on where the seen ones end. -/
theorem Swept.extend {stop : Int} (swept : Swept total (some stop) ((first, last) :: spans) seen) (touches : first ≤ stop)
    (longer : stop < last) : Swept (total + (last - stop)) (some last) spans (seen ∪ Set.Ico (first : ℝ) last) := by
  obtain ⟨behind, begun, inside, before⟩ := swept.ends stop rfl
  have beforeFirst : (begun : ℝ) ≤ first := by exact_mod_cast before (first, last) List.mem_cons_self
  have firstStop : (first : ℝ) ≤ stop := by exact_mod_cast touches
  have same : seen ∪ Set.Ico (first : ℝ) last = seen ∪ Set.Ico (stop : ℝ) last := by
    ext t
    constructor
    · rintro (inSeen | ⟨low, high⟩)
      · exact .inl inSeen
      · rcases lt_or_ge t (stop : ℝ) with early | late
        · exact .inl (inside ⟨beforeFirst.trans low, early⟩)
        · exact .inr ⟨late, high⟩
    · rintro (inSeen | ⟨low, high⟩)
      · exact .inl inSeen
      · exact .inr ⟨firstStop.trans low, high⟩
  refine
    { measurable := swept.measurable.union measurableSet_Ico
      nonneg := ?_
      length := by rw [same, swept.add longer.le behind]
      start := fun isNone => (by cases isNone)
      ends := fun other isOther => ?_ }
  · have nonneg := swept.nonneg
    omega
  · cases isOther
    refine ⟨fun t member => ?_, begun, fun t member => ?_, fun span later => before span (List.mem_cons_of_mem _ later)⟩
    · rcases member with inSeen | inLast
      · exact (behind t inSeen).trans (by exact_mod_cast longer)
      · exact inLast.2
    · rcases lt_or_ge t (stop : ℝ) with early | late
      · exact .inl (inside ⟨member.1, early⟩)
      · exact .inr ⟨firstStop.trans late, member.2⟩

/-- An interval that adds nothing. -/
theorem Swept.skip (swept : Swept total reached ((first, last) :: spans) seen) (inside : Set.Ico (first : ℝ) last ⊆ seen) :
    Swept total reached spans (seen ∪ Set.Ico (first : ℝ) last) := by
  rw [Set.union_eq_left.mpr inside]
  refine { swept with ends := fun stop isStop => ?_ }
  obtain ⟨behind, begun, ends, before⟩ := swept.ends stop isStop
  exact ⟨behind, begun, ends, fun span later => before span (List.mem_cons_of_mem _ later)⟩

end

end ZeroNvr.Lib
