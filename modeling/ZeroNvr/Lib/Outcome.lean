import Mathlib

/-! # Computations that may fail

Inversion of a successful computation in `Except`: a bind that succeeds had a
successful first half, and a fold that succeeds had a successful step at every
element, so an invariant of the step is an invariant of the fold.
-/

namespace ZeroNvr.Lib

variable {ε α β : Type}

theorem bind_eq_ok {first : Except ε α} {rest : α → Except ε β} {b : β} :
    first >>= rest = .ok b ↔ ∃ a, first = .ok a ∧ rest a = .ok b := by
  cases first <;> simp [bind, Except.bind]

theorem map_eq_ok {f : α → β} {first : Except ε α} {b : β} :
    f <$> first = .ok b ↔ ∃ a, first = .ok a ∧ f a = b := by
  cases first <;> simp [Functor.map, Except.map]

theorem foldlM_invariant {step : β → α → Except ε β} {Inv : β → Prop} (items : List α)
    (preserved : ∀ b, ∀ a ∈ items, ∀ b', Inv b → step b a = .ok b' → Inv b')
    {b b' : β} (start : Inv b) (folded : items.foldlM step b = .ok b') : Inv b' := by
  induction items generalizing b with
  | nil =>
    cases folded
    exact start
  | cons item items ih =>
    rw [List.foldlM_cons, bind_eq_ok] at folded
    obtain ⟨middle, first, rest⟩ := folded
    exact ih (fun b a member => preserved b a (List.mem_cons_of_mem _ member))
      (preserved b item List.mem_cons_self middle start first) rest

/-- The invariant may rely on what was folded before. -/
theorem foldlM_invariant_prefix {step : β → α → Except ε β} {Inv : β → Prop} {start last : β} (items : List α)
    (preserved : ∀ before item after, items = before ++ item :: after →
      ∀ b b', before.foldlM step start = .ok b → Inv b → step b item = .ok b' → Inv b')
    (startInv : Inv start) (folded : items.foldlM step start = .ok last) : Inv last := by
  induction items using List.reverseRecOn generalizing last with
  | nil =>
    cases folded
    exact startInv
  | append_singleton items item ih =>
    rw [List.foldlM_append, bind_eq_ok] at folded
    obtain ⟨middle, before, step_⟩ := folded
    have middleInv : Inv middle := ih (fun before item' after split => preserved before item' (after ++ [item])
      (by rw [split, List.append_assoc, List.cons_append])) before
    simp only [List.foldlM_cons, List.foldlM_nil, bind_pure] at step_
    exact preserved items item [] rfl middle last before middleInv step_

/-- The invariant may speak about what is still to be folded. -/
theorem foldlM_invariant_rest {step : β → α → Except ε β} {Inv : List α → β → Prop} (items : List α)
    (preserved : ∀ item rest b b', Inv (item :: rest) b → step b item = .ok b' → Inv rest b')
    {b b' : β} (start : Inv items b) (folded : items.foldlM step b = .ok b') : Inv [] b' := by
  induction items generalizing b with
  | nil =>
    cases folded
    exact start
  | cons item items ih =>
    rw [List.foldlM_cons, bind_eq_ok] at folded
    obtain ⟨middle, first, rest⟩ := folded
    exact ih (preserved item items b middle start first) rest

theorem foldlM_ok {step : β → α → Except ε β} {Inv : β → Prop} (items : List α)
    (succeeds : ∀ b, ∀ a ∈ items, Inv b → ∃ b', step b a = .ok b' ∧ Inv b')
    {b : β} (start : Inv b) : ∃ b', items.foldlM step b = .ok b' ∧ Inv b' := by
  induction items generalizing b with
  | nil => exact ⟨b, rfl, start⟩
  | cons item items ih =>
    obtain ⟨middle, first, kept⟩ := succeeds b item List.mem_cons_self start
    obtain ⟨last, rest, keptLast⟩ := ih (fun b a member => succeeds b a (List.mem_cons_of_mem _ member)) kept
    exact ⟨last, by rw [List.foldlM_cons, bind_eq_ok]; exact ⟨middle, first, rest⟩, keptLast⟩

/-! ## A computation for each item -/

/-- What the computations that succeed yield. -/
def successes (f : α → Except ε β) (items : List α) : List β := items.filterMap fun item => (f item).toOption

/-- All computations succeed, or one fails and the whole with it. -/
theorem mapM_cases (f : α → Except ε β) (items : List α) :
    (items.mapM f = .ok (successes f items) ∧ ∀ item ∈ items, (f item).toOption.isSome) ∨
      (∃ e, items.mapM f = .error e) ∧ ∃ item ∈ items, (f item).toOption = none := by
  induction items with
  | nil => exact .inl ⟨rfl, fun _ inNil => absurd inNil List.not_mem_nil⟩
  | cons item items ih =>
    rw [List.mapM_cons]
    cases first : f item with
    | error e => exact .inr ⟨⟨e, rfl⟩, item, List.mem_cons_self, by rw [first]; rfl⟩
    | ok value =>
      rcases ih with ⟨rest, succeed⟩ | ⟨⟨e, rest⟩, other, member, fails⟩
      · refine .inl ⟨?_, fun other member => ?_⟩
        · have yields : successes f (item :: items) = value :: successes f items := by
            rw [successes, List.filterMap_cons, first]
            rfl
          rw [rest, yields]
          rfl
        · rcases List.mem_cons.mp member with rfl | inTail
          · rw [first]
            rfl
          · exact succeed other inTail
      · refine .inr ⟨⟨e, ?_⟩, other, List.mem_cons_of_mem _ member, fails⟩
        rw [rest]
        rfl

theorem mapM_ok_of_forall {f : α → Except ε β} {items : List α} (succeed : ∀ item ∈ items, (f item).toOption.isSome) :
    items.mapM f = .ok (successes f items) := by
  rcases mapM_cases f items with ⟨done, _⟩ | ⟨_, item, member, fails⟩
  · exact done
  · have isSome := succeed item member
    rw [fails] at isSome
    cases isSome

theorem mapM_error_of_mem {f : α → Except ε β} {items : List α} {item : α} (member : item ∈ items)
    (fails : (f item).toOption = none) : ∃ e, items.mapM f = .error e := by
  rcases mapM_cases f items with ⟨_, succeed⟩ | ⟨failed, _⟩
  · have isSome := succeed item member
    rw [fails] at isSome
    cases isSome
  · exact failed

/-- Values that are all there are put together. -/
theorem mapM_eq_some_of_forall {f : α → Option β} {items : List α} (known : ∀ item ∈ items, (f item).isSome = true) :
    ∃ results, items.mapM f = some results ∧ ∀ b, b ∈ results ↔ ∃ a ∈ items, f a = some b := by
  induction items with
  | nil => exact ⟨[], rfl, by simp⟩
  | cons item items ih =>
    obtain ⟨first, isFirst⟩ := Option.isSome_iff_exists.mp (known item List.mem_cons_self)
    obtain ⟨rest, isRest, member⟩ := ih fun other inRest => known other (List.mem_cons_of_mem _ inRest)
    refine ⟨first :: rest, by rw [List.mapM_cons, isFirst, isRest]; rfl, fun b => ?_⟩
    rw [List.mem_cons, member, List.exists_mem_cons_iff, isFirst, Option.some.injEq, eq_comm]

end ZeroNvr.Lib
