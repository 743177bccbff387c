import Mathlib

/-! # Runs of a step relation

A run takes one labelled step after another.  An invariant that every step
preserves holds in every state a run reaches; an invariant may also speak about
the labels already taken.
-/

namespace ZeroNvr.Lib

variable {σ ε : Type}

/-- `Run step s es s'`: taking the steps labelled `es` in order leads from `s` to `s'`. -/
inductive Run (step : σ → ε → σ → Prop) : σ → List ε → σ → Prop
  | done (s : σ) : Run step s [] s
  | next {s t u : σ} {e : ε} {es : List ε} : step s e t → Run step t es u → Run step s (e :: es) u

namespace Run

variable {step : σ → ε → σ → Prop}

theorem invariant {Inv : σ → Prop} (preserved : ∀ s e t, Inv s → step s e t → Inv t)
    {s t : σ} {es : List ε} (run : Run step s es t) (start : Inv s) : Inv t := by
  induction run with
  | done s => exact start
  | next first _ ih => exact ih (preserved _ _ _ start first)

/-- The invariant may speak about the labels taken so far. -/
theorem invariant_past {Inv : List ε → σ → Prop}
    (preserved : ∀ past s e t, Inv past s → step s e t → Inv (past ++ [e]) t)
    {s t : σ} {es : List ε} (run : Run step s es t) (past : List ε) (start : Inv past s) :
    Inv (past ++ es) t := by
  induction run generalizing past with
  | done s => simpa using start
  | @next s t u e es first _ ih =>
    have continued := ih (past ++ [e]) (preserved past s e t start first)
    simpa using continued

theorem append {s t u : σ} {es fs : List ε} (first : Run step s es t) (second : Run step t fs u) :
    Run step s (es ++ fs) u := by
  induction first with
  | done s => exact second
  | next step _ ih => exact .next step (ih second)

/-- A run passes through a state after each prefix of its labels. -/
theorem split {s u : σ} {es fs : List ε} (run : Run step s (es ++ fs) u) :
    ∃ t, Run step s es t ∧ Run step t fs u := by
  induction es generalizing s with
  | nil => exact ⟨s, .done s, run⟩
  | cons e es ih =>
    cases run with
    | next first rest =>
      obtain ⟨t, before, after⟩ := ih rest
      exact ⟨t, .next first before, after⟩

/-- A step relation that allows fewer steps has fewer runs. -/
theorem mono {step' : σ → ε → σ → Prop} (weaker : ∀ s e t, step s e t → step' s e t)
    {s t : σ} {es : List ε} (run : Run step s es t) : Run step' s es t := by
  induction run with
  | done s => exact .done s
  | next first _ ih => exact .next (weaker _ _ _ first) ih

end Run

end ZeroNvr.Lib
