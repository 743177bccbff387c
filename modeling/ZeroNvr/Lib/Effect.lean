import Mathlib

/-! # Computations with effects that may fail

A computation that raises keeps the effects it has had.  `Returns` is its
successful outcome: from a state, with a value, in a state.
-/

namespace ZeroNvr.Lib

variable {ε σ α β : Type}

/-- A computation that changes a state and may raise; the state outlives the exception. -/
abbrev Effect (ε σ α : Type) := ExceptT ε (StateM σ) α

namespace Effect

/-- What comes of a computation: an error or a value, and the state it leaves. -/
def outcome (x : Effect ε σ α) (s : σ) : Except ε α × σ := StateT.run (ExceptT.run x) s

def Returns (x : Effect ε σ α) (s : σ) (a : α) (t : σ) : Prop := x.outcome s = (.ok a, t)

theorem returns_pure {a b : α} {s t : σ} : Returns (pure a : Effect ε σ α) s b t ↔ a = b ∧ s = t := by
  constructor
  · intro done
    cases done
    exact ⟨rfl, rfl⟩
  · rintro ⟨rfl, rfl⟩
    rfl

theorem not_returns_throw {e : ε} {s t : σ} {a : α} : ¬ Returns (throw e : Effect ε σ α) s a t := by
  intro done
  cases done

theorem returns_bind {first : Effect ε σ α} {rest : α → Effect ε σ β} {s t : σ} {b : β} :
    Returns (first >>= rest) s b t ↔ ∃ a m, Returns first s a m ∧ Returns (rest a) m b t := by
  have unfolded : (first >>= rest).outcome s = match first.outcome s with
      | (.ok a, m) => (rest a).outcome m
      | (.error e, m) => (.error e, m) := by
    simp only [outcome, ExceptT.run_bind, StateT.run_bind]
    cases StateT.run (ExceptT.run first) s with
    | mk result m => cases result <;> rfl
  unfold Returns
  rw [unfolded]
  cases first.outcome s with
  | mk result m =>
    cases result with
    | ok a =>
      constructor
      · exact fun done => ⟨a, m, rfl, done⟩
      · rintro ⟨_, _, same, done⟩
        cases same
        exact done
    | error e =>
      constructor
      · intro done
        cases done
      · rintro ⟨_, _, same, _⟩
        cases same

theorem returns_get {s t : σ} {a : σ} : Returns (get : Effect ε σ σ) s a t ↔ a = s ∧ t = s := by
  constructor
  · intro done
    cases done
    exact ⟨rfl, rfl⟩
  · rintro ⟨rfl, rfl⟩
    rfl

theorem returns_modify {f : σ → σ} {s t : σ} {a : PUnit} : Returns (modify f : Effect ε σ PUnit) s a t ↔ t = f s := by
  constructor
  · intro done
    cases done
    rfl
  · rintro rfl
    rfl

/-- Run a computation for its effects, where the condition holds. -/
def when (condition : Bool) (x : Effect ε σ PUnit) : Effect ε σ PUnit := if condition then x else pure ⟨⟩

theorem returns_when {condition : Bool} {x : Effect ε σ PUnit} {s t : σ} {a : PUnit} :
    Returns (when condition x) s a t ↔ (condition = true ∧ Returns x s a t) ∨ (condition = false ∧ t = s) := by
  cases condition with
  | true => simp [when]
  | false =>
    have ended := @returns_pure ε σ PUnit ⟨⟩ a s t
    simp only [when, Bool.false_eq_true, if_false, ended, true_and, false_and, false_or]
    exact eq_comm

end Effect

end ZeroNvr.Lib
