import ZeroNvr.Verified.RetentionIsolation

/-! # The actions of a batch

A batch that is made holds the first actions of the naive scan, and under pressure
the most urgent ones among those of the copies that are read.  So a deletion under
pressure is in the batch, or the batch is full of actions that are no less urgent.
-/

namespace ZeroNvr.RetentionPlanner

open Lib

variable {db : Database} {settings : BatchSettings}

/-! ## The order of urgency -/

/-- `deadline or datetime.max`, where no deadline reaches the last one. -/
def deadlineKey : Option Int → WithTop Int
  | some deadline => (deadline : WithTop Int)
  | none => ⊤

/-- The tuple of `_emergency_priority`. -/
def priorityKey (decision : RetentionDecision) : Nat ×ₗ WithTop Int ×ₗ Nat ×ₗ Nat :=
  toLex (priorityBucket decision, toLex (deadlineKey decision.deadline, toLex (decision.segmentId, decision.locationId)))

theorem deadlineBefore_iff (left right : Option Int) :
    deadlineBefore left right = true ↔ deadlineKey left < deadlineKey right := by
  cases left with
  | none => exact iff_of_false Bool.false_ne_true not_top_lt
  | some left =>
    cases right with
    | none => exact iff_of_true rfl (WithTop.coe_lt_top left)
    | some right => exact decide_eq_true_iff.trans WithTop.coe_lt_coe.symm

theorem deadlineKey_inj {left right : Option Int} : deadlineKey left = deadlineKey right ↔ left = right := by
  cases left <;> cases right <;> simp [deadlineKey]

theorem urgent_iff (left right : RetentionDecision) :
    urgent left right = true ↔ priorityKey left ≤ priorityKey right := by
  simp only [urgent, priorityKey, Prod.Lex.toLex_le_toLex, decide_eq_true_eq, deadlineBefore_iff, deadlineKey_inj]

instance : IsTrans RetentionDecision fun left right => urgent left right = true :=
  ⟨fun a b c first second => (urgent_iff a c).mpr (((urgent_iff a b).mp first).trans ((urgent_iff b c).mp second))⟩

instance : Std.Total fun left right : RetentionDecision => urgent left right = true :=
  ⟨fun a b => (le_total (priorityKey a) (priorityKey b)).imp (urgent_iff a b).mpr (urgent_iff b a).mpr⟩

/-! ## The actions of a scan -/

/-- The copies whose decisions a batch is made from. -/
def readCopies (db : Database) (settings : BatchSettings) : List RecordingLocation :=
  if emergency settings then (candidates db).take settings.emergencyScanLimit else candidates db

theorem readCopies_sublist (db : Database) (settings : BatchSettings) : (readCopies db settings).Sublist (candidates db) := by
  unfold readCopies
  split
  · exact List.take_sublist _ _
  · exact List.Sublist.refl _

/-- Three copies: one on the first disk that is not final, a due one on the second disk, and a younger
    due one on the first disk. -/
def twoDisks : Database where
  cameras := ⟨[{ id := 1 }], by decide⟩
  storageTargets := ⟨[{ id := 5, type := .local, role := .recording }, { id := 6, type := .local, role := .recording }],
    by decide⟩
  locations := ⟨[dueLocation 11 21, { dueLocation 12 22 with storageTargetId := 6 }, dueLocation 13 23], by decide⟩
  retentionPolicies := ⟨[globalPolicy], by decide⟩
  segments := ⟨[{ dueSegment 21 1 with timingStatus := .provisional }, { dueSegment 22 1 with endedAt := seconds 1200 },
    { dueSegment 23 1 with endedAt := seconds 1800 }], by decide⟩

end ZeroNvr.RetentionPlanner
