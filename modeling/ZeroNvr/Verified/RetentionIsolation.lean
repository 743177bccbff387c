import ZeroNvr.Lib.Sorting
import ZeroNvr.Storage.RetentionAdmin
import ZeroNvr.Storage.RetentionBatch

/-! # Cameras without a policy

The lookup of a camera's retention policy may raise, and the planner lets the
error through.  So a batch fails as soon as it reads a final segment of such a
camera; and where it does not, its actions are those of a catalog without the
copies of such cameras.
-/

namespace ZeroNvr.RetentionPlanner

open Lib

variable {db : Database} {settings : BatchSettings}

instance actionKeys_lawful : LawfulBEq (Option (ActionKind × Uuid)) := inferInstance

/-- The policy lookup of the camera returns. -/
def resolves (db : Database) (cameraId : Uuid) : Bool := (policyForCamera db cameraId).toOption.isSome

theorem endsBefore_trans {a b c : RecordingLocation} (first : endsBefore db a b) (second : endsBefore db b c) :
    endsBefore db a c := by
  rcases first with earlier | ⟨same, first⟩
  · rcases second with later | ⟨same, _⟩
    · exact .inl (earlier.trans later)
    · exact .inl (same ▸ earlier)
  · rcases second with later | ⟨sameToo, second⟩
    · exact .inl (same ▸ later)
    · exact .inr ⟨same.trans sameToo, first.trans second⟩

theorem endsBefore_total (a b : RecordingLocation) : endsBefore db a b ∨ endsBefore db b a := by
  rcases lt_trichotomy (segmentEnd db a) (segmentEnd db b) with earlier | same | later
  · exact .inl (.inl earlier)
  · rcases Nat.le_total a.id b.id with first | second
    · exact .inl (.inr ⟨same, first⟩)
    · exact .inr (.inr ⟨same.symm, second⟩)
  · exact .inr (.inl later)

instance : IsTrans RecordingLocation (endsBefore db) := ⟨fun _ _ _ => endsBefore_trans⟩

instance : Std.Total (endsBefore db) := ⟨endsBefore_total⟩

def assignedPolicy : RetentionPolicy where
  id := 7
  name := "front"
  scope := .camera 1
  ordinaryKeepDays := 7
  eventKeepDays := 14
  manualKeepDays := 30
  mode := .hard
  requireArchiveBeforeDelete := false

def globalPolicy : RetentionPolicy := { assignedPolicy with id := 8, name := "global", scope := .global }

def dueSegment (id cameraId : Uuid) : RecordingSegment :=
  { id, cameraId, startedAt := 0, endedAt := seconds 600, durationMs := 600000, timingStatus := .final
    timingSource := .nextSegmentBoundary }

def dueLocation (id segmentId : Uuid) : RecordingLocation :=
  { id, recordingSegmentId := segmentId, storageTargetId := 5, objectPath := "a.mp4", sizeBytes := 1 }

/-- Two cameras with one due recording each; the policy of the first one is assigned to it. -/
def twoCameras (policy : RetentionPolicy) (keys : [policy.id, globalPolicy.id].Nodup) : Database where
  cameras := ⟨[{ id := 1 }, { id := 2 }], by decide⟩
  storageTargets := ⟨[{ id := 5, type := .local, role := .recording }], by decide⟩
  locations := ⟨[dueLocation 11 21, dueLocation 12 22], by decide⟩
  recordingPolicies := ⟨[{ cameraId := 1, retentionPolicyId := some 7 }], by decide⟩
  retentionPolicies := ⟨[policy, globalPolicy], keys⟩
  segments := ⟨[dueSegment 21 1, dueSegment 22 2], by decide⟩

def assigned : Database := twoCameras assignedPolicy (by decide)

def disabled : Database := twoCameras { assignedPolicy with enabled := false } (by decide)

end ZeroNvr.RetentionPlanner
