import ZeroNvr.Storage.Retention

/-! # Batches of retention decisions

`plan` evaluates one page of the available local copies, oldest first;
`actionable_plan` reads pages until it has enough actions.  Under pressure it
reads up to a scan limit and puts the most harmless deletions first.
-/

namespace ZeroNvr

open Lib

inductive ActionKind where
  | archive | delete
  deriving DecidableEq

/-- The settings of an action batch. -/
structure BatchSettings where
  now : Int
  pressure : Bool := false
  pressureTargetIds : List Uuid := []
  pageSize : Nat := 500
  actionLimit : Nat := 500
  emergencyScanLimit : Nat := 5000

namespace RetentionPlanner

/-! ## The available local copies -/

def segmentEnd (db : Database) (location : RecordingLocation) : Int :=
  ((db.segments.get? location.recordingSegmentId).map RecordingSegment.endedAt).getD 0

/-- `ORDER BY ended_at, id` -/
def endsBefore (db : Database) (left right : RecordingLocation) : Prop :=
  segmentEnd db left < segmentEnd db right ∨ (segmentEnd db left = segmentEnd db right ∧ left.id ≤ right.id)

instance (db : Database) : DecidableRel (endsBefore db) := fun _ _ => inferInstanceAs (Decidable (_ ∨ _))

def isCandidate (db : Database) (location : RecordingLocation) : Bool :=
  isLocalAvailable db location && (db.segments.get? location.recordingSegmentId).isSome

def candidates (db : Database) : List RecordingLocation :=
  (db.locations.select (isCandidate db)).insertionSort (endsBefore db)

def pressed (settings : BatchSettings) (location : RecordingLocation) : Bool :=
  settings.pressure || decide (location.storageTargetId ∈ settings.pressureTargetIds)

/-- One page of decisions. -/
def plan (db : Database) (settings : BatchSettings) (limit offset : Nat) : Result (List RetentionDecision) :=
  if limit < 1 ∨ 5000 < limit then
    .error (apiError 400 "retention_limit_invalid" "Retention batch limit is invalid.")
  else (((candidates db).drop offset).take limit).mapM fun location =>
    evaluate db location settings.now (pressed settings location)

/-! ## The actions of a batch -/

def emergency (settings : BatchSettings) : Bool := settings.pressure || !settings.pressureTargetIds.isEmpty

/-- The bucket of `_emergency_priority`. -/
def priorityBucket (decision : RetentionDecision) : Nat :=
  if decision.archiveTargetId.isSome then 4
  else if decision.pressureOverride then 3
  else if decision.eligibleForDelete ∧ decision.verifiedArchiveAvailable then 0
  else if decision.eligibleForDelete ∧ decision.retentionClass = .ordinary then 1
  else 2

/-- `deadline or datetime.max` -/
def deadlineBefore : Option Int → Option Int → Bool
  | some left, some right => left < right
  | some _, none => true
  | none, _ => false

/-- The order of `_emergency_priority`. -/
def urgent (left right : RetentionDecision) : Bool :=
  priorityBucket left < priorityBucket right ∨
  (priorityBucket left = priorityBucket right ∧ (deadlineBefore left.deadline right.deadline ∨
    (left.deadline = right.deadline ∧ (left.segmentId < right.segmentId ∨
      (left.segmentId = right.segmentId ∧ left.locationId ≤ right.locationId)))))

end RetentionPlanner

end ZeroNvr
