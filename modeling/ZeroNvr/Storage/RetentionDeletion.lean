import ZeroNvr.Storage.Archive

/-! # The deletion of local copies

`LocalRetentionDeletionService.execute` in two transactions: the first evaluates
the location and commits `DELETING`, the second commits `DELETED` once the file
is gone, or `FAILED` when it could not be unlinked.
-/

namespace ZeroNvr

def RetentionReason.text : RetentionReason → String
  | .segmentMissing => "segment_missing"
  | .notLocalAvailable => "not_local_available"
  | .segmentNotFinal => "segment_not_final"
  | .retentionPolicyMissing => "retention_policy_missing"
  | .protected_ => "protected"
  | .activeEvent => "active_event"
  | .beforeDeadline => "before_deadline"
  | .archiveRequired => "archive_required"
  | .archiveUnavailable => "archive_unavailable"
  | .eligible => "eligible"

structure RetentionDeleteResult where
  locationId : Uuid
  deleted : Bool
  reason : String

inductive DeletionStarted where
  | deleting (filePath : String)
  | result (result : RetentionDeleteResult)

namespace LocalRetentionDeletionService

variable (env : StorageEnv)

def safePath (target : StorageTarget) (objectPath : String) : Result String :=
  env.containedPath target objectPath
    (.retentionDeleteError "retention_local_target_invalid" "Local recording target is invalid.")
    (.retentionDeleteError "retention_local_path_invalid" "Local recording path is invalid.")

def deleting (now : Int) (location : RecordingLocation) : RecordingLocation :=
  { location with state := .deleting, lastAttemptAt := some now, lastError := none }

/-- The first transaction. -/
def start (db : Database) (locationId : Uuid) (pressure : Bool) (now : Int) :
    Result (Database × DeletionStarted) :=
  match db.locations.get? locationId with
  | none => .error (.retentionDeleteError "retention_location_missing" "Recording location is unavailable.")
  | some location =>
    let kept (reason : String) : Database × DeletionStarted :=
      (db, .result { locationId := location.id, deleted := false, reason })
    if location.state = .deleted then .ok (kept "already_deleted")
    else if location.state ≠ .available then .ok (kept "not_available")
    else do
      let decision ← RetentionPlanner.evaluate db location now pressure
      if ¬ decision.eligibleForDelete then .ok (kept decision.reason.text)
      else match db.storageTargets.get? location.storageTargetId with
      | none => .error (.retentionDeleteError "retention_local_target_missing"
          "Local recording target is unavailable.")
      | some target => do
        let filePath ← safePath env target location.objectPath
        .ok (db.modifyLocation location.id (deleting now), .deleting filePath)

def markFailed (db : Database) (locationId : Uuid) (errorCode : String) (now : Int) : Database :=
  failLocation db locationId errorCode now

def deleted (now : Int) (location : RecordingLocation) : RecordingLocation :=
  { location with
    state := .deleted, deletedAt := some now, lastAttemptAt := some now, lastError := none }

/-- The last transaction. -/
def finish (db : Database) (locationId : Uuid) (now : Int) : Result (Database × RetentionDeleteResult) :=
  match db.locations.get? locationId with
  | none => .error (.retentionDeleteError "retention_location_missing"
      "Recording location disappeared during deletion.")
  | some _ => .ok (db.modifyLocation locationId (deleted now), { locationId, deleted := true, reason := "deleted" })

end LocalRetentionDeletionService

end ZeroNvr
