import ZeroNvr.Storage.Retention

/-! # The archive lifecycle

Copying a local recording to an rclone target.  `prepare` and the three finishers
are the transactions of `ArchiveLifecycleService.execute`; what runs between them
works on the plan and on files.  The secret store behind `resolve_rclone` and the
containment check of a path are parameters.
-/

namespace ZeroNvr

structure ResolvedRcloneTarget where
  configText : String
  objectPath : String → String

/-- What the storage services take from outside the catalog. -/
structure StorageEnv where
  resolveRclone : StorageTarget → Result ResolvedRcloneTarget
  resolveWithin : String → String → Option String

/-- The path of an object below the root of a local target. -/
def StorageEnv.containedPath (env : StorageEnv) (target : StorageTarget) (objectPath : String)
    (targetInvalid pathInvalid : PyError) : Result String :=
  match Dict.get target.config "path" with
  | some (.str rawRoot) =>
    if rawRoot = "" then .error targetInvalid
    else match env.resolveWithin rawRoot objectPath with
      | some path => .ok path
      | none => .error pathInvalid
  | _ => .error targetInvalid

def RecordingLocation.failed (errorCode : String) (now : Int) (location : RecordingLocation) : RecordingLocation :=
  { location with state := .failed, lastAttemptAt := some now, lastError := some errorCode }

/-- `_mark_failed` of the archive and of the deletion service: the row is overwritten whatever its
    state is by now. -/
def failLocation (db : Database) (locationId : Uuid) (errorCode : String) (now : Int) : Database :=
  db.modifyLocation locationId (RecordingLocation.failed errorCode now)

structure ArchivePlan where
  segmentId : Uuid
  remoteLocationId : Uuid
  remoteTargetId : Uuid
  sourceLocationId : Uuid
  sourcePath : String
  objectPath : String
  remotePath : String
  expectedSize : Int
  rcloneConfig : String
  verifyExisting : Bool := false

structure ArchiveResult where
  locationId : Uuid
  transferred : Bool
  alreadyAvailable : Bool

inductive Prepared where
  | plan (plan : ArchivePlan)
  | result (result : ArchiveResult)

namespace ArchiveLifecycleService

variable (env : StorageEnv)

def safeLocalPath (target : StorageTarget) (objectPath : String) : Result String :=
  env.containedPath target objectPath
    (.archiveLifecycleError "archive_source_target_invalid" "Local recording storage target is invalid.")
    (.archiveLifecycleError "archive_source_path_invalid" "Recording source path is invalid.")

/-! ## `prepare` -/

def isSourceTarget (target : StorageTarget) : Bool :=
  RetentionPlanner.isRecordingTarget target && target.enabled

/-- The oldest available copy of the segment on an enabled local recording target. -/
def sourceRow (db : Database) (segmentId : Uuid) : Option (RecordingLocation × StorageTarget) := do
  let location ← ((db.locations.select fun location =>
    location.recordingSegmentId = segmentId ∧ location.state = .available ∧
      (db.storageTargets.get? location.storageTargetId).any isSourceTarget).insertionSort
        fun left right => left.createdAt < right.createdAt ∨
          (left.createdAt = right.createdAt ∧ left.id ≤ right.id)).head?
  let target ← db.storageTargets.get? location.storageTargetId
  some (location, target)

/-- The row of an object on a target; the pair is unique. -/
def locationAt (db : Database) (targetId : Uuid) (objectPath : String) : Option RecordingLocation :=
  db.locations.first? fun location =>
    location.storageTargetId = targetId ∧ location.objectPath = objectPath

/-- What a new transfer does to the remote row that exists: an available one is only verified,
    any other is set back to `ARCHIVING`. -/
def reclaimed (verifyExisting : Bool) (sizeBytes now : Int) (location : RecordingLocation) :
    RecordingLocation :=
  { location with
    state := if verifyExisting then location.state else .archiving
    sizeBytes := if verifyExisting then location.sizeBytes else sizeBytes
    lastAttemptAt := some now
    lastError := none
    deletedAt := if verifyExisting then location.deletedAt else none }

/-- The catalog with the remote row of a transfer, and the id of that row. -/
def claimRow (db : Database) (existing : Option RecordingLocation) (verifyExisting : Bool)
    (new : RecordingLocation) (now : Int) : Result (Database × Uuid) :=
  match existing with
  | none =>
    match db.locations.insert? new with
    | some locations => .ok ({ db with locations }, new.id)
    | none => .error .integrityError
  | some row =>
    .ok (db.modifyLocation row.id (reclaimed verifyExisting new.sizeBytes now), row.id)

def prepare (db : Database) (segmentId targetId newId : Uuid) (now : Int) : Result (Database × Prepared) :=
  match db.segments.get? segmentId with
  | none => .error (.archiveLifecycleError "archive_segment_missing" "Recording segment is unavailable.")
  | some segment =>
  match (db.storageTargets.get? targetId).filter fun target =>
    RetentionPlanner.isArchiveTarget target && target.enabled with
  | none => .error (.archiveLifecycleError "archive_target_unavailable"
      "Archive storage target is unavailable.")
  | some remoteTarget =>
  match sourceRow db segment.id with
  | none => .error (.archiveLifecycleError "archive_source_unavailable"
      "No available local recording copy exists.")
  | some (source, sourceTarget) =>
    let existing := locationAt db remoteTarget.id source.objectPath
    if existing.any fun row => row.recordingSegmentId ≠ segment.id then
      .error (.archiveLifecycleError "archive_location_conflict"
        "Archive object path is already owned by another recording segment.")
    else if existing.any fun row => row.state = .available ∧ row.sizeBytes ≠ source.sizeBytes then
      .error (.archiveLifecycleError "archive_location_conflict"
        "Archive location exists with different media facts.")
    else match existing.filter fun row => row.state = .available ∧ row.verifiedAt.isSome with
    | some row => .ok (db, .result { locationId := row.id, transferred := false, alreadyAvailable := true })
    | none => do
      let verifyExisting := existing.any fun row => row.state = .available
      let resolved ← env.resolveRclone remoteTarget
      let sourcePath ← safeLocalPath env sourceTarget source.objectPath
      let (db', remoteLocationId) ← claimRow db existing verifyExisting
        { id := newId, recordingSegmentId := segment.id, storageTargetId := remoteTarget.id
          objectPath := source.objectPath, state := .archiving, sizeBytes := source.sizeBytes
          lastAttemptAt := some now, createdAt := now } now
      .ok (db', .plan
        { segmentId := segment.id, remoteLocationId, remoteTargetId := remoteTarget.id
          sourceLocationId := source.id, sourcePath, objectPath := source.objectPath
          remotePath := resolved.objectPath source.objectPath, expectedSize := source.sizeBytes
          rcloneConfig := resolved.configText, verifyExisting })

/-! ## The finishers -/

/-- The source row is only marked while it is available. -/
def sourceMissing (now : Int) (source : RecordingLocation) : RecordingLocation :=
  { source with
    state := if source.state = .available then .missing else source.state
    lastError := if source.state = .available then some "archive_source_missing" else source.lastError
    lastAttemptAt := if source.state = .available then some now else source.lastAttemptAt }

def markSourceMissing (db : Database) (sourceLocationId : Uuid) (now : Int) : Database :=
  db.modifyLocation sourceLocationId (sourceMissing now)

def markFailed (db : Database) (locationId : Uuid) (errorCode : String) (now : Int) : Database :=
  failLocation db locationId errorCode now

def madeAvailable (expectedSize now : Int) (location : RecordingLocation) : RecordingLocation :=
  { location with
    state := .available
    sizeBytes := expectedSize
    verifiedAt := some now
    lastAttemptAt := some now
    lastError := none
    deletedAt := none }

def markAvailable (db : Database) (locationId : Uuid) (expectedSize now : Int) : Result Database :=
  match db.locations.get? locationId with
  | none => .error (.archiveLifecycleError "archive_location_missing"
      "Archive location disappeared before verification completed.")
  | some _ => .ok (db.modifyLocation locationId (madeAvailable expectedSize now))

/-! ## Between the transactions -/

/-- Where an execution stands between two of its transactions. -/
inductive Stage where
  | prepared | transferring | sourceMissing
  | failing (errorCode : String)
  | transferred
  deriving DecidableEq

/-- The source file is looked at before the transfer; `files` gives the size of a file. -/
def checkSource (files : String → Option Int) (plan : ArchivePlan) : Stage :=
  match files plan.sourcePath with
  | none => .sourceMissing
  | some actualSize =>
    if actualSize ≠ plan.expectedSize then .failing "archive_source_size_mismatch" else .transferring

/-- An error is the code of the `RcloneIntegrationError` raised. -/
def afterCopy (outcome : Except String Unit) : Stage :=
  match outcome with
  | .ok () => .transferred
  | .error code => .failing code

def afterStat (plan : ArchivePlan) (outcome : Except String Int) : Stage :=
  match outcome with
  | .ok sizeBytes => if sizeBytes ≠ plan.expectedSize then .failing "rclone_size_mismatch" else .transferred
  | .error code => .failing code

end ArchiveLifecycleService

end ZeroNvr
