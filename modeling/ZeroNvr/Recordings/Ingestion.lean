import ZeroNvr.Recordings.Catalog
import ZeroNvr.Storage.Resolver

/-! # The ingestion of finalized recordings

A finished file becomes a segment with one local copy, under the times its hook
reports.  The times are replaced once, when a boundary of the same stream is
known; until then the segment is provisional.
-/

namespace ZeroNvr

open Lib

/-- What the catalog takes from outside.  The seconds of a hook are rationals; `datetime.fromtimestamp`
    and `int(round(value * 1000))` are parameters, as is `uuid.UUID(hex=...)`. -/
structure CatalogEnv where
  zoneInfo : String → Result TimeZone
  paths : PathEnv
  parseUuid : String → Option Uuid
  fromTimestamp : ℚ → Int
  roundMs : ℚ → Int

structure FinalizedRecordingEvidence where
  vhost : String
  app : String
  stream : String
  startTimeEpoch : ℚ
  durationSeconds : ℚ
  fileSize : Int
  filePath : String

structure CatalogIngestResult where
  segment : Option RecordingSegment
  created : Bool
  ignored : Bool := false
  ignoreReason : Option String := none

/-! ## Rows -/

/-- A new segment; its range is checked, and it refers to rows that exist. -/
def Database.insertSegment (db : Database) (segment : RecordingSegment) : Result Database :=
  if segment.endedAt ≤ segment.startedAt then .error .integrityError
  else if (db.cameras.get? segment.cameraId).isNone ∨
      segment.streamProfileId.any (fun id => (db.streamProfiles.get? id).isNone) then .error .integrityError
  else match db.segments.insert? segment with
    | some segments => .ok { db with segments }
    | none => .error .integrityError

/-- The row of an object on a target. -/
def Database.locationAt (db : Database) (targetId : Uuid) (objectPath : String) : Option RecordingLocation :=
  db.locations.first? fun location => location.storageTargetId = targetId ∧ location.objectPath = objectPath

/-- A new copy; target and path are unique, and the target exists. -/
def Database.insertLocation (db : Database) (location : RecordingLocation) : Result Database :=
  if (db.locationAt location.storageTargetId location.objectPath).isSome then .error .integrityError
  else if (db.storageTargets.get? location.storageTargetId).isNone then .error .integrityError
  else match db.locations.insert? location with
    | some locations => .ok { db with locations }
    | none => .error .integrityError

/-- A segment and its copy on a local target. -/
def Database.insertRecording (uuid4 : Supply Uuid) (db : Database) (segment : RecordingSegment)
    (targetId : Uuid) (objectPath : String) (verifiedAt lastAttemptAt : Option Int) : Result Database := do
  let stored ← db.insertSegment segment
  stored.insertLocation
    { id := db.locations.newKey uuid4, recordingSegmentId := segment.id, storageTargetId := targetId, objectPath
      state := .available, sizeBytes := segment.sizeBytes, verifiedAt, lastAttemptAt }

/-- One segment row is changed. -/
def Database.modifySegment (db : Database) (id : Uuid) (f : RecordingSegment → RecordingSegment)
    (keeps : ∀ row, (f row).id = row.id := by intro _; rfl) : Database :=
  { db with segments := db.segments.modify id f keeps }

/-! ## Timing -/

def durationMilliseconds (env : CatalogEnv) (durationSeconds : ℚ) : Nat :=
  (max 1 (env.roundMs durationSeconds)).toNat

/-- The segment ends at the boundary and keeps its length. -/
def RecordingSegment.endingAt (boundaryAt : Int) (timingSource : TimingSource) (segment : RecordingSegment) :
    RecordingSegment :=
  { segment with
    startedAt := boundaryAt - milliseconds segment.durationMs
    endedAt := boundaryAt
    timingStatus := .final
    timingSource }

namespace RecordingCatalogService

variable (env : CatalogEnv) (uuid4 : Supply Uuid)

def expectedApp : String := "zero-nvr"
def streamPrefix : String := "profile-"

def profileIdFromStream (stream : String) : Result Uuid :=
  let unrecognized (message : String) := apiError 422 "recording_stream_unrecognized" message
  if ¬ streamPrefix.toList.isPrefixOf stream.toList then
    .error (unrecognized "Recording stream identity is not managed by zero-nvr.")
  else match env.parseUuid (String.ofList (stream.toList.drop streamPrefix.length)) with
    | some id => .ok id
    | none => .error (unrecognized "Recording stream identity is invalid.")

/-- A provisional segment that starts before the boundary, and still does once it ends there. -/
def finalizable (boundaryAt : Int) (segment : RecordingSegment) : Bool :=
  segment.timingStatus = .provisional ∧ segment.startedAt < boundaryAt ∧
    boundaryAt - milliseconds segment.durationMs < boundaryAt

def finalizePreviousFromBoundary (db : Database) (profileId previousSegmentId : Uuid) (boundaryAt : Int) : Database :=
  match db.segments.get? previousSegmentId with
  | none => db
  | some previous =>
    if previous.streamProfileId = some profileId ∧ finalizable boundaryAt previous then
      db.modifySegment previous.id (RecordingSegment.endingAt boundaryAt .nextSegmentBoundary)
    else db

def finalizeProvisionalSegment (db : Database) (segmentId : Uuid) (boundaryAt : Int) (timingSource : TimingSource) :
    Database × Option RecordingSegment :=
  match db.segments.get? segmentId with
  | none => (db, none)
  | some segment =>
    if finalizable boundaryAt segment then
      (db.modifySegment segment.id (RecordingSegment.endingAt boundaryAt timingSource),
        some (segment.endingAt boundaryAt timingSource))
    else (db, none)

/-- The completion reason of a segment that is no longer the tail. -/
def noLongerTail (segment : RecordingSegment) : RecordingSegment :=
  if lower (segment.completionReason.getD "") = "source_lost" then { segment with completionReason := some "NORMAL" }
  else segment

theorem noLongerTail_id (segment : RecordingSegment) : (noLongerTail segment).id = segment.id := by
  unfold noLongerTail
  split <;> rfl

def markSourceLossTail (db : Database) (previousSegmentId : Option Uuid) (segmentId : Uuid) : Database :=
  match db.segments.get? segmentId with
  | none => db
  | some _ =>
    let moved := match previousSegmentId with
      | some previousId =>
        if previousId ≠ segmentId then db.modifySegment previousId noLongerTail noLongerTail_id else db
      | none => db
    moved.modifySegment segmentId fun segment => { segment with completionReason := some "source_lost" }

/-! ## Ingestion -/

/-- The rolling fragments of an event-only camera are outside its recording target. -/
def ephemeral (policy : Option RecordingPolicy) (error : PyError) : Bool :=
  match error, policy with
  | .api error, some policy => error.code = "recording_file_outside_target" ∧ policy.enabled ∧
      policy.baselineMode = .disabled ∧ policy.eventRecordingEnabled
  | _, _ => false

def ignored (reason : String) : CatalogIngestResult :=
  { segment := none, created := false, ignored := true, ignoreReason := some reason }

/-- A file that is in the catalog already; its facts must be the same. -/
def known (db : Database) (evidence : FinalizedRecordingEvidence) (location : RecordingLocation) :
    Result CatalogIngestResult :=
  match db.segments.get? location.recordingSegmentId with
  | none => .error (apiError 409 "recording_catalog_inconsistent"
      "Recording location references a missing segment.")
  | some existing =>
    if location.sizeBytes ≠ evidence.fileSize ∨ existing.sizeBytes ≠ evidence.fileSize then
      .error (apiError 409 "recording_location_conflict"
        "Recording path already exists with different media facts.")
    else .ok { segment := some existing, created := false }

def newSegment (profile : CameraStreamProfile) (evidence : FinalizedRecordingEvidence) (reasons : List String)
    (id : Uuid) : RecordingSegment :=
  let rawStarted := env.fromTimestamp evidence.startTimeEpoch
  let durationMs := durationMilliseconds env evidence.durationSeconds
  { id
    cameraId := profile.cameraId
    streamProfileId := some profile.id
    startedAt := rawStarted
    endedAt := rawStarted + milliseconds durationMs
    durationMs
    timingStatus := .provisional
    timingSource := .hookRaw
    recordingReasons := reasons
    sizeBytes := evidence.fileSize
    codec := profile.codec
    sourceApp := evidence.app
    sourceStream := evidence.stream
    integrityStatus := "UNKNOWN"
    completionReason := some "NORMAL" }

/-- A file that is new: the segment before it ends where it starts. -/
def ingestNew (db : Database) (evidence : FinalizedRecordingEvidence) (profile : CameraStreamProfile)
    (targetId : Uuid) (objectPath : String) (previousSegmentId : Option Uuid) :
    Result (Database × CatalogIngestResult) := do
  let rawStarted := env.fromTimestamp evidence.startTimeEpoch
  let finalized := match previousSegmentId with
    | some previousId => finalizePreviousFromBoundary db profile.id previousId rawStarted
    | none => db
  let reasons ← recordingReasons env.zoneInfo finalized profile.cameraId rawStarted
    (rawStarted + milliseconds (durationMilliseconds env evidence.durationSeconds))
  let segment := newSegment env profile evidence reasons (finalized.segments.newKey uuid4)
  let stored ← finalized.insertRecording uuid4 segment targetId objectPath none none
  .ok (stored, { segment := some segment, created := true })

def ingestFinalized (db : Database) (evidence : FinalizedRecordingEvidence) (previousSegmentId : Option Uuid) :
    Result (Database × CatalogIngestResult) :=
  if evidence.app ≠ expectedApp then .ok (db, ignored "unmanaged_app")
  else if evidence.durationSeconds ≤ 0 then
    .error (apiError 422 "recording_duration_invalid" "Finalized recording duration must be positive.")
  else if evidence.fileSize < 0 then
    .error (apiError 422 "recording_file_size_invalid" "Finalized recording file size is invalid.")
  else do
    let profileId ← profileIdFromStream env evidence.stream
    match db.streamProfiles.get? profileId with
    | none => .error (apiError 422 "recording_stream_unknown" "Recording stream profile does not exist.")
    | some profile => do
      let target ← RecordingStorageResolver.localTargetForCamera env.paths db profile.cameraId
      match RecordingStorageResolver.relativeObjectPath env.paths target.root evidence.filePath with
      | .error error =>
        if ephemeral (db.recordingPolicies.get? profile.cameraId) error then .ok (db, ignored "event_only_ephemeral")
        else .error error
      | .ok objectPath =>
        match db.locationAt target.target.id objectPath with
        | some location => do
          let result ← known db evidence location
          .ok (db, result)
        | none => ingestNew env uuid4 db evidence profile target.target.id objectPath previousSegmentId

end RecordingCatalogService

end ZeroNvr
