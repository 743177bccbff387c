import ZeroNvr.Recordings.Timeline

/-! # Playback

`plan` resolves an absolute instant to a file, to a remote copy that has to be
restored first, or to a gap.  It decides on the locations of a segment by itself
and falls back to the timeline for the reason of a gap.
-/

namespace ZeroNvr

open Lib

structure PlayablePlan where
  segmentId : Uuid
  segmentStartAt : Int
  offsetMs : Int
  filePath : String
  codec : Option String
  deriving DecidableEq

structure PendingPlan where
  segmentId : Uuid
  reason : String
  deriving DecidableEq

structure GapPlan where
  reason : GapReason
  previousAt : Option Int
  nextAt : Option Int
  deriving DecidableEq

inductive PlaybackPlan where
  | playable (plan : PlayablePlan)
  | pending (plan : PendingPlan)
  | gap (plan : GapPlan)
  deriving DecidableEq

/-- What playback takes from outside the catalog: the resolved root of an absolute path, the
    resolved path of an object unless it leaves its root, the cached file of a segment (none
    without settings), and `int(round(delta.total_seconds() * 1000))`, which is a float
    computation. -/
structure PlaybackEnv where
  resolveRoot : String → Option String
  resolveWithin : String → String → Option String
  cachedFile : RecordingSegment → Option String
  roundMs : Int → Int

namespace PlaybackResolverService

variable (env : PlaybackEnv) (db : Database)

/-! ## The file of a location -/

def targetRoot (target : StorageTarget) : Option Json :=
  match target.type with
  | .local => Dict.get target.config "path"
  | .rclone => Dict.get target.config "mount_path"

def filesystemPath (location : RecordingLocation) : Option String :=
  match (db.storageTargets.get? location.storageTargetId).bind targetRoot with
  | some (.str rawRoot) =>
    if strip rawRoot = "" then none
    else match env.resolveRoot rawRoot with
      | none => none
      | some root => env.resolveWithin root location.objectPath
  | _ => none

def onType (type : StorageType) (location : RecordingLocation) : Bool :=
  (db.storageTargets.get? location.storageTargetId).any fun target => target.type = type

/-- Local copies first, then by id. -/
def locationBefore (left right : RecordingLocation) : Bool :=
  let rank (location : RecordingLocation) : Nat := if onType db .local location then 0 else 1
  rank left < rank right ∨ (rank left = rank right ∧ left.id ≤ right.id)

def availableLocations (segment : RecordingSegment) : List RecordingLocation :=
  ((PlaybackTimelineService.locations db segment).filter fun item => item.state = .available).insertionSort
    fun left right => locationBefore db left right

/-- The file of the first available location that has one. -/
def mediaPath (segment : RecordingSegment) : Option String :=
  (availableLocations db segment).findSome? (filesystemPath env db)

/-! ## The plan of a segment -/

def offsetMs (at_ : Int) (segment : RecordingSegment) : Int := max 0 (env.roundMs (at_ - segment.startedAt))

def candidatePlan (segment : RecordingSegment) (offsetMs : Int) : Option PlaybackPlan :=
  let playing (filePath : String) : PlaybackPlan := .playable
    { segmentId := segment.id, segmentStartAt := segment.startedAt, offsetMs, filePath, codec := segment.codec }
  match mediaPath env db segment with
  | some path => some (playing path)
  | none =>
    if (availableLocations db segment).any (onType db .rclone) then
      match env.cachedFile segment with
      | some cached => some (playing cached)
      | none => some (.pending { segmentId := segment.id, reason := "remote_restore_required" })
    else none

def segmentGapReason (segment : RecordingSegment) : GapReason :=
  match PlaybackTimelineService.availability (fun _ => false) db segment with
  | .corrupted => .storageFailure
  | .purged => .purged
  | .missing => .missingMedia
  | .local | .remote | .cachedRemote => .unknown

def planSegment (segmentId : Uuid) (offsetMs : Int) : Result PlaybackPlan :=
  match db.segments.get? segmentId with
  | none => .error (apiError 404 "recording_not_found" "Recording segment was not found.")
  | some segment =>
    let durationMs := max 1 (env.roundMs (segment.endedAt - segment.startedAt))
    if offsetMs < 0 ∨ durationMs ≤ offsetMs then
      .error (apiError 422 "playback_offset_invalid" "Playback offset must fall inside the recording segment.")
    else match candidatePlan env db segment offsetMs with
      | some candidate => .ok candidate
      | none => .ok (.gap { reason := segmentGapReason db segment, previousAt := none, nextAt := none })

/-! ## The plan of an instant -/

/-- The end of the last segment before the instant and the start of the first one after it. -/
def neighbors (cameraId : Uuid) (at_ : Int) : Option Int × Option Int :=
  ((((db.segments.select fun segment => segment.cameraId = cameraId ∧ segment.endedAt ≤ at_).map
      RecordingSegment.endedAt).insertionSort (· ≥ ·)).head?,
    (((db.segments.select fun segment => segment.cameraId = cameraId ∧ at_ < segment.startedAt).map
      RecordingSegment.startedAt).insertionSort (· ≤ ·)).head?)

/-- The segments that cover the instant, the newest first. -/
def segmentsAt (cameraId : Uuid) (at_ : Int) : List RecordingSegment :=
  (db.segments.select fun segment =>
    segment.cameraId = cameraId ∧ segment.startedAt ≤ at_ ∧ at_ < segment.endedAt).insertionSort
      fun left right => right.startedAt < left.startedAt ∨
        (left.startedAt = right.startedAt ∧ right.id ≤ left.id)

def combinedReason (unavailableReasons : List GapReason) : GapReason :=
  if .storageFailure ∈ unavailableReasons then .storageFailure
  else if .missingMedia ∈ unavailableReasons then .missingMedia
  else if unavailableReasons.all fun reason => reason = .purged then .purged
  else .unknown

variable (zoneInfo : String → Result TimeZone) (paths : PathEnv)

def gapPlan (cameraId : Uuid) (at_ : Int) (reason : GapReason) : PlaybackPlan :=
  .gap { reason, previousAt := (neighbors db cameraId at_).1, nextAt := (neighbors db cameraId at_).2 }

def plan (cameraId : Uuid) (at_ : Int) : Result PlaybackPlan :=
  let segments := segmentsAt db cameraId at_
  match segments.findSome? fun segment => candidatePlan env db segment (offsetMs env at_ segment) with
  | some candidate => .ok candidate
  | none =>
    let unavailableReasons := segments.map (segmentGapReason db)
    if unavailableReasons.isEmpty then do
      let reason ← PlaybackTimelineService.emptyReason zoneInfo db cameraId at_ (at_ + milliseconds 1) none
        (PlaybackTimelineService.gapEvidenceEvents paths db cameraId at_ (at_ + milliseconds 1))
      .ok (gapPlan db cameraId at_ reason)
    else .ok (gapPlan db cameraId at_ (combinedReason unavailableReasons))

end PlaybackResolverService

end ZeroNvr
