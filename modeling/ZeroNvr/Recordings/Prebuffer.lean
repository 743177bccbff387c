import ZeroNvr.Recordings.Ingestion
import ZeroNvr.Zlm.Continuity

/-! # The prebuffer

Finished fragments of an event-only camera stay in memory until a trigger needs
them.  A promotion copies the file to the recording target and then writes it
down; the two are separate, and either may be repeated.
-/

namespace ZeroNvr

open Lib

/-- A fragment, with a range of its own length. -/
structure PrebufferFragment where
  cameraId : Uuid
  profileId : Uuid
  continuityId : Option Uuid
  identity : ZlmStreamIdentity
  filePath : String
  startedAt : Int
  endedAt : Int
  durationMs : Nat
  sizeBytes : Int
  positive : 0 < durationMs
  timed : endedAt = startedAt + milliseconds durationMs

/-- The fragment ends where the next one starts, and keeps its length. -/
def PrebufferFragment.endingAt (boundaryAt : Int) (fragment : PrebufferFragment) : PrebufferFragment :=
  { fragment with
    startedAt := boundaryAt - milliseconds fragment.durationMs
    endedAt := boundaryAt
    timed := (Int.sub_add_cancel _ _).symm }

theorem durationMilliseconds_pos (env : CatalogEnv) (durationSeconds : ℚ) :
    0 < durationMilliseconds env durationSeconds := by
  unfold durationMilliseconds
  omega

structure PromotionReceipt where
  fragment : PrebufferFragment
  storageTargetId : Uuid
  objectPath : String
  sizeBytes : Int

/-! ## The tracker -/

/-- The latest fragments of each stream, oldest first. -/
structure PrebufferFragmentTracker where
  items : ZlmStreamIdentity → List PrebufferFragment := fun _ => []

namespace PrebufferFragmentTracker

variable (env : CatalogEnv)

def maxFragments : Nat := 256

/-- The fragment a hook reports. -/
def reported (cameraId profileId : Uuid) (continuityId : Option Uuid) (identity : ZlmStreamIdentity)
    (filePath : String) (startTimeEpoch durationSeconds : ℚ) (sizeBytes : Int) : PrebufferFragment :=
  { cameraId, profileId, continuityId, identity, filePath
    startedAt := env.fromTimestamp startTimeEpoch
    endedAt := env.fromTimestamp startTimeEpoch + milliseconds (durationMilliseconds env durationSeconds)
    durationMs := durationMilliseconds env durationSeconds
    sizeBytes
    positive := durationMilliseconds_pos env durationSeconds
    timed := rfl }

/-- The next fragment of the same generation moves the one before it. -/
def normalizes (previous next : PrebufferFragment) : Bool :=
  previous.continuityId.isSome ∧ previous.continuityId = next.continuityId ∧
    previous.startedAt < next.startedAt ∧ next.startedAt - milliseconds previous.durationMs < next.startedAt

/-- The queue with its last fragment moved to the start of the next one. -/
def normalized (queue : List PrebufferFragment) (next : PrebufferFragment) : List PrebufferFragment :=
  match queue.getLast? with
  | some previous =>
    if normalizes previous next then queue.dropLast ++ [previous.endingAt next.startedAt] else queue
  | none => []

/-- A bounded queue drops its oldest item. -/
def push (queue : List PrebufferFragment) (fragment : PrebufferFragment) : List PrebufferFragment :=
  (if queue.length < maxFragments then queue else queue.drop 1) ++ [fragment]

/-- The fragment under whose path the reported one is known, or the reported one, and the tracker. -/
def observe (tracker : PrebufferFragmentTracker) (fragment : PrebufferFragment) :
    PrebufferFragmentTracker × PrebufferFragment :=
  let queue := tracker.items fragment.identity
  match queue.find? fun existing => existing.filePath = fragment.filePath with
  | some existing => (tracker, existing)
  | none =>
    ({ items := Function.update tracker.items fragment.identity (push (normalized queue fragment) fragment) }, fragment)

end PrebufferFragmentTracker

/-! ## Promotion -/

/-- A media file: what is in it, and its size. -/
structure MediaFile where
  content : Nat
  sizeBytes : Int
  deriving DecidableEq

/-- The files of the prebuffer by path, and those of the recording targets by root and object path. -/
structure MediaStore where
  prebuffer : String → Option MediaFile
  target : String → String → Option MediaFile

/-- What a promotion takes from outside: the catalog's parameters, the resolved prebuffer directory, and
    the object path that `root / "event" / relative` resolves to when it stays under the root. -/
structure PrebufferEnv where
  catalog : CatalogEnv
  prebufferRoot : String
  eventPath : String → String → Option String

namespace PrebufferPromotionService

variable (env : PrebufferEnv)

def sizeMismatch (message : String) : PyError := apiError 409 "prebuffer_promotion_size_mismatch" message

/-- The object path a fragment is promoted to. -/
def destinationOf (fragment : PrebufferFragment) (targetRoot : String) : Result String :=
  match env.catalog.paths.relativeTo env.prebufferRoot fragment.filePath with
  | none => .error (apiError 409 "prebuffer_fragment_outside_root"
      "Prebuffer fragment is outside the configured prebuffer root.")
  | some relative =>
    match env.eventPath targetRoot relative with
    | none => .error (apiError 409 "prebuffer_promotion_path_invalid" "Prebuffer promotion destination is invalid.")
    | some objectPath => .ok objectPath

/-- The file as it is, or a verified copy under its final name. -/
def published (store : MediaStore) (fragment : PrebufferFragment) (targetRoot objectPath : String) :
    Result (MediaFile × MediaStore) :=
  match store.target targetRoot objectPath with
  | some file =>
    if file.sizeBytes ≠ fragment.sizeBytes then
      .error (sizeMismatch "Existing promoted fragment has an unexpected size.")
    else .ok (file, store)
  | none =>
    match store.prebuffer fragment.filePath with
    | none => .error (apiError 409 "prebuffer_fragment_missing" "Prebuffer fragment is no longer available.")
    | some source =>
      if source.sizeBytes ≠ fragment.sizeBytes then
        .error (sizeMismatch "Promoted fragment size verification failed.")
      else .ok (source, { store with
        target := Function.update store.target targetRoot
          (Function.update (store.target targetRoot) objectPath (some source)) })

def prepare (store : MediaStore) (fragment : PrebufferFragment) (storageTargetId : Uuid) (targetRoot : String) :
    Result (PromotionReceipt × MediaStore) := do
  let objectPath ← destinationOf env fragment targetRoot
  let (file, store') ← published store fragment targetRoot objectPath
  .ok ({ fragment, storageTargetId, objectPath, sizeBytes := file.sizeBytes }, store')

variable (uuid4 : Supply Uuid)

def promotedSegment (receipt : PromotionReceipt) (reasons : List String) (id : Uuid) : RecordingSegment :=
  let fragment := receipt.fragment
  { id
    cameraId := fragment.cameraId
    streamProfileId := some fragment.profileId
    startedAt := fragment.startedAt
    endedAt := fragment.endedAt
    durationMs := fragment.durationMs
    timingStatus := .provisional
    timingSource := .hookRaw
    recordingReasons := if reasons = [] then ["event"] else reasons
    sizeBytes := receipt.sizeBytes
    codec := none
    sourceApp := fragment.identity.app
    sourceStream := fragment.identity.stream
    integrityStatus := "UNKNOWN"
    completionReason := some "PROMOTED_EVENT" }

/-- The segment that owns the file already. -/
def alreadyPromoted (db : Database) (receipt : PromotionReceipt) (location : RecordingLocation) :
    Result RecordingSegment :=
  match db.segments.get? location.recordingSegmentId with
  | none => .error (apiError 409 "recording_catalog_inconsistent"
      "Promoted location references a missing recording segment.")
  | some existing =>
    if location.sizeBytes ≠ receipt.sizeBytes then
      .error (apiError 409 "recording_location_conflict"
        "Promoted recording path already exists with different media facts.")
    else .ok existing

def commit (db : Database) (receipt : PromotionReceipt) : Result (Database × RecordingSegment) :=
  match db.locationAt receipt.storageTargetId receipt.objectPath with
  | some location => do
    let existing ← alreadyPromoted db receipt location
    .ok (db, existing)
  | none => do
    let reasons ← RecordingCatalogService.recordingReasons env.catalog.zoneInfo db receipt.fragment.cameraId
      receipt.fragment.startedAt receipt.fragment.endedAt
    let segment := promotedSegment receipt reasons (db.segments.newKey uuid4)
    let stored ← db.insertRecording uuid4 segment receipt.storageTargetId receipt.objectPath none none
    .ok (stored, segment)

end PrebufferPromotionService

end ZeroNvr
