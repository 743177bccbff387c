import ZeroNvr.Events.System
import ZeroNvr.Lib.Cover
import ZeroNvr.Recordings.Policy
import ZeroNvr.Storage.Resolver

/-! # The playback timeline

`build` projects the segments of a camera onto a window and sweeps the
boundaries between them into ranges of one availability and gaps of one reason.
The playback cache is a parameter: whether a cached file of the right size
exists for a segment.
-/

namespace ZeroNvr

open Lib

inductive Availability where
  | local | remote | cachedRemote | corrupted | missing | purged
  deriving DecidableEq

inductive GapReason where
  | storageFailure | missingMedia | purged | unknown | notScheduled | noEvent | sourceLost
  | runtimeRestart
  deriving DecidableEq

inductive TimelineDetailLevel where
  | day | hour | minute
  deriving DecidableEq

structure ProjectedSegment where
  segment : RecordingSegment
  availability : Availability
  clippedStart : Int
  clippedEnd : Int

abbrev TimelineRecordingRangeView := Span Availability

abbrev TimelineGapView := Span GapReason

structure TimelineSegmentView where
  id : Uuid
  startAt : Int
  endAt : Int
  availability : Availability

structure TimelineEventView where
  id : String
  markerType : String
  category : String
  label : Option String
  startAt : Int
  endAt : Option Int
  count : Nat
  categoryCounts : List (String × Nat)
  labelCounts : List (String × Nat)

structure PlaybackTimelineView where
  cameraId : Uuid
  detail : TimelineDetailLevel
  startAt : Int
  endAt : Int
  segments : List TimelineSegmentView
  recordingRanges : List TimelineRecordingRangeView
  gaps : List TimelineGapView
  events : List TimelineEventView

namespace PlaybackTimelineService

/-! ## Availability -/

def playable : Availability → Bool
  | .local | .remote | .cachedRemote => true
  | .corrupted | .missing | .purged => false

def availabilityPriority : Availability → Nat
  | .local => 6
  | .cachedRemote => 5
  | .remote => 4
  | .corrupted => 3
  | .missing => 2
  | .purged => 1

/-- `RecordingSegment.locations`. -/
def locations (db : Database) (segment : RecordingSegment) : List RecordingLocation :=
  db.locations.select fun location => location.recordingSegmentId = segment.id

/-- `_availability`; without a cache no segment is cached. -/
def availability (cachedFile : RecordingSegment → Bool) (db : Database) (segment : RecordingSegment) :
    Availability :=
  let onTarget (type : StorageType) (role : StorageRole) (item : RecordingLocation) : Bool :=
    (db.storageTargets.get? item.storageTargetId).any fun target => target.type = type ∧ target.role = role
  let available := (locations db segment).filter fun item => item.state = .available
  if upper segment.integrityStatus = "CORRUPT" then .corrupted
  else if available.any (onTarget .local .recording) then .local
  else if available.any (onTarget .rclone .archive) then
    if cachedFile segment then .cachedRemote else .remote
  else if (locations db segment).any fun item => item.state = .missing then .missing
  else if ¬ (locations db segment).isEmpty ∧ (locations db segment).all fun item => item.state = .deleted then
    .purged
  else .missing

def unavailableReason (projected : List ProjectedSegment) : GapReason :=
  let states := projected.map ProjectedSegment.availability
  if .corrupted ∈ states then .storageFailure
  else if .missing ∈ states then .missingMedia
  else if ¬ states.isEmpty ∧ states.all fun state => state = .purged then .purged
  else .unknown

/-! ## Reasons of empty cells -/

variable (zoneInfo : String → Result TimeZone) (paths : PathEnv)

def recordingTargetId (db : Database) (cameraId : Uuid) : Option Uuid :=
  match (db.recordingPolicies.get? cameraId).bind RecordingPolicy.storageTargetId with
  | some targetId => some targetId
  | none =>
    match RecordingStorageResolver.localTargetForCamera paths db cameraId with
    | .ok resolved => some resolved.target.id
    | .error _ => none

/-- `(started_at, id)` order. -/
def eventBefore (left right : Event) : Bool :=
  left.startedAt < right.startedAt ∨ (left.startedAt = right.startedAt ∧ left.id ≤ right.id)

def gapEvidenceEvents (db : Database) (cameraId : Uuid) (startAt endAt : Int) : List Event :=
  let cameraEvents := db.events.select fun event =>
    event.source = SystemEventService.source ∧
      event.sourceInstanceId = some SystemEventService.sourceInstanceId ∧ event.cameraId = some cameraId ∧
      event.category ∈
        [SystemEventService.sourceConnectivityCategory, SystemEventService.runtimeHealthCategory] ∧
      event.startedAt ≤ endAt ∧ event.endedAt.all fun ended => startAt ≤ ended
  let storageEvents := match recordingTargetId paths db cameraId with
    | none => []
    | some targetId => db.events.select fun event =>
        event.source = SystemEventService.source ∧
          event.sourceInstanceId = some (SystemEventService.storageTargetInstance targetId) ∧
          event.category = SystemEventService.storageHealthCategory ∧
          event.startedAt < endAt ∧ event.endedAt.all fun ended => startAt < ended
  (cameraEvents ++ storageEvents).insertionSort fun left right => eventBefore left right

/-- The event overlaps the open interval. -/
def overlaps (event : Event) (startAt endAt : Int) : Bool :=
  event.startedAt < endAt ∧ event.endedAt.all fun ended => startAt < ended

/-- Half of a `timedelta`, rounded half to even. -/
def half (delta : Int) : Int :=
  if delta % 2 = 1 ∧ delta / 2 % 2 = 1 then delta / 2 + 1 else delta / 2

/-- The last segment of the camera that ended before the cell. -/
def previousSegment (db : Database) (cameraId : Uuid) (startAt : Int) : Option RecordingSegment :=
  ((db.segments.select fun segment => segment.cameraId = cameraId ∧ segment.endedAt ≤ startAt).insertionSort
    fun left right => right.endedAt < left.endedAt ∨
      (left.endedAt = right.endedAt ∧ right.id ≤ left.id)).head?

/-- The recorded cause of an outage while recording was wanted. -/
def outageReason (db : Database) (cameraId : Uuid) (startAt endAt : Int) (evidence : List Event) : GapReason :=
  if evidence.any fun event => SystemEventService.isSourceLoss event && overlaps event startAt endAt then
    .sourceLost
  else if (previousSegment db cameraId startAt).any fun previous =>
    lower (previous.completionReason.getD "") = "source_lost" then .sourceLost
  else if evidence.any fun event =>
    SystemEventService.isRuntimeRestart event && (startAt ≤ event.startedAt && event.startedAt ≤ endAt) then
    .runtimeRestart
  else if evidence.any fun event =>
    (event.category = SystemEventService.storageHealthCategory ∧
      event.label ∈ [some "storage_critical", some "storage_unavailable"]) && overlaps event startAt endAt then
    .storageFailure
  else .unknown

def emptyReason (db : Database) (cameraId : Uuid) (startAt endAt : Int) (policy : Option RecordingPolicy)
    (evidence : List Event) : Result GapReason :=
  match policy.or (db.recordingPolicies.get? cameraId) with
  | none => .ok .notScheduled
  | some policy =>
    if ¬ policy.enabled then .ok .notScheduled
    else match policy.baselineMode with
    | .schedule => do
      let reference := startAt + half (endAt - startAt)
      let scheduled ← RecordingPolicyService.baselineShouldRecord zoneInfo policy reference
      if ¬ scheduled then .ok .notScheduled
      else .ok (outageReason db cameraId startAt endAt evidence)
    | .continuous => .ok (outageReason db cameraId startAt endAt evidence)
    | .disabled =>
      if ¬ policy.eventRecordingEnabled then .ok .notScheduled
      else if db.triggers.rows.any fun trigger =>
        trigger.cameraId = cameraId ∧ trigger.state ≠ .cancelled ∧ trigger.state ≠ .failed ∧
          trigger.plannedStartAt < endAt ∧ trigger.plannedEndAt.all fun plannedEnd => startAt < plannedEnd then
        .ok (outageReason db cameraId startAt endAt evidence)
      else .ok .noEvent

/-! ## Event markers -/

def individualEventMarker (event : Event) : TimelineEventView :=
  { id := toString event.id
    markerType := if event.endedAt.all fun ended => event.startedAt < ended then "range" else "point"
    category := event.category
    label := event.label
    startAt := event.startedAt
    endAt := event.endedAt
    count := 1
    categoryCounts := [(event.category, 1)]
    labelCounts := match event.label with
      | some label => if label = "" then [] else [(label, 1)]
      | none => [] }

/-- `dict(sorted(Counter(items).items()))`. -/
def counts (items : List String) : List (String × Nat) :=
  (items.dedup.insertionSort (· ≤ ·)).map fun item => (item, items.count item)

/-- The start of every bucket that begins before the end of the window, in epoch seconds. -/
def bucketEpochs (startAt endAt bucketSeconds : Int) : List Int :=
  let startEpoch := startAt.tdiv 1000000
  let first := startEpoch - startEpoch % bucketSeconds
  (List.range ((endAt - seconds first + seconds bucketSeconds - 1) / seconds bucketSeconds).toNat).map
    fun (n : Nat) => first + n * bucketSeconds

def inBucket (endAt bucketStart bucketEnd : Int) (event : Event) : Bool :=
  if event.endedAt.any fun ended => ended ≤ event.startedAt then
    decide (bucketStart ≤ event.startedAt ∧ event.startedAt < bucketEnd)
  else decide (event.startedAt < bucketEnd ∧ bucketStart < event.endedAt.getD endAt)

/-- The marker of one bucket. -/
def aggregateMarker (detailName : String) (startAt endAt bucketSeconds cursorEpoch : Int)
    (events : List Event) : Option TimelineEventView :=
  let bucketStart := seconds cursorEpoch
  let bucketEnd := bucketStart + seconds bucketSeconds
  let matching := events.filter (inBucket endAt bucketStart bucketEnd)
  if matching.isEmpty then none
  else
    let categoryCounts := counts (matching.map Event.category)
    let labelCounts := counts ((matching.filterMap Event.label).filter (· ≠ ""))
    some
      { id := "aggregate:" ++ detailName ++ ":" ++ toString cursorEpoch
        markerType := "aggregate"
        category := match categoryCounts with
          | [(category, _)] => category
          | _ => "events"
        label := match labelCounts with
          | [(label, count)] => if count = matching.length then some label else none
          | _ => none
        startAt := max bucketStart startAt
        endAt := some (min bucketEnd endAt)
        count := matching.length
        categoryCounts
        labelCounts }

def eventMarkers (events : List Event) (startAt endAt : Int) (detail : TimelineDetailLevel) :
    List TimelineEventView :=
  match detail with
  | .minute => events.map individualEventMarker
  | .day => (bucketEpochs startAt endAt 3600).filterMap fun cursor =>
      aggregateMarker "day" startAt endAt 3600 cursor events
  | .hour => (bucketEpochs startAt endAt 300).filterMap fun cursor =>
      aggregateMarker "hour" startAt endAt 300 cursor events

/-! ## The sweep -/

/-- A segment clipped to the window; an empty remainder is skipped. -/
def project (cachedFile : RecordingSegment → Bool) (db : Database) (startAt endAt : Int)
    (segment : RecordingSegment) : Option ProjectedSegment :=
  let clippedStart := max segment.startedAt startAt
  let clippedEnd := min segment.endedAt endAt
  if clippedEnd ≤ clippedStart then none
  else some { segment, availability := availability cachedFile db segment, clippedStart, clippedEnd }

/-- The schedule transitions strictly inside the window, from `cursor` on. -/
def scheduleTransitions (policy : RecordingPolicy) (startAt endAt : Int) : Nat → Int → Result (List Int)
  | 0, _ => .ok []
  | passes + 1, cursor => do
    match ← RecordingPolicyService.nextBaselineTransition zoneInfo policy cursor with
    | none => .ok []
    | some transition =>
      if endAt ≤ transition then .ok []
      else
        let later ← scheduleTransitions policy startAt endAt passes transition
        .ok (if startAt < transition then transition :: later else later)

def policyTransitions (policy : Option RecordingPolicy) (startAt endAt : Int) : Result (List Int) :=
  match policy with
  | some policy =>
    if policy.enabled ∧ policy.baselineMode = .schedule then
      scheduleTransitions zoneInfo policy startAt endAt 4096 startAt
    else .ok []
  | none => .ok []

/-- The start and the end of an event, where they lie strictly inside the window. -/
def eventBoundaries (startAt endAt : Int) (event : Event) : List Int :=
  (event.startedAt :: event.endedAt.toList).filter fun boundary => startAt < boundary ∧ boundary < endAt

/-- One cell between consecutive boundaries.  The two lists are kept newest first. -/
def sweepCell (db : Database) (cameraId : Uuid) (policy : Option RecordingPolicy) (evidence : List Event)
    (projected : List ProjectedSegment) (acc : List TimelineRecordingRangeView × List TimelineGapView)
    (cell : Int × Int) : Result (List TimelineRecordingRangeView × List TimelineGapView) :=
  let overlapping := projected.filter fun item => item.clippedStart < cell.2 ∧ cell.1 < item.clippedEnd
  match (overlapping.map ProjectedSegment.availability).argmax availabilityPriority with
  | some availability =>
    let ranges := extend acc.1 cell.1 cell.2 availability
    if playable availability then .ok (ranges, acc.2)
    else .ok (ranges, extend acc.2 cell.1 cell.2 (unavailableReason overlapping))
  | none => do
    let reason ← emptyReason zoneInfo db cameraId cell.1 cell.2 policy evidence
    .ok (acc.1, extend acc.2 cell.1 cell.2 reason)

/-- The segments that overlap the window, in order of time. -/
def windowSegments (db : Database) (cameraId : Uuid) (startAt endAt : Int) : List RecordingSegment :=
  (db.segments.select fun segment =>
    segment.cameraId = cameraId ∧ segment.startedAt < endAt ∧ startAt < segment.endedAt).insertionSort
      fun left right => left.startedAt < right.startedAt ∨ (left.startedAt = right.startedAt ∧
        (left.endedAt < right.endedAt ∨ (left.endedAt = right.endedAt ∧ left.id ≤ right.id)))

/-- The loop that clips the segments. -/
def projectedSegments (cachedFile : RecordingSegment → Bool) (db : Database) (cameraId : Uuid)
    (startAt endAt : Int) : List ProjectedSegment :=
  (windowSegments db cameraId startAt endAt).filterMap (project cachedFile db startAt endAt)

def timelineEvents (db : Database) (cameraId : Uuid) (startAt endAt : Int) : List Event :=
  (db.events.select fun event =>
    event.cameraId = some cameraId ∧ event.startedAt < endAt ∧
      (startAt ≤ event.startedAt ∨ event.endedAt.all fun ended => startAt < ended)).insertionSort
        fun left right => eventBefore left right

def boundaries (startAt endAt : Int) (projected : List ProjectedSegment) (transitions : List Int)
    (evidence sourceLosses : List Event) : List Int :=
  let all := [startAt, endAt] ++
    projected.flatMap (fun item => [item.clippedStart, item.clippedEnd]) ++ transitions ++
    evidence.flatMap (eventBoundaries startAt endAt) ++
    sourceLosses.flatMap (eventBoundaries startAt endAt)
  all.dedup.insertionSort (· ≤ ·)

def build (cachedFile : RecordingSegment → Bool) (db : Database) (cameraId : Uuid) (startAt endAt : Int)
    (detail : TimelineDetailLevel) : Result PlaybackTimelineView := do
  let events := timelineEvents db cameraId startAt endAt
  let policy := db.recordingPolicies.get? cameraId
  let evidence := gapEvidenceEvents paths db cameraId startAt endAt
  let projected := projectedSegments cachedFile db cameraId startAt endAt
  let transitions ← policyTransitions zoneInfo policy startAt endAt
  let ordered := boundaries startAt endAt projected transitions evidence
    (events.filter SystemEventService.isSourceLoss)
  let swept ← (ordered.zip ordered.tail).foldlM
    (sweepCell zoneInfo db cameraId policy evidence projected) ([], [])
  .ok
    { cameraId, detail, startAt, endAt
      segments := projected.map fun item =>
        { id := item.segment.id, startAt := item.segment.startedAt, endAt := item.segment.endedAt
          availability := item.availability }
      recordingRanges := swept.1.reverse
      gaps := swept.2.reverse
      events := eventMarkers events startAt endAt detail }

end PlaybackTimelineService

end ZeroNvr
