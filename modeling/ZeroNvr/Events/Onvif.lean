import ZeroNvr.Events.Service
import ZeroNvr.Recordings.Triggers

/-! # ONVIF events

A notification with a state opens or closes the event of its camera, category,
label and topic; one without a state is an event of its own that ends at once.
Every event that an ingest touches is handed to the recording triggers in the
same transaction.
-/

namespace ZeroNvr

open Lib

structure OnvifNormalizedNotification where
  topic : String
  occurredAt : Int
  propertyOperation : Option String := none
  sourceItems : List (String × String) := []
  dataItems : List (String × String) := []
  state : Option Bool
  category : String
  label : String
  sourceEventId : String
  deriving DecidableEq

inductive OnvifOutcome where
  | created | updated | closed | ignored
  deriving DecidableEq

structure OnvifEventIngestResult where
  created : Nat := 0
  updated : Nat := 0
  closed : Nat := 0
  ignored : Nat := 0

namespace OnvifEventIngestService

def source : String := "onvif"

def sourceInstanceId (deviceId : Uuid) : String := "device:" ++ toString deviceId

/-! ## The camera of a notification -/

def preferredNames : List String :=
  ["videosourcetoken", "videosourceconfigurationtoken", "sourcetoken", "source", "profiletoken", "profile"]

/-- The values of the source items that name a video source or a profile, each once. -/
def sourceTokens (normalized : OnvifNormalizedNotification) : List String :=
  normalized.sourceItems.foldl (fun tokens item =>
    if casefold item.1 ∈ preferredNames ∧ item.2 ∉ tokens then tokens ++ [item.2] else tokens) []

/-- The device's cameras in service, by id. -/
def activeCameras (db : Database) (deviceId : Uuid) : List Camera :=
  (db.cameras.select fun camera => camera.deviceId = some deviceId ∧ camera.retiredAt.isNone).insertionSort
    fun left right => left.id ≤ right.id

def namesProfile (tokens : List String) (profile : CameraStreamProfile) : Bool :=
  profile.videoSourceKey.any (· ∈ tokens) || decide (profile.adapterProfileKey ∈ tokens)

def profileCamera (db : Database) (cameras : List Camera) (tokens : List String) : Option Uuid :=
  ((db.streamProfiles.select fun profile =>
    cameras.any (fun camera => camera.id = profile.cameraId) && namesProfile tokens profile).map
      CameraStreamProfile.cameraId).insertionSort (· ≤ ·) |>.head?

def cameraId (db : Database) (deviceId : Uuid) (normalized : OnvifNormalizedNotification) : Option Uuid :=
  let cameras := activeCameras db deviceId
  let tokens := sourceTokens normalized
  let direct := tokens.findSome? fun token => cameras.find? fun camera => camera.channelKey = token
  match cameras with
  | [] => none
  | first :: others =>
    match direct with
    | some camera => some camera.id
    | none =>
      match profileCamera db cameras tokens with
      | some profileCameraId => some profileCameraId
      | none => if others.isEmpty then some first.id else none

/-! ## Ingest -/

/-- The event is an open one of the notification's camera, category, label and topic. -/
def isOpenEvent (deviceId : Uuid) (camera : Option Uuid) (normalized : OnvifNormalizedNotification)
    (event : Event) : Bool :=
  event.source = source ∧ event.sourceInstanceId = some (sourceInstanceId deviceId) ∧
    event.category = normalized.category ∧ event.label = some normalized.label ∧ event.endedAt.isNone ∧
    event.cameraId = camera ∧ (Dict.get event.metadata "topic" == some (.str normalized.topic))

/-- The newest such event. -/
def openEvent (db : Database) (deviceId : Uuid) (camera : Option Uuid)
    (normalized : OnvifNormalizedNotification) : Option Event :=
  db.events.firstBy? (isOpenEvent deviceId camera normalized) fun left right =>
    right.startedAt < left.startedAt ∨ (left.startedAt = right.startedAt ∧ right.id ≤ left.id)

def providerEvent (db : Database) (deviceId : Uuid) (sourceEventId : String) : Option Event :=
  EventService.providerEvent db source (some (sourceInstanceId deviceId)) sourceEventId

def itemsJson (items : List (String × String)) : Json := .obj (items.map fun item => (item.1, .str item.2))

def metadata (normalized : OnvifNormalizedNotification) : Dict :=
  [("topic", .str normalized.topic), ("source_items", itemsJson normalized.sourceItems),
    ("data_items", itemsJson normalized.dataItems)] ++
    (match normalized.propertyOperation with
      | some operation => if operation = "" then [] else [("property_operation", .str operation)]
      | none => []) ++
    (match normalized.state with
      | some state => [("state", .bool state)]
      | none => [])

variable (redactText : String → String)

/-- The open event once its source reports that the state is over. -/
def closedBy (normalized : OnvifNormalizedNotification) (event : Event) : Event :=
  EventService.flushed redactText { event with
    endedAt := some (max event.startedAt normalized.occurredAt)
    metadata := Dict.merge event.metadata (metadata normalized) }

theorem closedBy_key (normalized : OnvifNormalizedNotification) (event : Event) :
    Keyed.key (closedBy redactText normalized event) = Keyed.key event := rfl

/-- An ended event that is reported once more. -/
def replayedBy (normalized : OnvifNormalizedNotification) (event : Event) : Event :=
  EventService.flushed redactText { event with
    metadata := Dict.set (Dict.merge event.metadata (metadata normalized)) "replayed_after_close" (.bool true) }

theorem replayedBy_key (normalized : OnvifNormalizedNotification) (event : Event) :
    Keyed.key (replayedBy redactText normalized event) = Keyed.key event := rfl

/-- What the notification says about an open event. -/
def updateItem (deviceId : Uuid) (camera : Option Uuid) (normalized : OnvifNormalizedNotification)
    (existing : Event) : EventIngest :=
  { source := source
    sourceInstanceId := some (sourceInstanceId deviceId)
    sourceEventId := existing.sourceEventId
    cameraId := camera
    category := normalized.category
    label := some normalized.label
    startedAt := existing.startedAt
    severity := some "info"
    correlationId := if existing.correlationId.any (· ≠ "") then existing.correlationId else existing.sourceEventId
    metadata := Dict.merge existing.metadata (metadata normalized) }

/-- The event of the notification itself. -/
def newItem (deviceId : Uuid) (camera : Option Uuid) (normalized : OnvifNormalizedNotification) : EventIngest :=
  { source := source
    sourceInstanceId := some (sourceInstanceId deviceId)
    sourceEventId := some normalized.sourceEventId
    cameraId := camera
    category := normalized.category
    label := some normalized.label
    startedAt := normalized.occurredAt
    endedAt := if normalized.state = none then some normalized.occurredAt else none
    severity := some "info"
    correlationId := some normalized.sourceEventId
    metadata := metadata normalized }

variable (uuid4 : Supply Uuid)

def upsert (db : Database) (item : EventIngest) : Result (Database × OnvifOutcome × Option Event) := do
  let (db, result) ← EventService.upsertProviderEvent redactText uuid4 db item
  .ok (db, if result.created then .created else .updated, some result.event)

/-- The catalog with one event changed. -/
def changeEvent (db : Database) (event : Event) (change : Event → Event)
    (keeps : ∀ row, Keyed.key (change row) = Keyed.key row) : Database :=
  { db with events := db.events.modify event.id change keeps }

/-- `_ingest_one`. -/
def ingestOne (deviceId : Uuid) (db : Database) (normalized : OnvifNormalizedNotification) :
    Result (Database × OnvifOutcome × Option Event) :=
  let camera := cameraId db deviceId normalized
  match normalized.state, openEvent db deviceId camera normalized with
  | some false, none => .ok (db, .ignored, none)
  | some false, some existing =>
    .ok (changeEvent db existing (closedBy redactText normalized) (closedBy_key redactText normalized), .closed,
      some (closedBy redactText normalized existing))
  | some true, none =>
    match (providerEvent db deviceId normalized.sourceEventId).filter (·.endedAt.isSome) with
    | some replayed =>
      .ok (changeEvent db replayed (replayedBy redactText normalized) (replayedBy_key redactText normalized), .updated,
        some (replayedBy redactText normalized replayed))
    | none => upsert redactText uuid4 db (newItem deviceId camera normalized)
  | some true, some existing =>
    -- A result that updates an open event is counted as an update in any case.
    (fun (db, _, event) => (db, .updated, event)) <$>
      upsert redactText uuid4 db (updateItem deviceId camera normalized existing)
  | none, _ => upsert redactText uuid4 db (newItem deviceId camera normalized)

/-! ## The recording trigger -/

def triggerReport (event : Event) : Option ProviderReport :=
  match event.cameraId, event.sourceInstanceId, event.sourceEventId with
  | some cameraId, some sourceInstanceId, some sourceEventId => some {
      cameraId, source, sourceInstanceId, sourceEventId
      eventStartedAt := event.startedAt
      eventEndedAt := event.endedAt
      triggerType := "ONVIF_EVENT"
      reason := if event.label.any (· ≠ "") then event.label else some event.category
      label := event.label
      confidence := event.confidence
      zones := (event.zone.filter (· ≠ "")).toList
      metadata := [("event_id", .str (toString event.id)), ("category", .str event.category),
        ("label", .ofText event.label)] }
  | _, _, _ => none

/-- `_sync_recording_trigger`. -/
def syncRecordingTrigger (db : Database) (event : Event) : Result (Database × Option Uuid × Bool) :=
  match triggerReport event with
  | some report => do
    let (db, trigger, changed) ← RecordingTriggerService.upsertProvider uuid4 db report
    .ok (db, trigger.map RecordingTrigger.cameraId, changed)
  | none => .ok (db, none, false)

/-! ## A batch of notifications -/

def count (result : OnvifEventIngestResult) : OnvifOutcome → OnvifEventIngestResult
  | .created => { result with created := result.created + 1 }
  | .updated => { result with updated := result.updated + 1 }
  | .closed => { result with closed := result.closed + 1 }
  | .ignored => { result with ignored := result.ignored + 1 }

/-- One notification of the loop: the event, and in the same transaction its trigger. -/
def ingestAndSync (deviceId : Uuid) (db : Database) (normalized : OnvifNormalizedNotification) :
    Result (Database × OnvifOutcome × List Uuid) := do
  let (db, outcome, event) ← ingestOne redactText uuid4 deviceId db normalized
  match event with
  | none => .ok (db, outcome, [])
  | some event => do
    let (db, triggerCameraId, triggerChanged) ← syncRecordingTrigger uuid4 db event
    .ok (db, outcome, if triggerChanged then triggerCameraId.toList else [])

/-- One round of the loop; a notification that could not be normalized is `none`. -/
def handleOne (deviceId : Uuid) (acc : Database × OnvifEventIngestResult × List Uuid)
    (notification : Option OnvifNormalizedNotification) : Result (Database × OnvifEventIngestResult × List Uuid) :=
  let (db, result, triggerCameraIds) := acc
  match notification with
  | none => .ok (db, count result .ignored, triggerCameraIds)
  | some normalized => do
    let (db, outcome, cameraIds) ← ingestAndSync redactText uuid4 deviceId db normalized
    .ok (db, count result outcome, triggerCameraIds ++ cameraIds)

/-- `handle`: the batch in one transaction, and the cameras to reconcile. -/
def handle (deviceId : Uuid) (db : Database) (notifications : List (Option OnvifNormalizedNotification)) :
    Result (Database × OnvifEventIngestResult × List Uuid) :=
  if (db.devices.get? deviceId).isNone then .ok (db, { ignored := notifications.length }, [])
  else notifications.foldlM (handleOne redactText uuid4 deviceId) (db, {}, [])

/-! ## What an ingest does -/

variable {redactText uuid4} {deviceId : Uuid} {db db' : Database} {normalized : OnvifNormalizedNotification}
  {outcome : OnvifOutcome} {event : Option Event}

/-- The open event of the notification's camera, category, label and topic. -/
def currentEvent (deviceId : Uuid) (db : Database) (normalized : OnvifNormalizedNotification) : Option Event :=
  openEvent db deviceId (cameraId db deviceId normalized) normalized

/-- The event of the notification itself, when it has ended. -/
def endedEvent (deviceId : Uuid) (db : Database) (normalized : OnvifNormalizedNotification) : Option Event :=
  (providerEvent db deviceId normalized.sourceEventId).filter (·.endedAt.isSome)

theorem upsert_cases {item : EventIngest} (upserted : upsert redactText uuid4 db item = .ok (db', outcome, event)) :
    ∃ result, EventService.upsertProviderEvent redactText uuid4 db item = .ok (db', result) ∧
      event = some result.event := by
  unfold upsert at upserted
  rw [bind_eq_ok] at upserted
  obtain ⟨⟨_, result⟩, done, same⟩ := upserted
  cases same
  exact ⟨result, done, rfl⟩

/-- The five things an ingest does: nothing, it closes the open event, it marks a replay, it updates the
    open event, or it upserts the event of the notification. -/
theorem ingestOne_cases (ingested : ingestOne redactText uuid4 deviceId db normalized = .ok (db', outcome, event)) :
    (normalized.state = some false ∧ currentEvent deviceId db normalized = none ∧ db' = db ∧ event = none) ∨
    (∃ existing, normalized.state = some false ∧ currentEvent deviceId db normalized = some existing ∧
      event = some (closedBy redactText normalized existing) ∧
      db' = changeEvent db existing (closedBy redactText normalized) (closedBy_key redactText normalized)) ∨
    (∃ replayed, normalized.state = some true ∧ currentEvent deviceId db normalized = none ∧
      endedEvent deviceId db normalized = some replayed ∧ event = some (replayedBy redactText normalized replayed) ∧
      db' = changeEvent db replayed (replayedBy redactText normalized) (replayedBy_key redactText normalized)) ∨
    (∃ existing result, normalized.state = some true ∧ currentEvent deviceId db normalized = some existing ∧
      EventService.upsertProviderEvent redactText uuid4 db
        (updateItem deviceId (cameraId db deviceId normalized) normalized existing) = .ok (db', result) ∧
      event = some result.event) ∨
    (∃ result, (normalized.state = none ∨ normalized.state = some true ∧ currentEvent deviceId db normalized = none ∧
        endedEvent deviceId db normalized = none) ∧
      EventService.upsertProviderEvent redactText uuid4 db
        (newItem deviceId (cameraId db deviceId normalized) normalized) = .ok (db', result) ∧
      event = some result.event) := by
  unfold ingestOne at ingested
  dsimp only at ingested
  cases state : normalized.state with
  | none =>
    rw [state] at ingested
    obtain ⟨result, done, same⟩ := upsert_cases ingested
    exact .inr (.inr (.inr (.inr ⟨result, .inl rfl, done, same⟩)))
  | some value =>
    rw [state] at ingested
    cases current : currentEvent deviceId db normalized with
    | none =>
      rw [currentEvent] at current
      rw [current] at ingested
      cases value with
      | false =>
        cases ingested
        exact .inl ⟨rfl, rfl, rfl, rfl⟩
      | true =>
        cases ended : endedEvent deviceId db normalized with
        | none =>
          rw [endedEvent] at ended
          dsimp only at ingested
          rw [ended] at ingested
          obtain ⟨result, done, same⟩ := upsert_cases ingested
          exact .inr (.inr (.inr (.inr ⟨result, .inr ⟨rfl, rfl, rfl⟩, done, same⟩)))
        | some replayed =>
          rw [endedEvent] at ended
          dsimp only at ingested
          rw [ended] at ingested
          cases ingested
          exact .inr (.inr (.inl ⟨replayed, rfl, rfl, rfl, rfl, rfl⟩))
    | some existing =>
      rw [currentEvent] at current
      rw [current] at ingested
      cases value with
      | false =>
        cases ingested
        exact .inr (.inl ⟨existing, rfl, rfl, rfl, rfl⟩)
      | true =>
        obtain ⟨⟨middle, outcome', event'⟩, updated, same⟩ := map_eq_ok.mp ingested
        cases same
        obtain ⟨result, done, same⟩ := upsert_cases updated
        exact .inr (.inr (.inr (.inl ⟨existing, result, rfl, rfl, done, same⟩)))

theorem strip_sourceInstanceId (deviceId : Uuid) : strip (sourceInstanceId deviceId) = sourceInstanceId deviceId := by
  have prefixPlain : ∀ c ∈ "device:".toList, isSpace c = false := by simp [isSpace]
  refine strip_eq_self fun c member => ?_
  rw [sourceInstanceId, String.toList_append, List.mem_append] at member
  rcases member with inPrefix | inNumber
  · exact prefixPlain c inPrefix
  · exact isSpace_of_isDigit (isDigit_of_mem_toString inNumber)

theorem sourceInstanceId_nonempty (deviceId : Uuid) : sourceInstanceId deviceId ≠ "" := by
  intro isEmpty
  have lists := congrArg String.toList isEmpty
  rw [sourceInstanceId, String.toList_append] at lists
  cases lists

/-- The stored identity of an item of the device. -/
theorem identity_item {item : EventIngest} {own : EventIdentity} {sourceEventId : String}
    (isSource : item.source = source) (isInstance : item.sourceInstanceId = some (sourceInstanceId deviceId))
    (isEventId : item.sourceEventId = some sourceEventId) (stripped : strip sourceEventId = sourceEventId)
    (nonempty : sourceEventId ≠ "") (isOwn : EventService.identity item = .ok own) :
    own.source = source ∧ own.sourceInstanceId = some (sourceInstanceId deviceId) ∧
      own.sourceEventId = some sourceEventId := by
  obtain ⟨ownSource, _, ownInstance, ownEventId, _⟩ := EventService.identity_ok isOwn
  rw [isSource] at ownSource
  rw [isInstance] at ownInstance
  rw [isEventId] at ownEventId
  exact ⟨EventService.requiredText_stripped (by decide) ownSource,
    EventService.text_stripped (strip_sourceInstanceId deviceId) (sourceInstanceId_nonempty deviceId) ownInstance,
    EventService.text_stripped stripped nonempty ownEventId⟩

theorem currentEvent_some {existing : Event} (current : currentEvent deviceId db normalized = some existing) :
    existing ∈ db.events ∧ isOpenEvent deviceId (cameraId db deviceId normalized) normalized existing = true :=
  Table.mem_of_firstBy? current

theorem endedEvent_some {ended : Event} (isEnded : endedEvent deviceId db normalized = some ended) :
    ended ∈ db.events ∧ EventService.isProviderEvent source (some (sourceInstanceId deviceId))
      normalized.sourceEventId ended = true ∧ ended.endedAt.isSome := by
  rw [endedEvent, Option.filter_eq_some_iff] at isEnded
  obtain ⟨member, isNamed⟩ := Table.mem_of_first? isEnded.1
  exact ⟨member, isNamed, isEnded.2⟩

theorem triggerReport_some {event : Event} {report : ProviderReport} (isReport : triggerReport event = some report) :
    report.source = source ∧ event.cameraId = some report.cameraId ∧
      event.sourceInstanceId = some report.sourceInstanceId ∧ event.sourceEventId = some report.sourceEventId ∧
      report.eventEndedAt = event.endedAt := by
  unfold triggerReport at isReport
  split at isReport
  next camera instance_ eventId =>
    cases isReport
    exact ⟨rfl, camera, instance_, eventId, rfl⟩
  · cases isReport

end OnvifEventIngestService

end ZeroNvr
