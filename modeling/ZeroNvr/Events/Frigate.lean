import ZeroNvr.Alerts.Service
import ZeroNvr.Events.Service
import ZeroNvr.Recordings.Triggers

/-! # Frigate events

The MQTT and the HTTP feed of Frigate end in the same ingest: the event is
upserted, then the recording trigger of the event, then the alerts.  The
normalizer has decided before whether the payload is an event at all.
-/

namespace ZeroNvr

open Lib

structure FrigateNormalizedEvent where
  item : Option EventIngest
  ignored : Bool := false
  ignoreReason : Option String := none

structure FrigateIngestResult where
  event : Option Event
  created : Bool := false
  ignored : Bool := false
  ignoreReason : Option String := none
  trigger : Option RecordingTrigger := none
  triggerChanged : Bool := false
  triggerCameraId : Option Uuid := none
  notificationDeliveryIds : List Uuid := []

namespace FrigateEventIngestService

/-- The zones in the stored metadata that are texts. -/
def normalizedZones (event : Event) : List String :=
  match Dict.get event.metadata "zones" with
  | some (.arr zones) => zones.filterMap fun zone => match zone with
    | .str zone => some zone
    | _ => none
  | _ => []

def triggerMetadata (event : Event) : Dict :=
  [("event_id", .str (toString event.id)), ("label", .ofText event.label),
    ("zones", .arr ((normalizedZones event).map .str))]

/-- What the event reports to the recording triggers, when it has a camera and a provider's id. -/
def triggerReport (event : Event) : Option ProviderReport :=
  match event.cameraId, event.sourceEventId, event.sourceInstanceId with
  | some cameraId, some sourceEventId, some sourceInstanceId => some {
      cameraId, sourceInstanceId, sourceEventId
      source := "frigate"
      eventStartedAt := event.startedAt
      eventEndedAt := event.endedAt
      triggerType := "AI_OBJECT"
      reason := event.label
      label := event.label
      confidence := event.confidence
      zones := normalizedZones event
      metadata := triggerMetadata event }
  | _, _, _ => none

variable (uuid4 : Supply Uuid)

def syncTrigger (db : Database) (event : Event) : Result (Database × Option RecordingTrigger × Bool) :=
  match triggerReport event with
  | some report => RecordingTriggerService.upsertProvider uuid4 db report
  | none => .ok (db, none, false)

variable (zoneInfo : String → Result TimeZone) (redactText : String → String)

/-- `_persist`. -/
def persist (now : Int) (db : Database) (normalized : FrigateNormalizedEvent) :
    Result (Database × FrigateIngestResult) :=
  match normalized.item with
  | none => .ok (db, { event := none, ignored := normalized.ignored, ignoreReason := normalized.ignoreReason })
  | some item => do
    let (db, eventResult) ← EventService.upsertProviderEvent redactText uuid4 db item
    let event := eventResult.event
    let (db, trigger, triggerChanged) ← syncTrigger uuid4 db event
    let (db, alertResult) ← AlertEvaluationService.evaluateEvent zoneInfo uuid4 db event now
    .ok (db, {
      event := some event
      created := eventResult.created
      trigger, triggerChanged
      triggerCameraId := trigger.map RecordingTrigger.cameraId
      notificationDeliveryIds := alertResult.deliveryIds })

/-! ## What an ingest does -/

variable {uuid4 zoneInfo redactText}

/-- The three parts of an ingest. -/
theorem persist_parts {now : Int} {db db' : Database} {item : EventIngest} {normalized : FrigateNormalizedEvent}
    {result : FrigateIngestResult} (isItem : normalized.item = some item)
    (done : persist uuid4 zoneInfo redactText now db normalized = .ok (db', result)) :
    ∃ upserted synced eventResult alertResult,
      EventService.upsertProviderEvent redactText uuid4 db item = .ok (upserted, eventResult) ∧
      syncTrigger uuid4 upserted eventResult.event = .ok (synced, result.trigger, result.triggerChanged) ∧
      result.event = some eventResult.event ∧
      AlertEvaluationService.evaluateEvent zoneInfo uuid4 synced eventResult.event now = .ok (db', alertResult) := by
  unfold persist at done
  rw [isItem] at done
  dsimp only at done
  simp only [bind_eq_ok] at done
  obtain ⟨⟨upserted, eventResult⟩, isUpserted, ⟨synced, trigger, triggerChanged⟩, isSynced, ⟨last, alertResult⟩,
    evaluated, same⟩ := done
  cases same
  exact ⟨upserted, synced, eventResult, alertResult, isUpserted, isSynced, rfl, evaluated⟩

/-- An ingest upserts the event, synchronises its trigger, and leaves both alone from then on. -/
theorem persist_cases {now : Int} {db db' : Database} {item : EventIngest} {normalized : FrigateNormalizedEvent}
    {result : FrigateIngestResult} (isItem : normalized.item = some item)
    (done : persist uuid4 zoneInfo redactText now db normalized = .ok (db', result)) :
    ∃ upserted synced eventResult,
      EventService.upsertProviderEvent redactText uuid4 db item = .ok (upserted, eventResult) ∧
      syncTrigger uuid4 upserted eventResult.event = .ok (synced, result.trigger, result.triggerChanged) ∧
      result.event = some eventResult.event ∧
      ∃ alerts deliveries protections, db' = { synced with alerts, deliveries, protections } := by
  obtain ⟨upserted, synced, eventResult, _, isUpserted, isSynced, isEvent, evaluated⟩ := persist_parts isItem done
  exact ⟨upserted, synced, eventResult, isUpserted, isSynced, isEvent,
    AlertEvaluationService.evaluateEvent_frame evaluated⟩

theorem triggerReport_some {event : Event} {report : ProviderReport} (isReport : triggerReport event = some report) :
    report.source = "frigate" ∧ event.cameraId = some report.cameraId ∧
      event.sourceInstanceId = some report.sourceInstanceId ∧ event.sourceEventId = some report.sourceEventId ∧
      report.eventEndedAt = event.endedAt := by
  unfold triggerReport at isReport
  split at isReport
  next camera eventId instance_ =>
    cases isReport
    exact ⟨rfl, camera, instance_, eventId, rfl⟩
  · cases isReport

theorem syncTrigger_frame {db db' : Database} {event : Event} {trigger : Option RecordingTrigger} {changed : Bool}
    (synced : syncTrigger uuid4 db event = .ok (db', trigger, changed)) :
    db' = { db with triggers := db'.triggers } := by
  unfold syncTrigger at synced
  split at synced
  · exact RecordingTriggerService.upsertProvider_frame synced
  · cases synced
    rfl

end FrigateEventIngestService

end ZeroNvr
