import ZeroNvr.Core.Errors
import ZeroNvr.Lib.Outcome
import ZeroNvr.Models

/-! # Recording triggers

An event of a provider opens a recording trigger when the camera's policy
records events and its filter accepts the event.  Later reports of the event
move the planned end forward and complete the trigger.  A manual trigger is
opened by a request and closed by another.
-/

namespace ZeroNvr

open Lib

/-- The keyword arguments of `upsert_provider`. -/
structure ProviderReport where
  cameraId : Uuid
  source : String
  sourceInstanceId : String
  sourceEventId : String
  eventStartedAt : Int
  eventEndedAt : Option Int
  triggerType : String
  reason : Option String
  label : Option String
  confidence : Option ℚ
  zones : List String
  metadata : Dict

namespace RecordingTriggerService

/-! ## The event filter -/

def labelExcluded (eventFilter : Dict) (label : Option String) : Bool :=
  match Dict.get eventFilter "labels" with
  | some (.arr labels) => !labels.isEmpty && !labels.any (· == .ofText label)
  | _ => false

/-- The zones the filter asks for; `set` refuses lists and objects. -/
def requiredZones (eventFilter : Dict) : Result (List Json) :=
  match Dict.get eventFilter "zones" with
  | some (.arr zones) =>
    if zones.any fun zone => match zone with | .arr _ | .obj _ => true | _ => false then
      .error (.typeError "unhashable type")
    else .ok zones
  | _ => .ok []

def unconfident (eventFilter : Dict) (confidence : Option ℚ) : Bool :=
  match (Dict.get eventFilter "min_confidence").bind Json.number? with
  | some minimum => confidence.all (· < minimum)
  | none => false

def eventMatches (policy : RecordingPolicy) (label : Option String) (confidence : Option ℚ)
    (zones : List String) : Result Bool :=
  let eventFilter := policy.eventFilterJson
  if labelExcluded eventFilter label then .ok false
  else do
    let required ← requiredZones eventFilter
    if ¬ required.isEmpty ∧ ¬ required.any fun zone => zones.any fun own => zone == .str own then .ok false
    else .ok (!unconfident eventFilter confidence)

/-! ## The upsert -/

def recordsEvents (policy : RecordingPolicy) : Bool := policy.enabled && policy.eventRecordingEnabled

/-- The camera's policy, when it records events. -/
def eventPolicy (db : Database) (cameraId : Uuid) : Option RecordingPolicy :=
  (db.recordingPolicies.get? cameraId).filter recordsEvents

def providerIdentity (sourceInstanceId sourceEventId : String) : String :=
  sourceInstanceId ++ ":" ++ sourceEventId

def isProviderTrigger (source identity : String) (trigger : RecordingTrigger) : Bool :=
  trigger.source = source ∧ trigger.sourceEventId = some identity

def providerTrigger (db : Database) (source identity : String) : Option RecordingTrigger :=
  db.triggers.first? (isProviderTrigger source identity)

def newTrigger (policy : RecordingPolicy) (report : ProviderReport) (id : Uuid) : RecordingTrigger :=
  { id
    cameraId := report.cameraId
    type := report.triggerType
    source := report.source
    sourceEventId := some (providerIdentity report.sourceInstanceId report.sourceEventId)
    requestedAt := report.eventStartedAt
    preRollSeconds := policy.preRollSeconds
    postRollSeconds := policy.postRollSeconds
    plannedStartAt := report.eventStartedAt - seconds policy.preRollSeconds
    plannedEndAt := report.eventEndedAt.map (· + seconds policy.postRollSeconds)
    state := if report.eventEndedAt.isSome then .completed else .active
    reason := report.reason
    metadata := report.metadata }

theorem newTrigger_key (policy : RecordingPolicy) (report : ProviderReport) (id : Uuid) :
    Keyed.key (newTrigger policy report id) = id := rfl

/-- The planned end only moves forward. -/
def laterEnd (current : Option Int) (plannedEnd : Int) : Int :=
  match current with
  | none => plannedEnd
  | some current => if current < plannedEnd then plannedEnd else current

/-- The trigger once a report of its event is taken in. -/
def refresh (report : ProviderReport) (trigger : RecordingTrigger) : RecordingTrigger :=
  { trigger with
    plannedEndAt := match report.eventEndedAt with
      | some ended => some (laterEnd trigger.plannedEndAt (ended + seconds trigger.postRollSeconds))
      | none => trigger.plannedEndAt
    state := if report.eventEndedAt.isSome then .completed else trigger.state
    metadata := report.metadata
    reason := if report.reason.any (· ≠ "") then report.reason else trigger.reason }

theorem refresh_key (report : ProviderReport) (trigger : RecordingTrigger) :
    Keyed.key (refresh report trigger) = Keyed.key trigger := rfl

/-- The report changes the trigger. -/
def refreshes (report : ProviderReport) (trigger : RecordingTrigger) : Bool :=
  (refresh report trigger).plannedEndAt != trigger.plannedEndAt ||
    (refresh report trigger).state != trigger.state ||
    !(report.metadata == trigger.metadata) ||
    (refresh report trigger).reason != trigger.reason

/-- The check constraint on the planned window. -/
def windowValid (trigger : RecordingTrigger) : Bool :=
  trigger.plannedEndAt.all fun plannedEnd => trigger.plannedStartAt ≤ plannedEnd

/-- The catalog with a trigger refreshed. -/
def refreshTrigger (db : Database) (report : ProviderReport) (trigger : RecordingTrigger) : Database :=
  { db with triggers := db.triggers.modify trigger.id (refresh report) (refresh_key report) }

/-- The catalog with a new trigger. -/
def addTrigger (uuid4 : Supply Uuid) (db : Database) (policy : RecordingPolicy) (report : ProviderReport) : Database :=
  { db with triggers := db.triggers.create uuid4 (newTrigger policy report) (newTrigger_key policy report) }

def upsertProvider (uuid4 : Supply Uuid) (db : Database) (report : ProviderReport) :
    Result (Database × Option RecordingTrigger × Bool) :=
  match eventPolicy db report.cameraId with
  | none => .ok (db, none, false)
  | some policy =>
    let identity := providerIdentity report.sourceInstanceId report.sourceEventId
    if 512 < identity.length then
      .error (apiError 422 "recording_trigger_identity_too_long"
        "Provider recording trigger identity is too long.")
    else match providerTrigger db report.source identity with
    | none => do
      let matched ← eventMatches policy report.label report.confidence report.zones
      if ¬ matched then .ok (db, none, false)
      else if ¬ windowValid (newTrigger policy report (db.triggers.newKey uuid4)) then .error .integrityError
      else .ok (addTrigger uuid4 db policy report, some (newTrigger policy report (db.triggers.newKey uuid4)), true)
    | some existing =>
      if existing.cameraId ≠ report.cameraId then
        .error (apiError 409 "recording_trigger_camera_conflict"
          "Provider recording trigger is already mapped to another camera.")
      else if ¬ refreshes report existing then .ok (db, some existing, false)
      else if ¬ windowValid (refresh report existing) then .error .integrityError
      else .ok (refreshTrigger db report existing, some (refresh report existing), true)

/-! ## What keeps the recorder on -/

/-- The triggers of the camera whose planned window contains the instant. -/
def activeAt (db : Database) (cameraId : Uuid) (instant : Int) : List RecordingTrigger :=
  (db.triggers.select fun trigger =>
    trigger.cameraId = cameraId ∧ trigger.state ≠ .cancelled ∧ trigger.state ≠ .failed ∧
      trigger.plannedStartAt ≤ instant ∧ trigger.plannedEndAt.all fun plannedEnd => instant < plannedEnd).insertionSort
    fun left right => left.plannedStartAt < right.plannedStartAt ∨
      (left.plannedStartAt = right.plannedStartAt ∧ left.id ≤ right.id)

/-- The triggers of the camera whose planned window meets an interval. -/
def overlapping (db : Database) (cameraId : Uuid) (startedAt endedAt : Int) : List RecordingTrigger :=
  (db.triggers.select fun trigger =>
    trigger.cameraId = cameraId ∧ trigger.state ≠ .cancelled ∧ trigger.state ≠ .failed ∧
      trigger.plannedStartAt < endedAt ∧ trigger.plannedEndAt.all fun plannedEnd => startedAt < plannedEnd).insertionSort
    fun left right => left.plannedStartAt < right.plannedStartAt ∨
      (left.plannedStartAt = right.plannedStartAt ∧ left.id ≤ right.id)

/-! ## Manual triggers -/

def isManual (trigger : RecordingTrigger) : Bool := upper trigger.type = "MANUAL"

/-- The key under which a request with an idempotency key is stored. -/
def manualIdentity (cameraId : Uuid) (idempotencyKey : Option String) : Result (Option String) :=
  match idempotencyKey.filter (· ≠ "") with
  | none => .ok none
  | some key =>
    if strip key = "" ∨ 256 < (strip key).length then
      .error (apiError 400 "idempotency_key_invalid" "Idempotency-Key must be 1 to 256 characters.")
    else .ok (some (toString cameraId ++ ":" ++ strip key))

def newManual (policy : RecordingPolicy) (sourceEventId : Option String) (requestedAt : Int)
    (reason : Option String) (id : Uuid) : RecordingTrigger :=
  { id
    cameraId := policy.cameraId
    type := "MANUAL"
    source := "api"
    sourceEventId
    requestedAt
    preRollSeconds := policy.preRollSeconds
    postRollSeconds := policy.postRollSeconds
    plannedStartAt := requestedAt - seconds policy.preRollSeconds
    state := .active
    reason }

theorem newManual_key (policy : RecordingPolicy) (sourceEventId : Option String) (requestedAt : Int)
    (reason : Option String) (id : Uuid) :
    Keyed.key (newManual policy sourceEventId requestedAt reason id) = id := rfl

/-- The trigger that an earlier request under the same key has created. -/
def requestedTrigger (db : Database) (sourceEventId : Option String) : Option RecordingTrigger :=
  sourceEventId.bind fun identity => providerTrigger db "api" identity

def addManual (uuid4 : Supply Uuid) (db : Database) (policy : RecordingPolicy) (sourceEventId : Option String)
    (requestedAt : Int) (reason : Option String) : Database :=
  { db with triggers := db.triggers.create uuid4 (newManual policy sourceEventId requestedAt reason)
                          (newManual_key policy sourceEventId requestedAt reason) }

def createManual (uuid4 : Supply Uuid) (db : Database) (cameraId : Uuid) (requestedAt : Int)
    (reason idempotencyKey : Option String) : Result (Database × RecordingTrigger × Bool) :=
  if (db.cameras.get? cameraId).isNone then
    .error (apiError 404 "camera_not_found" "Camera was not found.")
  else match eventPolicy db cameraId with
  | none => .error (apiError 409 "event_recording_not_enabled" "Event recording is not enabled for this camera.")
  | some policy => do
    let sourceEventId ← manualIdentity cameraId idempotencyKey
    match requestedTrigger db sourceEventId with
    | some existing => .ok (db, existing, false)
    | none => .ok (addManual uuid4 db policy sourceEventId requestedAt reason,
        newManual policy sourceEventId requestedAt reason (db.triggers.newKey uuid4), true)

/-- The trigger once it is stopped; the recording goes on for the post roll. -/
def stopped (stoppedAt : Int) (trigger : RecordingTrigger) : RecordingTrigger :=
  { trigger with plannedEndAt := some (stoppedAt + seconds trigger.postRollSeconds), state := .completed }

theorem stopped_key (stoppedAt : Int) (trigger : RecordingTrigger) :
    Keyed.key (stopped stoppedAt trigger) = Keyed.key trigger := rfl

def stopTrigger (db : Database) (trigger : RecordingTrigger) (stoppedAt : Int) : Database :=
  { db with triggers := db.triggers.modify trigger.id (stopped stoppedAt) (stopped_key stoppedAt) }

def stopManual (db : Database) (trigger : RecordingTrigger) (stoppedAt : Int) :
    Result (Database × RecordingTrigger) :=
  if ¬ isManual trigger then
    .error (apiError 409 "recording_trigger_not_manual"
      "Only manual recording triggers can be stopped explicitly.")
  else if trigger.state = .cancelled ∨ trigger.state = .failed then
    .error (apiError 409 "recording_trigger_not_active" "Recording trigger cannot be stopped.")
  else if trigger.plannedEndAt.isSome then .ok (db, trigger)
  else if ¬ windowValid (stopped stoppedAt trigger) then .error .integrityError
  else .ok (stopTrigger db trigger stoppedAt, stopped stoppedAt trigger)

/-! ## What an upsert does -/

variable {uuid4 : Supply Uuid} {db db' : Database} {report : ProviderReport} {trigger : Option RecordingTrigger}
  {changed : Bool}

theorem mem_refreshTrigger {existing own : RecordingTrigger} :
    own ∈ (refreshTrigger db report existing).triggers ↔
      ∃ old ∈ db.triggers, (if Keyed.key old = existing.id then refresh report old else old) = own := by
  have inModified : own ∈ db.triggers.modify existing.id (refresh report) (refresh_key report) ↔ _ := Table.mem_modify
  exact inModified

theorem mem_addTrigger {policy : RecordingPolicy} {own : RecordingTrigger} :
    own ∈ (addTrigger uuid4 db policy report).triggers ↔
      own ∈ db.triggers ∨ own = newTrigger policy report (db.triggers.newKey uuid4) := by
  have inCreated : own ∈ db.triggers.create uuid4 (newTrigger policy report) (newTrigger_key policy report) ↔ _ :=
    Table.mem_create
  exact inCreated

/-- The key under which the trigger of the reported event is stored. -/
def reportIdentity (report : ProviderReport) : String :=
  providerIdentity report.sourceInstanceId report.sourceEventId

/-- The three ways an upsert returns: it leaves the triggers, creates the one of the event, or takes
    the report into it. -/
theorem upsertProvider_cases (upserted : upsertProvider uuid4 db report = .ok (db', trigger, changed)) :
    (db' = db ∧ trigger = none ∧
      (eventPolicy db report.cameraId = none ∨ providerTrigger db report.source (reportIdentity report) = none)) ∨
    (∃ policy, eventPolicy db report.cameraId = some policy ∧
      providerTrigger db report.source (reportIdentity report) = none ∧
      trigger = some (newTrigger policy report (db.triggers.newKey uuid4)) ∧ db' = addTrigger uuid4 db policy report) ∨
    ∃ existing, (eventPolicy db report.cameraId).isSome ∧
      providerTrigger db report.source (reportIdentity report) = some existing ∧
      existing.cameraId = report.cameraId ∧
      ((refreshes report existing = false ∧ db' = db ∧ trigger = some existing) ∨
        (db' = refreshTrigger db report existing ∧ trigger = some (refresh report existing))) := by
  unfold upsertProvider at upserted
  cases isPolicy : eventPolicy db report.cameraId with
  | none =>
    rw [isPolicy] at upserted
    cases upserted
    exact .inl ⟨rfl, rfl, .inl rfl⟩
  | some policy =>
    rw [isPolicy] at upserted
    dsimp only at upserted
    split at upserted
    · cases upserted
    cases found : providerTrigger db report.source (reportIdentity report) with
    | none =>
      rw [reportIdentity] at found
      rw [found] at upserted
      dsimp only at upserted
      rw [bind_eq_ok] at upserted
      obtain ⟨matched, _, upserted⟩ := upserted
      split at upserted
      · cases upserted
        exact .inl ⟨rfl, rfl, .inr rfl⟩
      split at upserted
      · cases upserted
      · cases upserted
        exact .inr (.inl ⟨policy, rfl, rfl, rfl, rfl⟩)
    | some existing =>
      rw [reportIdentity] at found
      rw [found] at upserted
      dsimp only at upserted
      split at upserted
      · cases upserted
      next sameCamera =>
      refine .inr (.inr ⟨existing, rfl, rfl, not_not.mp sameCamera, ?_⟩)
      split at upserted
      next unchanged =>
        cases upserted
        exact .inl ⟨by simpa using unchanged, rfl, rfl⟩
      split at upserted
      · cases upserted
      · cases upserted
        exact .inr ⟨rfl, rfl⟩

/-- A report that does not change the trigger leaves its planned end and its state. -/
theorem refresh_unchanged {existing : RecordingTrigger} (unchanged : refreshes report existing = false) :
    (refresh report existing).plannedEndAt = existing.plannedEndAt ∧
      (refresh report existing).state = existing.state := by
  simp only [refreshes, Bool.or_eq_false_iff, bne_eq_false_iff_eq] at unchanged
  exact ⟨unchanged.1.1.1, unchanged.1.1.2⟩

theorem isProviderTrigger_newTrigger (policy : RecordingPolicy) (report : ProviderReport) (id : Uuid) :
    isProviderTrigger report.source (reportIdentity report) (newTrigger policy report id) = true := by
  simp [isProviderTrigger, newTrigger, reportIdentity]

theorem providerTrigger_addTrigger (policy : RecordingPolicy) (source identity : String) :
    let new := newTrigger policy report (db.triggers.newKey uuid4)
    providerTrigger (addTrigger uuid4 db policy report) source identity =
      (providerTrigger db source identity).or (if isProviderTrigger source identity new then some new else none) :=
  Table.first?_create (newTrigger_key policy report) _

theorem providerTrigger_refreshTrigger (existing : RecordingTrigger) (source identity : String) :
    providerTrigger (refreshTrigger db report existing) source identity =
      (providerTrigger db source identity).map fun row =>
        if Keyed.key row = existing.id then refresh report row else row :=
  Table.first?_modify (refresh_key report) fun _ => rfl

/-- Afterwards the key of the report names the trigger that was returned. -/
theorem providerTrigger_upsert {trigger : RecordingTrigger}
    (upserted : upsertProvider uuid4 db report = .ok (db', some trigger, changed)) :
    providerTrigger db' report.source (reportIdentity report) = some trigger := by
  rcases upsertProvider_cases upserted with ⟨_, absurd_, _⟩ | ⟨policy, _, absent, same, rfl⟩ |
    ⟨existing, _, found, _, ⟨_, rfl, same⟩ | ⟨rfl, same⟩⟩
  · cases absurd_
  · cases same
    rw [providerTrigger_addTrigger, absent, Option.none_or]
    exact if_pos (isProviderTrigger_newTrigger policy report _)
  · rw [found, same]
  · cases same
    rw [providerTrigger_refreshTrigger, found]
    simp [Keyed.key]

theorem some_laterEnd (current : Option Int) (plannedEnd : Int) :
    some (laterEnd current plannedEnd) = current.merge max (some plannedEnd) := by
  cases current with
  | none => rfl
  | some current =>
    simp only [laterEnd, Option.merge_some_some, Option.some.injEq]
    split
    next later => exact (max_eq_right later.le).symm
    next earlier => exact (max_eq_left (not_lt.mp earlier)).symm

/-- The planned end of the trigger: of a new one the reported end with the post roll, of an existing
    one the later of that and the planned end it had. -/
theorem upsertProvider_plannedEnd {trigger : RecordingTrigger}
    (upserted : upsertProvider uuid4 db report = .ok (db', some trigger, changed)) :
    let reported := report.eventEndedAt.map (· + seconds trigger.postRollSeconds)
    (providerTrigger db report.source (reportIdentity report) = none ∧ trigger.plannedEndAt = reported) ∨
    ∃ existing, providerTrigger db report.source (reportIdentity report) = some existing ∧
      trigger.postRollSeconds = existing.postRollSeconds ∧
      trigger.plannedEndAt = existing.plannedEndAt.merge max reported := by
  have refreshed (existing : RecordingTrigger) : (refresh report existing).plannedEndAt =
      existing.plannedEndAt.merge max (report.eventEndedAt.map (· + seconds existing.postRollSeconds)) := by
    simp only [refresh]
    cases report.eventEndedAt with
    | none => simp
    | some ended => exact some_laterEnd _ _
  rcases upsertProvider_cases upserted with ⟨_, absurd_, _⟩ | ⟨policy, _, absent, same, rfl⟩ |
    ⟨existing, _, found, _, ⟨unchanged, rfl, same⟩ | ⟨rfl, same⟩⟩
  · cases absurd_
  · cases same
    exact .inl ⟨absent, rfl⟩
  · cases same
    exact .inr ⟨trigger, found, rfl, (refresh_unchanged unchanged).1.symm.trans (refreshed trigger)⟩
  · cases same
    exact .inr ⟨existing, found, rfl, refreshed existing⟩

theorem upsertProvider_frame (upserted : upsertProvider uuid4 db report = .ok (db', trigger, changed)) :
    db' = { db with triggers := db'.triggers } := by
  rcases upsertProvider_cases upserted with ⟨rfl, _⟩ | ⟨policy, _, _, _, rfl⟩ | ⟨existing, _, _, _, ⟨_, rfl, _⟩ | ⟨rfl, _⟩⟩
  all_goals rfl

end RecordingTriggerService

end ZeroNvr
