import ZeroNvr.Events.Frigate
import ZeroNvr.Lib.LastWrite
import ZeroNvr.Lib.Run

/-! # The order of Frigate updates

Every update of an event overwrites its end, so the stored end is the one of the
update applied last; the recording trigger of the event keeps the latest end.
Which orders of delivery leave the two in agreement is a question about the list
of ends alone.
-/

namespace ZeroNvr.FrigateEventIngestService

open Lib EventService RecordingTriggerService

variable {uuid4 : Supply Uuid} {zoneInfo : String → Result TimeZone} {redactText : String → String}
  {instanceId eventId : String}

/-- One update of an event: the normalized payload, the clock, and the catalog it meets. -/
structure FrigateUpdate where
  item : EventIngest
  now : Int
  found : Database

/-- The ends the updates carry, in the order in which they are applied. -/
def ends (updates : List FrigateUpdate) : List (Option Int) := updates.map fun update => update.item.endedAt

def storedEvent (instanceId eventId : String) (db : Database) : Option Event :=
  providerEvent db "frigate" (some instanceId) eventId

def storedEnd (instanceId eventId : String) (db : Database) : Option Int :=
  (storedEvent instanceId eventId db).bind Event.endedAt

def storedTrigger (instanceId eventId : String) (db : Database) : Option RecordingTrigger :=
  providerTrigger db "frigate" (providerIdentity instanceId eventId)

/-- The item is an ingest of the event with the given provider identity. -/
def IsUpdate (instanceId eventId : String) (item : EventIngest) : Prop :=
  ∃ category, identity item = .ok {
    source := "frigate", category, sourceInstanceId := some instanceId, sourceEventId := some eventId }

/-- Whatever happens between two updates leaves the event and its trigger. -/
def SameEvent (instanceId eventId : String) (db found : Database) : Prop :=
  storedEvent instanceId eventId found = storedEvent instanceId eventId db ∧
    storedTrigger instanceId eventId found = storedTrigger instanceId eventId db

variable (uuid4 zoneInfo redactText instanceId eventId) in
/-- An update is applied; one that raises is rolled back and is not a step. -/
def Applied (db : Database) (update : FrigateUpdate) (db' : Database) : Prop :=
  IsUpdate instanceId eventId update.item ∧ SameEvent instanceId eventId db update.found ∧
    ∃ result, persist uuid4 zoneInfo redactText update.now update.found { item := some update.item } = .ok (db', result)

variable (uuid4 zoneInfo redactText instanceId eventId) in
/-- An update is applied and taken into the recording trigger of the event. -/
def Recorded (db : Database) (update : FrigateUpdate) (db' : Database) : Prop :=
  IsUpdate instanceId eventId update.item ∧ SameEvent instanceId eventId db update.found ∧
    ∃ result, persist uuid4 zoneInfo redactText update.now update.found { item := some update.item } = .ok (db', result) ∧
      result.trigger.isSome

/-! ## One update -/

/-- What an update stores and hands to the trigger. -/
theorem persist_stores {now : Int} {found db' : Database} {item : EventIngest} {result : FrigateIngestResult}
    (isUpdate : IsUpdate instanceId eventId item)
    (done : persist uuid4 zoneInfo redactText now found { item := some item } = .ok (db', result)) :
    ∃ event upserted, storedEvent instanceId eventId db' = some event ∧ event.endedAt = item.endedAt ∧
      event.source = "frigate" ∧ event.sourceInstanceId = some instanceId ∧ event.sourceEventId = some eventId ∧
      upserted.triggers = found.triggers ∧
      ∃ synced, syncTrigger uuid4 upserted event = .ok (synced, result.trigger, result.triggerChanged) ∧
        db'.triggers = synced.triggers := by
  obtain ⟨category, isOwn⟩ := isUpdate
  obtain ⟨upserted, synced, eventResult, isUpserted, isSynced, _, _, _, _, rfl⟩ := persist_cases rfl done
  have stored := providerEvent_upsert isUpserted isOwn rfl
  obtain ⟨_, isEnded, isNamed⟩ := upsertProviderEvent_event isUpserted isOwn
  have named := isNamed eventId rfl
  simp only [isProviderEvent, decide_eq_true_eq] at named
  have upsertedOnly := upsertProviderEvent_frame isUpserted
  have syncedOnly := syncTrigger_frame isSynced
  refine ⟨eventResult.event, upserted, ?_, isEnded, named.1, named.2.1, named.2.2, ?_, synced, isSynced, rfl⟩
  · have sameEvents : synced.events = upserted.events := by rw [syncedOnly]
    rw [storedEvent, ← stored]
    simp only [providerEvent, sameEvents]
  · rw [upsertedOnly]

theorem storedEnd_applied {db db' : Database} {update : FrigateUpdate}
    (applied : Applied uuid4 zoneInfo redactText instanceId eventId db update db') :
    storedEnd instanceId eventId db' = update.item.endedAt := by
  obtain ⟨isUpdate, _, result, done⟩ := applied
  obtain ⟨event, _, stored, isEnded, _⟩ := persist_stores isUpdate done
  rw [storedEnd, stored, Option.bind_some, isEnded]

theorem ends_concat (updates : List FrigateUpdate) (update : FrigateUpdate) :
    ends (updates ++ [update]) = ends updates ++ [update.item.endedAt] := by
  simp [ends]

/-- A trigger moved forward by an end holds the latest end with the post roll. -/
theorem merge_map_add (earlier reported : Option Int) (postRoll : Int) :
    (earlier.map (· + postRoll)).merge max (reported.map (· + postRoll)) =
      (earlier.merge max reported).map (· + postRoll) := by
  cases earlier with
  | none => simp
  | some earlier =>
    cases reported with
    | none => simp
    | some reported => simp [max_add_add_right]

/-- The planned end of the trigger after the updates taken into it. -/
def PlannedEnd (instanceId eventId : String) (past : List FrigateUpdate) (db : Database) : Prop :=
  match past with
  | [] => storedTrigger instanceId eventId db = none
  | _ => ∃ trigger, storedTrigger instanceId eventId db = some trigger ∧
      trigger.plannedEndAt = (latest (ends past)).map (· + seconds trigger.postRollSeconds)

theorem plannedEnd_recorded (past : List FrigateUpdate) (db : Database) (update : FrigateUpdate) (db' : Database)
    (before : PlannedEnd instanceId eventId past db)
    (recorded : Recorded uuid4 zoneInfo redactText instanceId eventId db update db') :
    PlannedEnd instanceId eventId (past ++ [update]) db' := by
  obtain ⟨isUpdate, ⟨_, sameTrigger⟩, result, done, isTaken⟩ := recorded
  obtain ⟨event, upserted, _, isEnded, _, isInstance, isEvent, sameTriggers, synced, isSynced, inLast⟩ :=
    persist_stores isUpdate done
  obtain ⟨trigger, isTrigger⟩ := Option.isSome_iff_exists.mp isTaken
  rw [isTrigger] at isSynced
  have found : storedTrigger instanceId eventId upserted = storedTrigger instanceId eventId db := by
    rw [← sameTrigger]
    simp only [storedTrigger, providerTrigger, sameTriggers]
  unfold syncTrigger at isSynced
  cases isReport : triggerReport event with
  | none =>
    rw [isReport] at isSynced
    cases isSynced
  | some report =>
    rw [isReport] at isSynced
    obtain ⟨isFrigate, _, ofInstance, ofEvent, reportedEnd⟩ := triggerReport_some isReport
    have isKey : reportIdentity report = providerIdentity instanceId eventId := by
      rw [reportIdentity, Option.some.inj (isInstance.symm.trans ofInstance),
        Option.some.inj (isEvent.symm.trans ofEvent)]
    have stored : storedTrigger instanceId eventId db' = some trigger := by
      have upsertedTrigger := providerTrigger_upsert isSynced
      rw [isFrigate, isKey] at upsertedTrigger
      rw [← upsertedTrigger]
      simp only [storedTrigger, providerTrigger, inLast]
    have planned := upsertProvider_plannedEnd isSynced
    rw [isFrigate, isKey, reportedEnd, isEnded] at planned
    change storedTrigger instanceId eventId upserted = none ∧ _ ∨
      ∃ existing, storedTrigger instanceId eventId upserted = some existing ∧ _ at planned
    rw [found] at planned
    cases past with
    | nil =>
      rcases planned with ⟨_, isPlanned⟩ | ⟨existing, isExisting, _⟩
      · refine ⟨trigger, stored, ?_⟩
        rw [isPlanned]
        simp [ends, latest]
      · exact absurd (isExisting.symm.trans before) (Option.some_ne_none _)
    | cons first past =>
      obtain ⟨earlier, isEarlier, earlierEnd⟩ := before
      rcases planned with ⟨absent, _⟩ | ⟨existing, isExisting, samePostRoll, isPlanned⟩
      · exact absurd (isEarlier.symm.trans absent) (Option.some_ne_none _)
      · obtain rfl : earlier = existing := Option.some.inj (isEarlier.symm.trans isExisting)
        refine ⟨trigger, stored, ?_⟩
        rw [isPlanned, earlierEnd, ← samePostRoll, merge_map_add, ends_concat, latest_concat]

/-! ## Every order of updates -/

theorem storedEnd_run {start final : Database} {updates : List FrigateUpdate}
    (run : Run (Applied uuid4 zoneInfo redactText instanceId eventId) start updates final)
    (fresh : storedEvent instanceId eventId start = none) :
    storedEnd instanceId eventId final = lastWrite (ends updates) := by
  have startEnd : storedEnd instanceId eventId start = lastWrite (ends []) := by
    rw [storedEnd, fresh]
    rfl
  have step : ∀ past db update db', storedEnd instanceId eventId db = lastWrite (ends past) →
      Applied uuid4 zoneInfo redactText instanceId eventId db update db' →
      storedEnd instanceId eventId db' = lastWrite (ends (past ++ [update])) := by
    intro past db update db' _ applied
    rw [ends_concat, lastWrite_concat, storedEnd_applied applied]
  exact Run.invariant_past step run [] startEnd

/-- Along the updates applied to a new event: an event that has ended once stays ended and finally
    carries the latest end, exactly when no update without an end follows one with an end and the update
    applied last carries the latest end.  A recording trigger that every update was taken into carries the
    latest end with its post roll in any order. -/
theorem endedAt_latest_iff {start final : Database} {updates : List FrigateUpdate}
    (run : Run (Applied uuid4 zoneInfo redactText instanceId eventId) start updates final)
    (fresh : storedEvent instanceId eventId start = none) (untriggered : storedTrigger instanceId eventId start = none) :
    (((∀ before after middle, updates = before ++ after →
          Run (Applied uuid4 zoneInfo redactText instanceId eventId) start before middle →
          (latest (ends before)).isSome → (storedEnd instanceId eventId middle).isSome) ∧
        storedEnd instanceId eventId final = latest (ends updates)) ↔ EndsInOrder (ends updates)) ∧
    (Run (Recorded uuid4 zoneInfo redactText instanceId eventId) start updates final → updates ≠ [] →
      ∃ trigger, storedTrigger instanceId eventId final = some trigger ∧
        trigger.plannedEndAt = (latest (ends updates)).map (· + seconds trigger.postRollSeconds)) := by
  refine ⟨?_, fun recorded nonempty => ?_⟩
  · rw [← lastWrite_latest_iff, storedEnd_run run fresh]
    refine and_congr_left fun _ => ⟨fun stays before after split isSome => ?_, fun stays before after middle split
      running isSome => ?_⟩
    · obtain ⟨before, after, rfl, rfl, rfl⟩ := List.map_eq_append_iff.mp split
      obtain ⟨middle, first, _⟩ := run.split
      change (lastWrite (ends before)).isSome = true
      rw [← storedEnd_run first fresh]
      exact stays before after middle rfl first isSome
    · rw [storedEnd_run running fresh]
      exact stays (ends before) (ends after) (by rw [split]; simp [ends]) isSome
  · have planned : PlannedEnd instanceId eventId updates final :=
      Run.invariant_past plannedEnd_recorded recorded [] untriggered
    cases updates with
    | nil => exact absurd rfl nonempty
    | cons first rest => exact planned

/-! ## Concrete feeds -/

variable (uuid4 zoneInfo redactText) in
/-- The catalog after the given ingests, one transaction each. -/
def feed (db : Database) (items : List EventIngest) : Result Database :=
  items.foldlM (fun db item => Prod.fst <$> persist uuid4 zoneInfo redactText 0 db { item := some item }) db

theorem run_feed {start final : Database} {items : List EventIngest}
    (areUpdates : ∀ item ∈ items, IsUpdate instanceId eventId item)
    (fed : feed uuid4 zoneInfo redactText start items = .ok final) :
    ∃ updates, ends updates = items.map EventIngest.endedAt ∧
      Run (Applied uuid4 zoneInfo redactText instanceId eventId) start updates final := by
  induction items generalizing start with
  | nil =>
    cases fed
    exact ⟨[], rfl, .done _⟩
  | cons item items ih =>
    rw [feed, List.foldlM_cons, bind_eq_ok] at fed
    obtain ⟨middle, first, rest⟩ := fed
    obtain ⟨⟨_, result⟩, done, rfl⟩ := map_eq_ok.mp first
    obtain ⟨updates, sameEnds, run⟩ := ih (fun item member => areUpdates item (List.mem_cons_of_mem _ member)) rest
    refine ⟨{ item, now := 0, found := start } :: updates, by simpa [ends] using sameEnds, .next ?_ run⟩
    exact ⟨areUpdates item List.mem_cons_self, ⟨rfl, rfl⟩, result, done⟩

/-- A catalog with one camera. -/
def oneCamera : Database := { cameras := ⟨[{ id := 1 }], List.nodup_singleton _⟩ }

/-- A report of the event "e1" of the instance "frigate1" that starts at ten seconds. -/
def report (endedAt : Option Int) : EventIngest :=
  { source := "frigate"
    category := "object"
    startedAt := 10000000
    sourceInstanceId := some "frigate1"
    sourceEventId := some "e1"
    cameraId := some 1
    label := some "person"
    endedAt }

theorem report_isUpdate (endedAt : Option Int) : IsUpdate "frigate1" "e1" (report endedAt) := by
  have checked : identity (report none) = .ok {
      source := "frigate", category := "object", sourceInstanceId := some "frigate1", sourceEventId := some "e1" } := by
    decide
  exact ⟨"object", checked⟩

/-- An update that arrives after the end of the event opens it again. -/
theorem late_update_reopens : ∃ updates final,
    Run (Applied .counting RecordingPolicyService.utcOnly id "frigate1" "e1") oneCamera updates final ∧
      storedEvent "frigate1" "e1" oneCamera = none ∧ ends updates = [some 20000000, none] ∧
      storedEnd "frigate1" "e1" final = none := by
  have ended : (storedEnd "frigate1" "e1" <$> feed .counting RecordingPolicyService.utcOnly id oneCamera
      [report (some 20000000), report none]) = .ok none := by decide
  obtain ⟨final, fed, isOpen⟩ := map_eq_ok.mp ended
  have areUpdates : ∀ item ∈ [report (some 20000000), report none], IsUpdate "frigate1" "e1" item := by
    simp [report_isUpdate]
  obtain ⟨updates, sameEnds, run⟩ := run_feed areUpdates fed
  exact ⟨updates, final, run, rfl, sameEnds, isOpen⟩

/-- The updates of an event in the order in which they were sent. -/
theorem endedAt_latest_iff_inOrder : ∃ updates final,
    ends updates = [none, none, some 20000000] ∧
      storedEnd "frigate1" "e1" final = latest (ends updates) ∧ EndsInOrder (ends updates) := by
  have ended : (storedEnd "frigate1" "e1" <$> feed .counting RecordingPolicyService.utcOnly id oneCamera
      [report none, report none, report (some 20000000)]) = .ok (some 20000000) := by decide
  obtain ⟨final, fed, isEnded⟩ := map_eq_ok.mp ended
  have areUpdates : ∀ item ∈ [report none, report none, report (some 20000000)],
      IsUpdate "frigate1" "e1" item := by
    simp [report_isUpdate]
  obtain ⟨updates, sameEnds, run⟩ := run_feed areUpdates fed
  have inOrder : EndsInOrder (ends updates) := by
    rw [sameEnds]
    exact ⟨by simp [report], by simp [report]⟩
  exact ⟨updates, final, sameEnds, ((endedAt_latest_iff run rfl rfl).1.mpr inOrder).2, inOrder⟩

end ZeroNvr.FrigateEventIngestService
