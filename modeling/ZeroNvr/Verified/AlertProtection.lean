import ZeroNvr.Verified.FrigateOrder

/-! # What an alert protects

The recordings around an event are protected when the alert of the event opens,
for the extent the event has then; later updates find the alert and leave its
protection alone.  The protection covers the event as long as no update makes it
start before or end after what was known when the alert opened.
-/

namespace ZeroNvr.FrigateEventIngestService

open Lib EventService AlertEvaluationService

variable {uuid4 : Supply Uuid} {zoneInfo : String → Result TimeZone} {redactText : String → String}
  {instanceId eventId : String} {policyId cameraId : Uuid} {before after : Int}

/-! ## Evaluating one event -/

/-- A protection of the alert over the extent of the event. -/
def ProtectionWritten (db : Database) (alertId cameraId : Uuid) (first last : Int) : Prop :=
  ∃ protection ∈ db.protections, protection.reason = alertReason alertId ∧ protection.cameraId = cameraId ∧
    protection.startedAt ≤ first ∧ last ≤ protection.endedAt

/-- The policy has an alert for the event. -/
def HasAlert (policyId : Uuid) (db : Database) (event : Event) : Prop :=
  ∃ alert ∈ db.alerts, alert.policyId = some policyId ∧ alert.eventId = event.id

/-- What evaluating an event leaves: all protections there were, and an alert of the policy for the event
    only where there was one before or with its protection. -/
structure Guarded (policyId cameraId : Uuid) (before after : Int) (db : Database) (event : Event)
    (soFar : Database) : Prop where
  protections : ∀ protection ∈ db.protections, protection ∈ soFar.protections
  kept : ∀ alert ∈ db.alerts, alert ∈ soFar.alerts
  opened : ∀ alert ∈ soFar.alerts, alert ∈ db.alerts ∨ (alert.eventId = event.id ∧
    (alert.policyId = some policyId → ¬ HasAlert policyId db event ∧
      ProtectionWritten soFar alert.id cameraId (event.startedAt - seconds before)
        (event.endedAt.getD event.startedAt + seconds after)))

theorem Guarded.evaluatePolicy {db : Database} {event : Event} {now : Int} {acc acc' : Database × AlertEvaluationResult}
    {policy : AlertPolicy} (onCamera : event.cameraId = some cameraId)
    (protecting : policy.id = policyId → Protecting policy before after)
    (guarded : Guarded policyId cameraId before after db event acc.1)
    (done : evaluatePolicy zoneInfo uuid4 event now acc policy = .ok acc') :
    Guarded policyId cameraId before after db event acc'.1 := by
  rcases evaluatePolicy_cases done with rfl | ⟨_, noAlert, _, deliveries, isProtected⟩
  · exact guarded
  have grows : ∀ protection ∈ acc.1.protections, protection ∈ acc'.1.protections :=
    fun protection member => protect_grows isProtected member
  have created : ∀ alert, alert ∈ acc'.1.alerts ↔
      alert ∈ acc.1.alerts ∨ alert = openedAlert policy event (acc.1.alerts.newKey uuid4) := by
    obtain ⟨protections, changed⟩ := protect_frame isProtected
    have inCreated := fun alert => @Table.mem_create _ _ _ acc.1.alerts uuid4 (openedAlert policy event) (fun _ => rfl) alert
    rw [changed]
    exact inCreated
  refine ⟨fun protection member => grows protection (guarded.protections protection member),
    fun alert member => (created alert).mpr (.inl (guarded.kept alert member)), fun alert member => ?_⟩
  rcases (created alert).mp member with old | rfl
  · rcases guarded.opened alert old with known | ⟨ofEvent, written⟩
    · exact .inl known
    · refine .inr ⟨ofEvent, fun isPolicy => ?_⟩
      obtain ⟨noneBefore, protection, protectionMember, isWritten⟩ := written isPolicy
      exact ⟨noneBefore, protection, grows protection protectionMember, isWritten⟩
  · refine .inr ⟨rfl, fun isPolicy => ⟨?_, ?_⟩⟩
    · rintro ⟨alert, old, ofPolicy, ofEvent⟩
      exact noAlert alert (guarded.kept alert old) (ofPolicy.trans isPolicy.symm) ofEvent
    · obtain ⟨protection, protectionMember, isReason, isCamera, starts, ends_⟩ :=
        protect_writes (protecting (Option.some.inj isPolicy)) onCamera isProtected
      exact ⟨protection, protectionMember, isReason, isCamera, starts.le, ends_⟩

theorem evaluateEvent_guarded {db : Database} {event : Event} {now : Int} {acc' : Database × AlertEvaluationResult}
    (onCamera : event.cameraId = some cameraId)
    (protecting : ∀ policy ∈ db.alertPolicies, policy.id = policyId → Protecting policy before after)
    (done : evaluateEvent zoneInfo uuid4 db event now = .ok acc') :
    Guarded policyId cameraId before after db event acc'.1 := by
  have start : Guarded policyId cameraId before after db event db :=
    ⟨fun _ member => member, fun _ member => member, fun _ member => .inl member⟩
  unfold evaluateEvent at done
  split at done
  · cases done
    exact start
  · have step : ∀ acc, ∀ policy ∈ (db.alertPolicies.select AlertPolicy.enabled).insertionSort
        (fun left right => left.id ≤ right.id), ∀ acc', Guarded policyId cameraId before after db event acc.1 →
        evaluatePolicy zoneInfo uuid4 event now acc policy = .ok acc' →
        Guarded policyId cameraId before after db event acc'.1 := by
      intro acc policy member acc' guarded evaluated
      rw [List.mem_insertionSort, Table.mem_select] at member
      exact guarded.evaluatePolicy onCamera (protecting policy member.1) evaluated
    exact @foldlM_invariant _ _ _ _ (fun acc => Guarded policyId cameraId before after db event acc.1) _ step _ _ start done

/-! ## Runs of updates -/

/-- The catalog, and the extent of the event when it was last evaluated without an alert of the policy. -/
structure ProtectionWorld where
  db : Database
  opened : Int × Int

/-- Start and end as a protection sees them. -/
def extent (item : EventIngest) : Int × Int := (item.startedAt, item.endedAt.getD item.startedAt)

/-- The event has an alert of the policy. -/
def Alarmed (policyId : Uuid) (instanceId eventId : String) (db : Database) : Prop :=
  ∃ event, storedEvent instanceId eventId db = some event ∧ HasAlert policyId db event

inductive ProtectionAction where
  | update (item : EventIngest) (now : Int)
  | elsewhere

/-- Whatever else happens leaves the event, the actions of the policy and the protections of the alerts
    of the event; it opens no alert of the policy for the event. -/
structure OtherWork (policyId : Uuid) (before after : Int) (instanceId eventId : String) (db db' : Database) : Prop where
  event : storedEvent instanceId eventId db' = storedEvent instanceId eventId db
  policy : ∀ policy ∈ db'.alertPolicies, policy.id = policyId → Protecting policy before after
  references : ∀ alert ∈ db'.alerts, ∃ event ∈ db'.events, event.id = alert.eventId
  alerts : ∀ event, storedEvent instanceId eventId db = some event → ∀ alert ∈ db'.alerts,
    alert.policyId = some policyId → alert.eventId = event.id →
    ∃ old ∈ db.alerts, old.id = alert.id ∧ old.policyId = some policyId ∧ old.eventId = event.id
  protections : ∀ protection ∈ db.protections, (∃ alert ∈ db.alerts, protection.reason = alertReason alert.id) →
    protection ∈ db'.protections

inductive ProtectionStep (uuid4 : Supply Uuid) (zoneInfo : String → Result TimeZone) (redactText : String → String)
    (policyId cameraId : Uuid) (before after : Int) (instanceId eventId : String) :
    ProtectionWorld → ProtectionAction → ProtectionWorld → Prop
  | update {world world' : ProtectionWorld} {item : EventIngest} {now : Int} {result : FrigateIngestResult}
      (isUpdate : IsUpdate instanceId eventId item) (onCamera : item.cameraId = some cameraId)
      (done : persist uuid4 zoneInfo redactText now world.db { item := some item } = .ok (world'.db, result))
      (stays : Alarmed policyId instanceId eventId world.db → world'.opened = world.opened)
      (opens : ¬ Alarmed policyId instanceId eventId world.db → world'.opened = extent item) :
      ProtectionStep uuid4 zoneInfo redactText policyId cameraId before after instanceId eventId world
        (.update item now) world'
  | elsewhere {world world' : ProtectionWorld}
      (others : OtherWork policyId before after instanceId eventId world.db world'.db)
      (stays : world'.opened = world.opened) :
      ProtectionStep uuid4 zoneInfo redactText policyId cameraId before after instanceId eventId world .elsewhere world'

/-- Once the event has an alert, no update makes it start before or end after what was known when the
    alert opened; an open event counts as ended at its start. -/
def MeetsExtent (policyId : Uuid) (instanceId eventId : String) (world : ProtectionWorld) : ProtectionAction → Prop
  | .update item _ => Alarmed policyId instanceId eventId world.db →
      world.opened.1 ≤ item.startedAt ∧ item.endedAt.getD item.startedAt ≤ world.opened.2
  | .elsewhere => True

def SteadyStep (uuid4 : Supply Uuid) (zoneInfo : String → Result TimeZone) (redactText : String → String)
    (policyId cameraId : Uuid) (before after : Int) (instanceId eventId : String)
    (world : ProtectionWorld) (action : ProtectionAction) (world' : ProtectionWorld) : Prop :=
  ProtectionStep uuid4 zoneInfo redactText policyId cameraId before after instanceId eventId world action world' ∧
    MeetsExtent policyId instanceId eventId world action

/-! ## The invariant -/

/-- An alert of the policy for the event has the extent at its opening protected, and the event is within. -/
structure Sheltered (policyId cameraId : Uuid) (before after : Int) (instanceId eventId : String)
    (world : ProtectionWorld) : Prop where
  policy : ∀ policy ∈ world.db.alertPolicies, policy.id = policyId → Protecting policy before after
  references : ∀ alert ∈ world.db.alerts, ∃ event ∈ world.db.events, event.id = alert.eventId
  written : ∀ event, storedEvent instanceId eventId world.db = some event → ∀ alert ∈ world.db.alerts,
    alert.policyId = some policyId → alert.eventId = event.id →
    ProtectionWritten world.db alert.id cameraId (world.opened.1 - seconds before) (world.opened.2 + seconds after)
  within : ∀ event, storedEvent instanceId eventId world.db = some event → HasAlert policyId world.db event →
    world.opened.1 ≤ event.startedAt ∧ event.endedAt.getD event.startedAt ≤ world.opened.2

theorem Sheltered.elsewhere {world world' : ProtectionWorld}
    (sheltered : Sheltered policyId cameraId before after instanceId eventId world)
    (others : OtherWork policyId before after instanceId eventId world.db world'.db)
    (stays : world'.opened = world.opened) :
    Sheltered policyId cameraId before after instanceId eventId world' := by
  refine ⟨others.policy, others.references, fun event stored alert member isPolicy ofEvent => ?_,
    fun event stored hasAlert => ?_⟩
  · rw [others.event] at stored
    obtain ⟨old, oldMember, sameId, oldPolicy, oldEvent⟩ := others.alerts event stored alert member isPolicy ofEvent
    obtain ⟨protection, protectionMember, isReason, isWritten⟩ :=
      sheltered.written event stored old oldMember oldPolicy oldEvent
    rw [stays, ← sameId]
    exact ⟨protection, others.protections protection protectionMember ⟨old, oldMember, isReason⟩, isReason, isWritten⟩
  · rw [others.event] at stored
    obtain ⟨alert, member, isPolicy, ofEvent⟩ := hasAlert
    obtain ⟨old, oldMember, _, oldPolicy, oldEvent⟩ := others.alerts event stored alert member isPolicy ofEvent
    rw [stays]
    exact sheltered.within event stored ⟨old, oldMember, oldPolicy, oldEvent⟩

/-- What an update leaves of the catalog and makes of the event. -/
structure Updated (policyId cameraId : Uuid) (before after : Int) (instanceId eventId : String) (item : EventIngest)
    (db : Database) (event : Event) (db' : Database) : Prop where
  stored : storedEvent instanceId eventId db' = some event
  startedAt : event.startedAt = item.startedAt
  endedAt : event.endedAt = item.endedAt
  found : (∃ old, storedEvent instanceId eventId db = some old ∧ event.id = old.id) ∨
    storedEvent instanceId eventId db = none ∧ ∀ other ∈ db.events, other.id ≠ event.id
  policies : db'.alertPolicies = db.alertPolicies
  events : ∀ other ∈ db.events, ∃ other' ∈ db'.events, other'.id = other.id
  guarded : Guarded policyId cameraId before after db event db'

/-- An update meets the event under the id it is stored under, or under a new one. -/
theorem upsert_found {db upserted : Database} {item : EventIngest} {eventResult : EventUpsertResult}
    (isUpdate : IsUpdate instanceId eventId item)
    (isUpserted : upsertProviderEvent redactText uuid4 db item = .ok (upserted, eventResult)) :
    (∃ old, storedEvent instanceId eventId db = some old ∧ eventResult.event.id = old.id) ∨
      storedEvent instanceId eventId db = none ∧ ∀ other ∈ db.events, other.id ≠ eventResult.event.id := by
  obtain ⟨category, isOwn⟩ := isUpdate
  obtain ⟨own, _, isOwn', _, _, _, cases_⟩ := upsertProviderEvent_cases isUpserted
  cases isOwn.symm.trans isOwn'
  rcases cases_ with ⟨old, isOld, rfl, _⟩ | ⟨isNone, rfl, _⟩
  · exact .inl ⟨old, isOld, rfl⟩
  · exact .inr ⟨isNone, fun other member => Table.newKey_fresh db.events uuid4 member⟩

theorem upsert_keeps_ids {db upserted : Database} {item : EventIngest} {eventResult : EventUpsertResult}
    (isUpserted : upsertProviderEvent redactText uuid4 db item = .ok (upserted, eventResult)) {other : Event}
    (member : other ∈ db.events) : ∃ other' ∈ upserted.events, other'.id = other.id := by
  obtain ⟨own, texts_, _, _, _, _, cases_⟩ := upsertProviderEvent_cases isUpserted
  rcases cases_ with ⟨old, _, _, rfl⟩ | ⟨_, _, rfl⟩
  · refine ⟨_, mem_overwrite.mpr ⟨other, member, rfl⟩, ?_⟩
    split
    · rfl
    · rfl
  · exact ⟨other, mem_add.mpr (.inl member), rfl⟩

theorem updated_of_persist {db db' : Database} {item : EventIngest} {now : Int} {result : FrigateIngestResult}
    (isUpdate : IsUpdate instanceId eventId item) (onCamera : item.cameraId = some cameraId)
    (protecting : ∀ policy ∈ db.alertPolicies, policy.id = policyId → Protecting policy before after)
    (done : persist uuid4 zoneInfo redactText now db { item := some item } = .ok (db', result)) :
    ∃ event, Updated policyId cameraId before after instanceId eventId item db event db' := by
  obtain ⟨upserted, synced, eventResult, alertResult, isUpserted, isSynced, _, evaluated⟩ := persist_parts rfl done
  have upsertedOnly := upsertProviderEvent_frame isUpserted
  have syncedOnly := syncTrigger_frame isSynced
  have sameAlerts : synced.alerts = db.alerts := by rw [syncedOnly, upsertedOnly]
  have samePolicies : synced.alertPolicies = db.alertPolicies := by rw [syncedOnly, upsertedOnly]
  have sameProtections : synced.protections = db.protections := by rw [syncedOnly, upsertedOnly]
  have sameEvents : synced.events = upserted.events := by rw [syncedOnly]
  have guarded : Guarded policyId cameraId before after synced eventResult.event db' :=
    evaluateEvent_guarded (upsertProviderEvent_camera isUpserted onCamera) (samePolicies ▸ protecting) evaluated
  obtain ⟨alerts, deliveries, protections, last⟩ := evaluateEvent_frame evaluated
  have lastEvents : db'.events = upserted.events := by rw [show db' = _ from last]; exact sameEvents
  have lastPolicies : db'.alertPolicies = db.alertPolicies := by rw [show db' = _ from last]; exact samePolicies
  have found := upsert_found isUpdate isUpserted
  obtain ⟨category, isOwn⟩ := isUpdate
  obtain ⟨startedAt, endedAt, _⟩ := upsertProviderEvent_event isUpserted isOwn
  refine ⟨eventResult.event, ?_, startedAt, endedAt, found, lastPolicies, fun other member => ?_, ?_⟩
  · have stored := providerEvent_upsert isUpserted isOwn rfl
    rw [storedEvent, ← stored]
    simp only [providerEvent, lastEvents]
  · rw [lastEvents]
    exact upsert_keeps_ids isUpserted member
  · refine ⟨sameProtections ▸ guarded.protections, sameAlerts ▸ guarded.kept, fun alert member => ?_⟩
    rcases guarded.opened alert member with known | ⟨ofEvent, written⟩
    · exact .inl (sameAlerts ▸ known)
    · refine .inr ⟨ofEvent, fun isPolicy => ⟨?_, (written isPolicy).2⟩⟩
      rintro ⟨old, oldMember, isOld⟩
      exact (written isPolicy).1 ⟨old, sameAlerts ▸ oldMember, isOld⟩

/-- The event has an alert after the lookup of the update exactly when it had one. -/
theorem Updated.alarmed_iff {item : EventIngest} {db db' : Database} {event : Event}
    (updated : Updated policyId cameraId before after instanceId eventId item db event db')
    (references : ∀ alert ∈ db.alerts, ∃ event ∈ db.events, event.id = alert.eventId) :
    Alarmed policyId instanceId eventId db ↔ HasAlert policyId db event := by
  rcases updated.found with ⟨old, isOld, sameId⟩ | ⟨isNone, isNew⟩
  · constructor
    · rintro ⟨event', isStored, hasAlert⟩
      cases isOld.symm.trans isStored
      rw [HasAlert, sameId]
      exact hasAlert
    · rintro hasAlert
      rw [HasAlert, sameId] at hasAlert
      exact ⟨old, isOld, hasAlert⟩
  · constructor
    · rintro ⟨event', isStored, _⟩
      cases isNone.symm.trans isStored
    · rintro ⟨alert, member, _, ofEvent⟩
      obtain ⟨other, otherMember, sameId⟩ := references alert member
      exact absurd (sameId.trans ofEvent) (isNew other otherMember)

theorem Sheltered.update {world world' : ProtectionWorld} {item : EventIngest} {now : Int} {event : Event}
    (sheltered : Sheltered policyId cameraId before after instanceId eventId world)
    (updated : Updated policyId cameraId before after instanceId eventId item world.db event world'.db)
    (stays : Alarmed policyId instanceId eventId world.db → world'.opened = world.opened)
    (opens : ¬ Alarmed policyId instanceId eventId world.db → world'.opened = extent item)
    (meets : MeetsExtent policyId instanceId eventId world (.update item now)) :
    Sheltered policyId cameraId before after instanceId eventId world' := by
  have alarmed := updated.alarmed_iff sheltered.references
  refine ⟨updated.policies ▸ sheltered.policy, fun alert member => ?_, fun event' stored alert member isPolicy ofEvent => ?_,
    fun event' stored hasAlert => ?_⟩
  · rcases updated.guarded.opened alert member with known | ⟨ofEvent, _⟩
    · obtain ⟨other, otherMember, isEvent⟩ := sheltered.references alert known
      obtain ⟨other', inLast, sameId⟩ := updated.events other otherMember
      exact ⟨other', inLast, sameId.trans isEvent⟩
    · exact ⟨event, (Table.mem_of_first? updated.stored).1, ofEvent.symm⟩
  · obtain rfl : event = event' := Option.some.inj (updated.stored.symm.trans stored)
    rcases updated.guarded.opened alert member with known | ⟨_, opened⟩
    · obtain ⟨old, isOld, hasAlert⟩ := alarmed.mpr ⟨alert, known, isPolicy, ofEvent⟩
      have sameId : event.id = old.id := by
        rcases updated.found with ⟨old', isOld', sameId⟩ | ⟨isNone, _⟩
        · rw [sameId, Option.some.inj (isOld'.symm.trans isOld)]
        · cases isNone.symm.trans isOld
      obtain ⟨protection, protectionMember, isWritten⟩ :=
        sheltered.written old isOld alert known isPolicy (ofEvent.trans sameId)
      rw [stays ⟨old, isOld, hasAlert⟩]
      exact ⟨protection, updated.guarded.protections protection protectionMember, isWritten⟩
    · obtain ⟨noneBefore, written⟩ := opened isPolicy
      rw [opens (alarmed.not.mpr noneBefore), extent, ← updated.startedAt, ← updated.endedAt]
      exact written
  · obtain rfl : event = event' := Option.some.inj (updated.stored.symm.trans stored)
    rw [updated.startedAt, updated.endedAt]
    by_cases isAlarmed : Alarmed policyId instanceId eventId world.db
    · rw [stays isAlarmed]
      exact meets isAlarmed
    · rw [opens isAlarmed]
      exact ⟨le_refl _, le_refl _⟩

theorem Sheltered.step {world world' : ProtectionWorld} {action : ProtectionAction}
    (sheltered : Sheltered policyId cameraId before after instanceId eventId world)
    (step : SteadyStep uuid4 zoneInfo redactText policyId cameraId before after instanceId eventId world action world') :
    Sheltered policyId cameraId before after instanceId eventId world' := by
  obtain ⟨step, meets⟩ := step
  cases step with
  | update isUpdate onCamera done stays opens =>
    obtain ⟨event, updated⟩ := updated_of_persist isUpdate onCamera sheltered.policy done
    exact sheltered.update updated stays opens meets
  | elsewhere others stays => exact sheltered.elsewhere others stays

/-! ## Every run of updates -/

/-- The protections written for the alert cover the range on the camera. -/
def Covered (db : Database) (alertId cameraId : Uuid) (first last : Int) : Prop :=
  ∀ instant, first ≤ instant → instant < last → ∃ protection ∈ db.protections,
    protection.reason = alertReason alertId ∧ protection.cameraId = cameraId ∧
      protection.startedAt ≤ instant ∧ instant < protection.endedAt

/-- When the event has ended, the protections of an alert of the policy for it cover the whole event. -/
def CoversEvent (policyId cameraId : Uuid) (before after : Int) (instanceId eventId : String) (db : Database) : Prop :=
  ∀ event ended, storedEvent instanceId eventId db = some event → event.endedAt = some ended →
    ∀ alert ∈ db.alerts, alert.policyId = some policyId → alert.eventId = event.id →
    Covered db alert.id cameraId (event.startedAt - seconds before) (ended + seconds after)

theorem Sheltered.covers {world : ProtectionWorld}
    (sheltered : Sheltered policyId cameraId before after instanceId eventId world) :
    CoversEvent policyId cameraId before after instanceId eventId world.db := by
  intro event ended stored isEnded alert member isPolicy ofEvent instant later earlier
  obtain ⟨protection, protectionMember, isReason, isCamera, starts, ends_⟩ :=
    sheltered.written event stored alert member isPolicy ofEvent
  obtain ⟨startsWithin, endsWithin⟩ := sheltered.within event stored ⟨alert, member, isPolicy, ofEvent⟩
  rw [isEnded, Option.getD_some] at endsWithin
  exact ⟨protection, protectionMember, isReason, isCamera, by omega, by omega⟩

/-- The protection of an alert covers the whole event, when no update takes the event beyond what was
    known of it at the opening of the alert. -/
theorem alert_protection_covers {world world' : ProtectionWorld} {actions : List ProtectionAction}
    (protecting : ∀ policy ∈ world.db.alertPolicies, policy.id = policyId → Protecting policy before after)
    (references : ∀ alert ∈ world.db.alerts, ∃ event ∈ world.db.events, event.id = alert.eventId)
    (fresh : ¬ Alarmed policyId instanceId eventId world.db)
    (run : Run (SteadyStep uuid4 zoneInfo redactText policyId cameraId before after instanceId eventId)
      world actions world') :
    CoversEvent policyId cameraId before after instanceId eventId world'.db := by
  have start : Sheltered policyId cameraId before after instanceId eventId world :=
    ⟨protecting, references,
      fun event stored alert member isPolicy ofEvent => absurd ⟨event, stored, alert, member, isPolicy, ofEvent⟩ fresh,
      fun event stored hasAlert => absurd ⟨event, stored, hasAlert⟩ fresh⟩
  exact (run.invariant (fun _ _ _ sheltered step => sheltered.step step) start).covers

/-! ## An alert that opens with its event -/

theorem exists_opened (policyId : Uuid) (instanceId eventId : String) (world : ProtectionWorld) (item : EventIngest) :
    ∃ opened, (Alarmed policyId instanceId eventId world.db → opened = world.opened) ∧
      (¬ Alarmed policyId instanceId eventId world.db → opened = extent item) := by
  by_cases alarmed : Alarmed policyId instanceId eventId world.db
  · exact ⟨world.opened, fun _ => rfl, fun fresh => absurd alarmed fresh⟩
  · exact ⟨extent item, fun isAlarmed => absurd isAlarmed alarmed, fun _ => rfl⟩

theorem protectionRun_feed {world : ProtectionWorld} {final : Database} {items : List EventIngest}
    (areUpdates : ∀ item ∈ items, IsUpdate instanceId eventId item ∧ item.cameraId = some cameraId)
    (fed : feed uuid4 zoneInfo redactText world.db items = .ok final) :
    ∃ actions world', world'.db = final ∧
      Run (ProtectionStep uuid4 zoneInfo redactText policyId cameraId before after instanceId eventId)
        world actions world' := by
  induction items generalizing world with
  | nil =>
    cases fed
    exact ⟨[], world, rfl, .done _⟩
  | cons item items ih =>
    rw [feed, List.foldlM_cons, bind_eq_ok] at fed
    obtain ⟨middle, first, rest⟩ := fed
    obtain ⟨⟨_, result⟩, done, rfl⟩ := map_eq_ok.mp first
    obtain ⟨opened, stays, opens⟩ := exists_opened policyId instanceId eventId world item
    obtain ⟨isUpdate, onCamera⟩ := areUpdates item List.mem_cons_self
    obtain ⟨actions, world', isFinal, run⟩ := @ih { db := _, opened }
      (fun item member => areUpdates item (List.mem_cons_of_mem _ member)) rest
    exact ⟨_, world', isFinal, .next (.update isUpdate onCamera done stays opens) run⟩

/-- One camera, and a policy that protects 5 s before and 20 s after its events. -/
def guardedCamera : Database := { oneCamera with
  alertPolicies := ⟨[{ id := 8, actionJson := [("protect_recording", .bool true), ("protect_before_seconds", .int 5),
    ("protect_after_seconds", .int 20)] }], List.nodup_singleton _⟩ }

theorem guardedCamera_protecting : ∀ policy ∈ guardedCamera.alertPolicies, policy.id = 8 → Protecting policy 5 20 := by
  intro policy member _
  rw [List.mem_singleton.mp member]
  exact ⟨rfl, rfl, rfl⟩

/-- The event has an alert of the policy, has ended at the given instant and is protected up to another one. -/
def protectedUntil (ended until_ : Int) (db : Database) : Bool :=
  (storedEvent "frigate1" "e1" db).any fun event =>
    event.startedAt = 10000000 ∧ event.endedAt = some ended ∧
      (db.alerts.rows.any fun alert => alert.policyId = some 8 ∧ alert.eventId = event.id) ∧
      db.protections.rows.all fun protection => protection.endedAt ≤ until_

theorem open_alert_underprotects : ∃ actions world',
    Run (ProtectionStep .counting RecordingPolicyService.utcOnly id 8 1 5 20 "frigate1" "e1")
      { db := guardedCamera, opened := (0, 0) } actions world' ∧
      ¬ CoversEvent 8 1 5 20 "frigate1" "e1" world'.db := by
  have known : (protectedUntil 200000000 30000000 <$> feed .counting RecordingPolicyService.utcOnly id guardedCamera
      [report none, report (some 200000000)]) = .ok true := by decide
  obtain ⟨final, fed, isProtected⟩ := map_eq_ok.mp known
  have areUpdates : ∀ item ∈ [report none, report (some 200000000)],
      IsUpdate "frigate1" "e1" item ∧ item.cameraId = some 1 := by
    have onCamera (endedAt : Option Int) : (report endedAt).cameraId = some 1 := rfl
    simp [report_isUpdate, onCamera]
  obtain ⟨actions, world', isFinal, run⟩ := @protectionRun_feed _ _ _ _ _ 8 1 5 20
    { db := guardedCamera, opened := (0, 0) } _ _ areUpdates fed
  refine ⟨actions, world', run, fun covers => ?_⟩
  rw [isFinal] at covers
  obtain ⟨event, stored, facts⟩ := (Option.any_eq_true _ _).mp isProtected
  rw [decide_eq_true_eq] at facts
  obtain ⟨started, ended, alerted, short⟩ := facts
  obtain ⟨alert, member, isAlert⟩ := List.any_eq_true.mp alerted
  obtain ⟨isPolicy, ofEvent⟩ := of_decide_eq_true isAlert
  obtain ⟨protection, protectionMember, _, _, _, later⟩ := covers event 200000000 stored ended alert member isPolicy
    ofEvent 100000000 (by rw [started]; decide) (by decide)
  have isShort := of_decide_eq_true (List.all_eq_true.mp short protection protectionMember)
  omega

/-- The alert of an event that is reported when it has ended. -/
theorem alert_protection_covers_ended : ∃ world' : ProtectionWorld, protectedUntil 20000000 40000000 world'.db ∧
    CoversEvent 8 1 5 20 "frigate1" "e1" world'.db := by
  have known : (protectedUntil 20000000 40000000 <$> feed .counting RecordingPolicyService.utcOnly id guardedCamera
      [report (some 20000000)]) = .ok true := by decide
  obtain ⟨final, fed, isProtected⟩ := map_eq_ok.mp known
  rw [feed, List.foldlM_cons, bind_eq_ok] at fed
  obtain ⟨middle, first, same⟩ := fed
  obtain ⟨⟨_, result⟩, done, rfl⟩ := map_eq_ok.mp first
  cases same
  have fresh : ¬ Alarmed 8 "frigate1" "e1" guardedCamera := by
    rintro ⟨event, stored, _⟩
    cases stored
  have step : SteadyStep .counting RecordingPolicyService.utcOnly id 8 1 5 20 "frigate1" "e1"
      { db := guardedCamera, opened := (0, 0) } (.update (report (some 20000000)) 0)
      { db := _, opened := extent (report (some 20000000)) } :=
    ⟨.update (report_isUpdate _) rfl done (fun alarmed => absurd alarmed fresh) (fun _ => rfl),
      fun alarmed => absurd alarmed fresh⟩
  exact ⟨_, isProtected, alert_protection_covers guardedCamera_protecting (fun alert member => by cases member) fresh
    (.next step (.done _))⟩

end ZeroNvr.FrigateEventIngestService
