import ZeroNvr.Events.Onvif
import ZeroNvr.Storage.Retention
import ZeroNvr.Verified.FrigateOrder

/-! # Triggers of ended events

An ingest changes one event and hands it to the recording triggers.  The trigger
of an ended event is closed, as long as the camera's policy records events
whenever an ingest finds the trigger of an ended event still open.
-/

namespace ZeroNvr.RecordingTriggerService

open Lib EventService

variable {uuid4 : Supply Uuid} {redactText : String → String} {frigate : String} {db db' : Database}

/-! ## Events and their triggers -/

def Closed (trigger : RecordingTrigger) : Prop := trigger.plannedEndAt.isSome ∧ trigger.state = .completed

/-- Two events that a provider knows under one id. -/
structure SameIdentity (event other : Event) : Prop where
  source : event.source = other.source
  sourceInstanceId : event.sourceInstanceId = other.sourceInstanceId
  sourceEventId : event.sourceEventId = other.sourceEventId

/-- The trigger stored under the identity of the event. -/
def TriggerOf (event : Event) (trigger : RecordingTrigger) : Prop :=
  trigger.source = event.source ∧ ∃ sourceInstanceId sourceEventId,
    event.sourceInstanceId = some sourceInstanceId ∧ event.sourceEventId = some sourceEventId ∧
      trigger.sourceEventId = some (providerIdentity sourceInstanceId sourceEventId)

/-- The instances under which the two providers report. -/
def isInstance (frigate : String) (source sourceInstanceId : String) : Prop :=
  (source = "frigate" ∧ sourceInstanceId = frigate) ∨
    (source = OnvifEventIngestService.source ∧
      ∃ deviceId, sourceInstanceId = OnvifEventIngestService.sourceInstanceId deviceId)

/-- The event has a provider identity. -/
def IsIdentified (frigate : String) (event : Event) : Prop :=
  ∃ sourceInstanceId sourceEventId, event.sourceInstanceId = some sourceInstanceId ∧
    event.sourceEventId = some sourceEventId ∧ strip sourceEventId = sourceEventId ∧ sourceEventId ≠ "" ∧
    isInstance frigate event.source sourceInstanceId

def isProvider (source : String) : Prop := source = "frigate" ∨ source = OnvifEventIngestService.source

theorem sameIdentity_triggerOf {event other : Event} {trigger : RecordingTrigger} (same : SameIdentity event other)
    (isTrigger : TriggerOf event trigger) : TriggerOf other trigger := by
  obtain ⟨source, sourceInstanceId, sourceEventId, isInstance, isEvent, key⟩ := isTrigger
  exact ⟨source.trans same.source, sourceInstanceId, sourceEventId, same.sourceInstanceId.symm.trans isInstance,
    same.sourceEventId.symm.trans isEvent, key⟩

/-- A decimal number has no colon. -/
theorem colon_notMem_toString (n : Nat) : ':' ∉ (toString n).toList := by
  intro member
  have isDigit := isDigit_of_mem_toString member
  revert isDigit
  decide

/-- A list is determined by its part before the first separator and the rest. -/
theorem separated_injective {left right leftRest rightRest : List Char} {separator : Char}
    (notLeft : separator ∉ left) (notRight : separator ∉ right)
    (same : left ++ separator :: leftRest = right ++ separator :: rightRest) :
    left = right ∧ leftRest = rightRest := by
  induction left generalizing right with
  | nil =>
    cases right with
    | nil => exact ⟨rfl, (List.cons.inj same).2⟩
    | cons head right => exact absurd (List.cons.inj same).1 fun isHead => notRight (isHead ▸ List.mem_cons_self)
  | cons head left ih =>
    cases right with
    | nil => exact absurd (List.cons.inj same).1.symm fun isHead => notLeft (isHead ▸ List.mem_cons_self)
    | cons head' right =>
      obtain ⟨sameHead, sameRest⟩ := List.cons.inj same
      obtain ⟨sameLeft, sameTail⟩ := ih (fun member => notLeft (List.mem_cons_of_mem _ member))
        (fun member => notRight (List.mem_cons_of_mem _ member)) sameRest
      exact ⟨by rw [sameHead, sameLeft], sameTail⟩

/-- Within one source, the key of a trigger determines the instance and the provider's id. -/
theorem providerIdentity_injective {source left right leftId rightId : String}
    (isLeft : isInstance frigate source left) (isRight : isInstance frigate source right)
    (same : providerIdentity left leftId = providerIdentity right rightId) : left = right ∧ leftId = rightId := by
  rcases isLeft with ⟨rfl, rfl⟩ | ⟨rfl, leftDevice, rfl⟩
  · rcases isRight with ⟨_, rfl⟩ | ⟨absurd_, _⟩
    · refine ⟨rfl, ?_⟩
      have lists := congrArg String.toList same
      simp only [providerIdentity, String.toList_append, List.append_cancel_left_eq] at lists
      exact String.toList_injective lists
    · exact absurd absurd_ (by decide)
  · rcases isRight with ⟨absurd_, _⟩ | ⟨_, rightDevice, rfl⟩
    · exact absurd absurd_ (by decide)
    · have lists := congrArg String.toList same
      simp only [providerIdentity, OnvifEventIngestService.sourceInstanceId, String.toList_append,
        List.append_assoc, List.append_cancel_left_eq] at lists
      obtain ⟨digits, rest⟩ := separated_injective (colon_notMem_toString leftDevice)
        (colon_notMem_toString rightDevice) lists
      exact ⟨congrArg ("device:" ++ ·) (String.toList_injective digits), String.toList_injective rest⟩

theorem triggerOf_sameIdentity {event other : Event} {trigger : RecordingTrigger}
    (isEvent : IsIdentified frigate event) (isOther : IsIdentified frigate other)
    (ofEvent : TriggerOf event trigger) (ofOther : TriggerOf other trigger) : SameIdentity event other := by
  obtain ⟨source, left, leftId, isLeft, isLeftId, key⟩ := ofEvent
  obtain ⟨source', right, rightId, isRight, isRightId, key'⟩ := ofOther
  obtain ⟨_, _, known, _, _, _, leftInstance⟩ := isEvent
  obtain rfl := Option.some.inj (isLeft.symm.trans known)
  obtain ⟨_, _, known', _, _, _, rightInstance⟩ := isOther
  obtain rfl := Option.some.inj (isRight.symm.trans known')
  have sameSource : event.source = other.source := source.symm.trans source'
  rw [← sameSource] at rightInstance
  obtain ⟨rfl, rfl⟩ := providerIdentity_injective leftInstance rightInstance (Option.some.inj (key.symm.trans key'))
  exact ⟨sameSource, isLeft.trans isRight.symm, isLeftId.trans isRightId.symm⟩

/-! ## The invariant -/

/-- Events and triggers of the two providers belong together, and the trigger of an ended event is
    closed. -/
structure TriggersClosed (frigate : String) (db : Database) : Prop where
  identified : ∀ event ∈ db.events, isProvider event.source → IsIdentified frigate event
  unique : ∀ event ∈ db.events, ∀ other ∈ db.events, isProvider event.source → SameIdentity event other → event = other
  uniqueTrigger : ∀ trigger ∈ db.triggers, ∀ other ∈ db.triggers, isProvider trigger.source →
    trigger.source = other.source → trigger.sourceEventId = other.sourceEventId → trigger = other
  backed : ∀ trigger ∈ db.triggers, isProvider trigger.source →
    ∃ event ∈ db.events, TriggerOf event trigger ∧ event.cameraId = some trigger.cameraId
  closed : ∀ event ∈ db.events, isProvider event.source → event.endedAt.isSome →
    ∀ trigger ∈ db.triggers, TriggerOf event trigger → Closed trigger

/-- What an ingest does to the events: one event is new or changed, and a changed one keeps its identity
    and a camera it has. -/
structure Touches (frigate : String) (db db' : Database) (event : Event) : Prop where
  member : event ∈ db'.events
  identified : IsIdentified frigate event
  others : ∀ other ∈ db'.events, other ≠ event → other ∈ db.events ∧ ¬ SameIdentity other event
  kept : ∀ old ∈ db.events, old ∈ db'.events ∨
    SameIdentity old event ∧ (old.cameraId.isSome → event.cameraId = old.cameraId)
  rest : db' = { db with events := db'.events }

/-- If the event has ended and its trigger is still open, the camera's policy records events. -/
def Covered (db : Database) (event : Event) : Prop :=
  event.endedAt.isSome → ∀ trigger ∈ db.triggers, TriggerOf event trigger → ¬ Closed trigger →
    (eventPolicy db trigger.cameraId).isSome

theorem isProvider_of_identified {event : Event} (identified : IsIdentified frigate event) : isProvider event.source := by
  obtain ⟨_, _, _, _, _, _, ⟨isFrigate, _⟩ | ⟨isOnvif, _⟩⟩ := identified
  · exact .inl isFrigate
  · exact .inr isOnvif

/-- The trigger of a touched event belongs to a camera the event has. -/
theorem Touches.camera {event : Event} (touches : Touches frigate db db' event) (before : TriggersClosed frigate db)
    {trigger : RecordingTrigger} (member : trigger ∈ db.triggers) (ofEvent : TriggerOf event trigger) :
    event.cameraId = some trigger.cameraId := by
  have provider : isProvider trigger.source := by
    rw [ofEvent.1]
    exact isProvider_of_identified touches.identified
  obtain ⟨old, oldMember, ofOld, camera⟩ := before.backed trigger member provider
  have oldIdentified := before.identified old oldMember (ofOld.1 ▸ provider)
  have same := triggerOf_sameIdentity oldIdentified touches.identified ofOld ofEvent
  rcases touches.kept old oldMember with still | ⟨_, keepsCamera⟩
  · by_cases isEvent : old = event
    · rw [← isEvent, camera]
    · exact absurd same (touches.others old still isEvent).2
  · rw [keepsCamera (by rw [camera]; rfl), camera]

/-! ## The synchronisation of the trigger -/

/-- What synchronising an event does to the triggers.  Only a trigger of the event changes; it is left
    alone when the camera's policy does not record events. -/
structure Syncs (db db' : Database) (event : Event) : Prop where
  rest : db' = { db with triggers := db'.triggers }
  others : ∀ trigger ∈ db'.triggers, ¬ TriggerOf event trigger → trigger ∈ db.triggers
  own : ∀ trigger ∈ db'.triggers, TriggerOf event trigger →
    (trigger ∈ db.triggers ∧ ∀ cameraId ∈ event.cameraId, eventPolicy db cameraId = none) ∨
    (event.cameraId = some trigger.cameraId ∧ (event.endedAt.isSome → Closed trigger))
  unique : ∀ trigger ∈ db'.triggers, ∀ other ∈ db'.triggers, TriggerOf event trigger → TriggerOf event other →
    trigger = other

/-- The report carries what the event says. -/
structure Reports (event : Event) (report : ProviderReport) : Prop where
  source : report.source = event.source
  cameraId : event.cameraId = some report.cameraId
  sourceInstanceId : event.sourceInstanceId = some report.sourceInstanceId
  sourceEventId : event.sourceEventId = some report.sourceEventId
  endedAt : report.eventEndedAt = event.endedAt

theorem Reports.triggerOf_iff {event : Event} {report : ProviderReport} (reports : Reports event report)
    (trigger : RecordingTrigger) :
    TriggerOf event trigger ↔ isProviderTrigger report.source (reportIdentity report) trigger = true := by
  simp only [isProviderTrigger, decide_eq_true_eq, TriggerOf, reports.source, reports.sourceInstanceId,
    reports.sourceEventId, Option.some.injEq, reportIdentity]
  constructor
  · rintro ⟨source, _, _, rfl, rfl, key⟩
    exact ⟨source, key⟩
  · rintro ⟨source, key⟩
    exact ⟨source, _, _, rfl, rfl, key⟩

theorem closed_newTrigger {policy : RecordingPolicy} {report : ProviderReport} {id : Uuid}
    (ended : report.eventEndedAt.isSome) : Closed (newTrigger policy report id) := by
  simp [Closed, newTrigger, ended]

theorem closed_refresh {report : ProviderReport} {trigger : RecordingTrigger} (ended : report.eventEndedAt.isSome) :
    Closed (refresh report trigger) := by
  obtain ⟨endedAt, isEnded⟩ := Option.isSome_iff_exists.mp ended
  simp [Closed, refresh, isEnded]

theorem syncs_upsertProvider {event : Event} {report : ProviderReport} {trigger : Option RecordingTrigger}
    {changed : Bool} (reports : Reports event report)
    (unique : ∀ trigger ∈ db.triggers, ∀ other ∈ db.triggers, TriggerOf event trigger → TriggerOf event other →
      trigger = other)
    (upserted : upsertProvider uuid4 db report = .ok (db', trigger, changed)) : Syncs db db' event := by
  have rest := upsertProvider_frame upserted
  rcases upsertProvider_cases upserted with ⟨rfl, _, policyNone | absent⟩ | ⟨policy, _, absent, _, rfl⟩ |
    ⟨existing, _, found, camera, outcome⟩
  · refine ⟨rest, fun _ member _ => member, fun own member _ => .inl ⟨member, fun cameraId isCamera => ?_⟩, unique⟩
    obtain rfl := Option.some.inj (reports.cameraId.symm.trans isCamera)
    exact policyNone
  · refine ⟨rest, fun _ member _ => member, fun own member ofEvent => ?_, unique⟩
    have isOwn := (reports.triggerOf_iff own).mp ofEvent
    rw [Table.first?_eq_none_iff.mp absent own member] at isOwn
    cases isOwn
  · have noOld (old : RecordingTrigger) (member : old ∈ db.triggers) : ¬ TriggerOf event old := by
      intro ofEvent
      have isOwn := (reports.triggerOf_iff old).mp ofEvent
      rw [Table.first?_eq_none_iff.mp absent old member] at isOwn
      cases isOwn
    refine ⟨rest, fun own member notOwn => ?_, fun own member ofEvent => .inr ?_, fun own member other member' ofOwn
      ofOther => ?_⟩
    · refine (mem_addTrigger.mp member).resolve_right ?_
      rintro rfl
      exact notOwn ((reports.triggerOf_iff _).mpr (isProviderTrigger_newTrigger policy report _))
    · obtain rfl := (mem_addTrigger.mp member).resolve_left fun old => noOld own old ofEvent
      exact ⟨reports.cameraId, fun ended => closed_newTrigger (by rw [reports.endedAt]; exact ended)⟩
    · rw [(mem_addTrigger.mp member).resolve_left fun old => noOld own old ofOwn,
        (mem_addTrigger.mp member').resolve_left fun old => noOld other old ofOther]
  · obtain ⟨existingMember, isExisting⟩ := Table.mem_of_first? found
    have existingOwn : TriggerOf event existing := (reports.triggerOf_iff existing).mpr isExisting
    have endedClosed : event.endedAt.isSome → Closed (refresh report existing) :=
      fun ended => closed_refresh (by rw [reports.endedAt]; exact ended)
    rcases outcome with ⟨unchanged, rfl, _⟩ | ⟨rfl, _⟩
    · refine ⟨rest, fun _ member _ => member, fun own member ofEvent => .inr ?_, unique⟩
      obtain rfl := unique own member existing existingMember ofEvent existingOwn
      refine ⟨by rw [camera]; exact reports.cameraId, fun ended => ?_⟩
      have isClosed := endedClosed ended
      rwa [Closed, (refresh_unchanged unchanged).1, (refresh_unchanged unchanged).2] at isClosed
    · -- The only row under the key of the report is the refreshed one.
      have isRefreshed (own : RecordingTrigger) (member : own ∈ (refreshTrigger db report existing).triggers)
          (ofEvent : TriggerOf event own) : own = refresh report existing := by
        obtain ⟨old, oldMember, rfl⟩ := mem_refreshTrigger.mp member
        have ofOld : TriggerOf event old := by
          split at ofEvent
          · exact ofEvent
          · exact ofEvent
        obtain rfl := unique old oldMember existing existingMember ofOld existingOwn
        exact if_pos rfl
      refine ⟨rest, fun own member notOwn => ?_, fun own member ofEvent => .inr ?_, fun own member other member'
        ofOwn ofOther => (isRefreshed own member ofOwn).trans (isRefreshed other member' ofOther).symm⟩
      · obtain ⟨old, oldMember, rfl⟩ := mem_refreshTrigger.mp member
        split at notOwn
        next isExistingRow =>
          exact absurd ((Table.eq_of_key_eq oldMember existingMember isExistingRow) ▸ existingOwn) notOwn
        next notExisting => rwa [if_neg notExisting]
      · rw [isRefreshed own member ofEvent]
        exact ⟨by rw [reports.cameraId, ← camera]; rfl, endedClosed⟩

/-- Changing an event and synchronising its trigger keeps the invariant. -/
theorem TriggersClosed.synced {middle : Database} {event : Event} (before : TriggersClosed frigate db)
    (touches : Touches frigate db middle event) (covered : Covered db event) (syncs : Syncs middle db' event) :
    TriggersClosed frigate db' := by
  have sameEvents : db'.events = middle.events := by rw [syncs.rest]
  have sameTriggers : middle.triggers = db.triggers := by rw [touches.rest]
  have samePolicies (cameraId : Uuid) : eventPolicy middle cameraId = eventPolicy db cameraId := by rw [touches.rest]; rfl
  have provider := isProvider_of_identified touches.identified
  have oldTrigger (trigger : RecordingTrigger) (member : trigger ∈ db'.triggers) (notOwn : ¬ TriggerOf event trigger) :
      trigger ∈ db.triggers := sameTriggers ▸ syncs.others trigger member notOwn
  have camera (trigger : RecordingTrigger) (member : trigger ∈ db'.triggers) (ofEvent : TriggerOf event trigger) :
      event.cameraId = some trigger.cameraId := by
    rcases syncs.own trigger member ofEvent with ⟨old, _⟩ | ⟨isCamera, _⟩
    · exact touches.camera before (sameTriggers ▸ old) ofEvent
    · exact isCamera
  refine ⟨fun other member isProvider_ => ?_, fun left leftMember right rightMember isProvider_ same => ?_,
    fun left leftMember right rightMember isProvider_ source key => ?_, fun trigger member isProvider_ => ?_,
    fun other member isProvider_ ended trigger triggerMember ofOther => ?_⟩
  · rw [sameEvents] at member
    by_cases isEvent : other = event
    · rw [isEvent]
      exact touches.identified
    · exact before.identified other (touches.others other member isEvent).1 isProvider_
  · rw [sameEvents] at leftMember rightMember
    by_cases leftEvent : left = event
    · by_contra differs
      refine (touches.others right rightMember fun isEvent => differs (leftEvent.trans isEvent.symm)).2 ?_
      rw [← leftEvent]
      exact ⟨same.source.symm, same.sourceInstanceId.symm, same.sourceEventId.symm⟩
    · by_cases rightEvent : right = event
      · exact absurd (rightEvent ▸ same) (touches.others left leftMember leftEvent).2
      · exact before.unique left (touches.others left leftMember leftEvent).1 right
          (touches.others right rightMember rightEvent).1 isProvider_ same
  · by_cases leftOwn : TriggerOf event left
    · obtain ⟨isSource, instance_, eventId, isInstance_, isEventId, isKey⟩ := leftOwn
      have rightOwn : TriggerOf event right :=
        ⟨source.symm.trans isSource, instance_, eventId, isInstance_, isEventId, key.symm.trans isKey⟩
      exact syncs.unique left leftMember right rightMember
        ⟨isSource, instance_, eventId, isInstance_, isEventId, isKey⟩ rightOwn
    · have notRight : ¬ TriggerOf event right := fun ⟨isSource, instance_, eventId, isInstance_, isEventId, isKey⟩ =>
        leftOwn ⟨source.trans isSource, instance_, eventId, isInstance_, isEventId, key.trans isKey⟩
      exact before.uniqueTrigger left (oldTrigger left leftMember leftOwn) right
        (oldTrigger right rightMember notRight) isProvider_ source key
  · by_cases ofEvent : TriggerOf event trigger
    · exact ⟨event, sameEvents ▸ touches.member, ofEvent, camera trigger member ofEvent⟩
    · obtain ⟨old, oldMember, ofOld, isCamera⟩ := before.backed trigger (oldTrigger trigger member ofEvent) isProvider_
      rcases touches.kept old oldMember with still | ⟨same, _⟩
      · exact ⟨old, sameEvents ▸ still, ofOld, isCamera⟩
      · exact absurd (sameIdentity_triggerOf same ofOld) ofEvent
  · rw [sameEvents] at member
    by_cases isEvent : other = event
    · subst isEvent
      rcases syncs.own trigger triggerMember ofOther with ⟨old, unrecorded⟩ | ⟨_, closes⟩
      · rw [sameTriggers] at old
        by_contra notClosed
        have recorded := covered ended trigger old ofOther notClosed
        rw [← samePolicies, unrecorded _ (camera trigger triggerMember ofOther)] at recorded
        cases recorded
      · exact closes ended
    · obtain ⟨oldMember, differs⟩ := touches.others other member isEvent
      have notOwn : ¬ TriggerOf event trigger := fun ofEvent => differs
        (triggerOf_sameIdentity (before.identified other oldMember isProvider_) touches.identified ofOther ofEvent)
      exact before.closed other oldMember isProvider_ ended trigger (oldTrigger trigger triggerMember notOwn) ofOther

/-! ## The changes of the events -/

/-- A change of one event that keeps its identity. -/
theorem touches_modify {existing : Event} (before : TriggersClosed frigate db) (member : existing ∈ db.events)
    (provider : isProvider existing.source) {change : Event → Event}
    {keeps : ∀ row, Keyed.key (change row) = Keyed.key row} {after : Database}
    (same : SameIdentity (change existing) existing)
    (camera : existing.cameraId.isSome → (change existing).cameraId = existing.cameraId)
    (modified : after = { db with events := db.events.modify existing.id change keeps }) :
    Touches frigate db after (change existing) := by
  have inAfter (row : Event) : row ∈ after.events ↔
      ∃ old ∈ db.events, (if Keyed.key old = existing.id then change old else old) = row := by
    rw [modified]
    have inModified : row ∈ db.events.modify existing.id change keeps ↔ _ := Table.mem_modify
    exact inModified
  have isExisting {row : Event} (rowMember : row ∈ db.events) (sameKey : Keyed.key row = existing.id) : row = existing :=
    Table.eq_of_key_eq rowMember member sameKey
  refine ⟨(inAfter _).mpr ⟨existing, member, if_pos rfl⟩, ?_, fun other otherMember differs => ?_,
    fun old oldMember => ?_, by rw [modified]⟩
  · obtain ⟨instance_, eventId, isInstance_, isEventId, stripped, nonempty, known⟩ :=
      before.identified existing member provider
    exact ⟨instance_, eventId, same.sourceInstanceId.trans isInstance_, same.sourceEventId.trans isEventId, stripped,
      nonempty, same.source ▸ known⟩
  · obtain ⟨old, oldMember, rfl⟩ := (inAfter other).mp otherMember
    by_cases sameKey : Keyed.key old = existing.id
    · rw [if_pos sameKey, isExisting oldMember sameKey] at differs
      exact absurd rfl differs
    · rw [if_neg sameKey]
      refine ⟨oldMember, fun sameOld => sameKey ?_⟩
      have sameExisting : SameIdentity existing old :=
        ⟨(sameOld.source.trans same.source).symm, (sameOld.sourceInstanceId.trans same.sourceInstanceId).symm,
          (sameOld.sourceEventId.trans same.sourceEventId).symm⟩
      exact congrArg Event.id (before.unique existing member old oldMember provider sameExisting).symm
  · by_cases sameKey : Keyed.key old = existing.id
    · rw [isExisting oldMember sameKey]
      exact .inr ⟨⟨same.source.symm, same.sourceInstanceId.symm, same.sourceEventId.symm⟩, camera⟩
    · exact .inl ((inAfter old).mpr ⟨old, oldMember, if_neg sameKey⟩)

/-- An ingest of an identity of a provider. -/
theorem touches_upsert {item : EventIngest} {result : EventUpsertResult} {own : EventIdentity}
    {sourceInstanceId sourceEventId : String} (before : TriggersClosed frigate db) (isOwn : identity item = .ok own)
    (hasInstance : own.sourceInstanceId = some sourceInstanceId) (hasId : own.sourceEventId = some sourceEventId)
    (known : isInstance frigate own.source sourceInstanceId)
    (upserted : upsertProviderEvent redactText uuid4 db item = .ok (db', result)) :
    Touches frigate db db' result.event := by
  obtain ⟨_, _, _, isEventId, _⟩ := identity_ok isOwn
  rw [hasId] at isEventId
  obtain ⟨stripped, nonempty⟩ := text_some isEventId
  have rest := upsertProviderEvent_frame upserted
  obtain ⟨own', texts_, isOwn', _, _, noConflict, outcome⟩ := upsertProviderEvent_cases upserted
  obtain rfl : own = own' := Except.ok.inj (isOwn.symm.trans isOwn')
  rcases outcome with ⟨event, existing, rfl, rfl⟩ | ⟨absent, rfl, rfl⟩
  · have isNamed := existing
    rw [existingEvent, hasId, Option.bind_some] at isNamed
    obtain ⟨member, isEvent⟩ := Table.mem_of_first? isNamed
    simp only [isProviderEvent, decide_eq_true_eq] at isEvent
    have provider : isProvider event.source := by
      rw [isEvent.1]
      rcases known with ⟨isFrigate, _⟩ | ⟨isOnvif, _⟩
      · exact .inl isFrigate
      · exact .inr isOnvif
    refine touches_modify before member provider ⟨rfl, rfl, rfl⟩ (fun hasCamera => ?_) rfl
    rw [existing] at noConflict
    cases camera : item.cameraId with
    | none => simp [assign, flushed, camera]
    | some cameraId =>
      obtain ⟨eventCamera, isCamera⟩ := Option.isSome_iff_exists.mp hasCamera
      have agree : event.cameraId = item.cameraId := by
        simpa [cameraConflict, isCamera, camera] using noConflict
      change item.cameraId.or event.cameraId = event.cameraId
      rw [agree, Option.or_self]
  · rw [existingEvent, hasId, Option.bind_some] at absent
    have noneNamed (row : Event) (member : row ∈ db.events) (same : SameIdentity row
        (newEvent redactText item own texts_ (db.events.newKey uuid4))) : False := by
      have isNamed : isProviderEvent own.source own.sourceInstanceId sourceEventId row = true := by
        simp only [isProviderEvent, decide_eq_true_eq]
        exact ⟨same.source, same.sourceInstanceId, same.sourceEventId.trans hasId⟩
      rw [Table.first?_eq_none_iff.mp absent row member] at isNamed
      cases isNamed
    refine ⟨mem_add.mpr (.inr rfl), ⟨sourceInstanceId, sourceEventId, hasInstance, hasId, stripped, nonempty, known⟩,
      fun other member differs => ?_, fun old member => .inl (mem_add.mpr (.inl member)), rest⟩
    have old := (mem_add.mp member).resolve_right differs
    exact ⟨old, noneNamed other old⟩

/-! ## Frigate -/

/-- What the Frigate normalizer makes of a payload: an item of the configured instance, with an id. -/
structure IsFrigateItem (frigate : String) (item : EventIngest) : Prop where
  source : item.source = "frigate"
  sourceInstanceId : item.sourceInstanceId = some frigate
  strippedInstance : strip frigate = frigate ∧ frigate ≠ ""
  sourceEventId : ∃ eventId, item.sourceEventId = some eventId ∧ strip eventId = eventId ∧ eventId ≠ ""

/-- An update that ends an event finds the trigger of the event closed, or the camera's policy recording
    events. -/
def FrigateCovered (db : Database) (item : EventIngest) : Prop :=
  item.endedAt.isSome → ∀ sourceInstanceId sourceEventId, item.sourceInstanceId = some sourceInstanceId →
    item.sourceEventId = some sourceEventId → ∀ trigger ∈ db.triggers, trigger.source = "frigate" →
    trigger.sourceEventId = some (providerIdentity sourceInstanceId sourceEventId) → ¬ Closed trigger →
    (eventPolicy db trigger.cameraId).isSome

theorem syncs_none {event : Event} (noCamera : event.cameraId = none)
    (unique : ∀ trigger ∈ db.triggers, ∀ other ∈ db.triggers, TriggerOf event trigger → TriggerOf event other →
      trigger = other) : Syncs db db event := by
  refine ⟨rfl, fun _ member _ => member, fun trigger member _ => .inl ⟨member, fun cameraId isCamera => ?_⟩, unique⟩
  rw [noCamera] at isCamera
  cases isCamera

/-- Two triggers of one touched event are the same. -/
theorem Touches.uniqueTrigger {event : Event} (touches : Touches frigate db db' event)
    (before : TriggersClosed frigate db) : ∀ trigger ∈ db'.triggers, ∀ other ∈ db'.triggers,
    TriggerOf event trigger → TriggerOf event other → trigger = other := by
  have sameTriggers : db'.triggers = db.triggers := by rw [touches.rest]
  rintro trigger member other otherMember ⟨source, left, leftId, isLeft, isLeftId, key⟩
    ⟨source', right, rightId, isRight, isRightId, key'⟩
  obtain rfl := Option.some.inj (isLeft.symm.trans isRight)
  obtain rfl := Option.some.inj (isLeftId.symm.trans isRightId)
  exact before.uniqueTrigger trigger (sameTriggers ▸ member) other (sameTriggers ▸ otherMember)
    (source ▸ isProvider_of_identified touches.identified) (source.trans source'.symm) (key.trans key'.symm)

/-- Tables other than those of events, triggers and policies do not matter. -/
theorem TriggersClosed.congr (before : TriggersClosed frigate db) (events : db'.events = db.events)
    (triggers : db'.triggers = db.triggers) : TriggersClosed frigate db' := by
  refine ⟨?_, ?_, ?_, ?_, ?_⟩
  · rw [events]; exact before.identified
  · rw [events]; exact before.unique
  · rw [triggers]; exact before.uniqueTrigger
  · rw [events, triggers]; exact before.backed
  · rw [events, triggers]; exact before.closed

theorem frigate_syncs {event : Event} {trigger : Option RecordingTrigger} {changed : Bool}
    {sourceInstanceId sourceEventId : String} (source : event.source = "frigate")
    (hasInstance : event.sourceInstanceId = some sourceInstanceId) (hasId : event.sourceEventId = some sourceEventId)
    (unique : ∀ trigger ∈ db.triggers, ∀ other ∈ db.triggers, TriggerOf event trigger → TriggerOf event other →
      trigger = other)
    (synced : FrigateEventIngestService.syncTrigger uuid4 db event = .ok (db', trigger, changed)) :
    Syncs db db' event := by
  unfold FrigateEventIngestService.syncTrigger at synced
  cases isReport : FrigateEventIngestService.triggerReport event with
  | none =>
    rw [isReport] at synced
    cases synced
    refine syncs_none ?_ unique
    unfold FrigateEventIngestService.triggerReport at isReport
    rw [hasInstance, hasId] at isReport
    cases camera : event.cameraId with
    | none => rfl
    | some cameraId =>
      rw [camera] at isReport
      cases isReport
  | some report =>
    rw [isReport] at synced
    obtain ⟨isFrigate, cameraId, instance_, id_, endedAt⟩ := FrigateEventIngestService.triggerReport_some isReport
    exact syncs_upsertProvider ⟨isFrigate.trans source.symm, cameraId, instance_, id_, endedAt⟩ unique synced

theorem frigate_closed {zoneInfo : String → Result TimeZone} {now : Int} {item : EventIngest}
    {result : FrigateIngestResult} (before : TriggersClosed frigate db) (isItem : IsFrigateItem frigate item)
    (covered : FrigateCovered db item)
    (done : FrigateEventIngestService.persist uuid4 zoneInfo redactText now db { item := some item } = .ok (db', result)) :
    TriggersClosed frigate db' := by
  obtain ⟨upserted, synced, eventResult, isUpserted, isSynced, _, _, _, _, rfl⟩ :=
    FrigateEventIngestService.persist_cases rfl done
  obtain ⟨own, _, isOwn, _⟩ := upsertProviderEvent_cases isUpserted
  obtain ⟨eventId, hasEventId, strippedId, nonemptyId⟩ := isItem.sourceEventId
  obtain ⟨isSource, _, isInstance_, isEventId, _⟩ := identity_ok isOwn
  rw [isItem.source] at isSource
  rw [isItem.sourceInstanceId] at isInstance_
  rw [hasEventId] at isEventId
  have ownSource := requiredText_stripped (by decide) isSource
  have ownInstance := text_stripped isItem.strippedInstance.1 isItem.strippedInstance.2 isInstance_
  have ownId := text_stripped strippedId nonemptyId isEventId
  have touches := touches_upsert before isOwn ownInstance ownId (.inl ⟨ownSource, rfl⟩) isUpserted
  obtain ⟨_, isEnded, isNamed⟩ := upsertProviderEvent_event isUpserted isOwn
  have named := isNamed eventId ownId
  simp only [isProviderEvent, decide_eq_true_eq, ownSource, ownInstance] at named
  have coveredEvent : Covered db eventResult.event := by
    rintro ended trigger member ⟨source, sourceInstanceId, sourceEventId, hasInstance, hasId, key⟩ notClosed
    rw [isEnded] at ended
    rw [named.2.1] at hasInstance
    rw [named.2.2] at hasId
    obtain rfl := Option.some.inj hasInstance
    obtain rfl := Option.some.inj hasId
    exact covered ended _ _ isItem.sourceInstanceId hasEventId trigger member (source.trans named.1) key notClosed
  have syncs := frigate_syncs named.1 named.2.1 named.2.2 (touches.uniqueTrigger before) isSynced
  exact (before.synced touches coveredEvent syncs).congr rfl rfl

/-! ## ONVIF -/

/-- What the normalizer makes of every notification: a fingerprint without white space around it. -/
def Fingerprinted (normalized : OnvifNormalizedNotification) : Prop :=
  strip normalized.sourceEventId = normalized.sourceEventId ∧ normalized.sourceEventId ≠ ""

/-- The provider's id of the event that the notification ends, or reports as ended. -/
def EndsEvent (deviceId : Uuid) (db : Database) (normalized : OnvifNormalizedNotification)
    (sourceEventId : String) : Prop :=
  match normalized.state with
  | some false => ∃ existing, OnvifEventIngestService.currentEvent deviceId db normalized = some existing ∧
      existing.sourceEventId = some sourceEventId
  | some true => (OnvifEventIngestService.endedEvent deviceId db normalized).isSome ∧
      sourceEventId = normalized.sourceEventId
  | none => sourceEventId = normalized.sourceEventId

/-- A notification that ends an event finds the trigger of the event closed, or the camera's policy
    recording events. -/
def OnvifCovered (deviceId : Uuid) (db : Database) (normalized : OnvifNormalizedNotification) : Prop :=
  ∀ sourceEventId, EndsEvent deviceId db normalized sourceEventId → ∀ trigger ∈ db.triggers,
    trigger.source = OnvifEventIngestService.source → trigger.sourceEventId =
      some (providerIdentity (OnvifEventIngestService.sourceInstanceId deviceId) sourceEventId) →
    ¬ Closed trigger → (eventPolicy db trigger.cameraId).isSome

theorem onvif_syncs {event : Event} {camera : Option Uuid} {changed : Bool} {sourceInstanceId sourceEventId : String}
    (source : event.source = OnvifEventIngestService.source)
    (hasInstance : event.sourceInstanceId = some sourceInstanceId) (hasId : event.sourceEventId = some sourceEventId)
    (unique : ∀ trigger ∈ db.triggers, ∀ other ∈ db.triggers, TriggerOf event trigger → TriggerOf event other →
      trigger = other)
    (synced : OnvifEventIngestService.syncRecordingTrigger uuid4 db event = .ok (db', camera, changed)) :
    Syncs db db' event := by
  unfold OnvifEventIngestService.syncRecordingTrigger at synced
  cases isReport : OnvifEventIngestService.triggerReport event with
  | none =>
    rw [isReport] at synced
    cases synced
    refine syncs_none ?_ unique
    unfold OnvifEventIngestService.triggerReport at isReport
    rw [hasInstance, hasId] at isReport
    cases camera : event.cameraId with
    | none => rfl
    | some cameraId =>
      rw [camera] at isReport
      cases isReport
  | some report =>
    rw [isReport] at synced
    dsimp only at synced
    rw [bind_eq_ok] at synced
    obtain ⟨⟨_, trigger, _⟩, upserted, same⟩ := synced
    cases same
    obtain ⟨isOnvif, cameraId, instance_, id_, endedAt⟩ := OnvifEventIngestService.triggerReport_some isReport
    exact syncs_upsertProvider ⟨isOnvif.trans source.symm, cameraId, instance_, id_, endedAt⟩ unique upserted

/-- What an ingest of the device does to the events. -/
structure Ingests (frigate : String) (deviceId : Uuid) (db db' : Database) (event : Event) : Prop where
  touches : Touches frigate db db' event
  source : event.source = OnvifEventIngestService.source
  sourceInstanceId : event.sourceInstanceId = some (OnvifEventIngestService.sourceInstanceId deviceId)

theorem ingests_change {deviceId : Uuid} {existing : Event} (before : TriggersClosed frigate db)
    (member : existing ∈ db.events) (source : existing.source = OnvifEventIngestService.source)
    (hasInstance : existing.sourceInstanceId = some (OnvifEventIngestService.sourceInstanceId deviceId))
    {change : Event → Event} {keeps : ∀ row, Keyed.key (change row) = Keyed.key row}
    (same : SameIdentity (change existing) existing) (camera : (change existing).cameraId = existing.cameraId) :
    Ingests frigate deviceId db (OnvifEventIngestService.changeEvent db existing change keeps) (change existing) :=
  ⟨touches_modify before member (.inr source) same (fun _ => camera) rfl, same.source.trans source,
    same.sourceInstanceId.trans hasInstance⟩

theorem ingests_upsert {deviceId : Uuid} {item : EventIngest} {result : EventUpsertResult} {sourceEventId : String}
    (before : TriggersClosed frigate db) (isSource : item.source = OnvifEventIngestService.source)
    (isInstance_ : item.sourceInstanceId = some (OnvifEventIngestService.sourceInstanceId deviceId))
    (isEventId : item.sourceEventId = some sourceEventId) (stripped : strip sourceEventId = sourceEventId)
    (nonempty : sourceEventId ≠ "")
    (upserted : upsertProviderEvent redactText uuid4 db item = .ok (db', result)) :
    Ingests frigate deviceId db db' result.event ∧ result.event.sourceEventId = some sourceEventId ∧
      result.event.endedAt = item.endedAt := by
  obtain ⟨own, _, isOwn, _⟩ := upsertProviderEvent_cases upserted
  obtain ⟨ownSource, ownInstance, ownId⟩ :=
    OnvifEventIngestService.identity_item isSource isInstance_ isEventId stripped nonempty isOwn
  obtain ⟨_, isEnded, isNamed⟩ := upsertProviderEvent_event upserted isOwn
  have named := isNamed sourceEventId ownId
  simp only [isProviderEvent, decide_eq_true_eq] at named
  exact ⟨⟨touches_upsert before isOwn ownInstance ownId (.inr ⟨ownSource, deviceId, rfl⟩) upserted,
    named.1.trans ownSource, named.2.1.trans ownInstance⟩, named.2.2, isEnded⟩

theorem onvif_closed {deviceId : Uuid} {normalized : OnvifNormalizedNotification} {outcome : OnvifOutcome}
    {cameraIds : List Uuid} (before : TriggersClosed frigate db) (fingerprinted : Fingerprinted normalized)
    (covered : OnvifCovered deviceId db normalized)
    (done : OnvifEventIngestService.ingestAndSync redactText uuid4 deviceId db normalized = .ok (db', outcome, cameraIds)) :
    TriggersClosed frigate db' := by
  unfold OnvifEventIngestService.ingestAndSync at done
  rw [bind_eq_ok] at done
  obtain ⟨⟨middle, outcome', event⟩, ingested, done⟩ := done
  have closes {touched : Event} (isEvent : event = some touched)
      (ingests : Ingests frigate deviceId db middle touched) (isCovered : Covered db touched) :
      TriggersClosed frigate db' := by
    subst isEvent
    dsimp only at done
    rw [bind_eq_ok] at done
    obtain ⟨⟨last, camera, changed⟩, synced, same⟩ := done
    cases same
    obtain ⟨_, _, hasInstance, hasId, _⟩ := ingests.touches.identified
    exact before.synced ingests.touches isCovered
      (onvif_syncs ingests.source hasInstance hasId (ingests.touches.uniqueTrigger before) synced)
  -- An event that has not ended is covered whatever its trigger is.
  have coveredOpen {touched : Event} (isOpen : touched.endedAt = none) : Covered db touched := by
    intro ended
    rw [isOpen] at ended
    cases ended
  have coveredEnded {touched : Event} {sourceEventId : String}
      (isSource : touched.source = OnvifEventIngestService.source)
      (isInstance_ : touched.sourceInstanceId = some (OnvifEventIngestService.sourceInstanceId deviceId))
      (isId : touched.sourceEventId = some sourceEventId) (ends : EndsEvent deviceId db normalized sourceEventId) :
      Covered db touched := by
    rintro _ trigger member ⟨source, sourceInstanceId, sourceEventId', hasInstance, hasId, key⟩ notClosed
    obtain rfl := Option.some.inj (hasInstance.symm.trans isInstance_)
    obtain rfl := Option.some.inj (hasId.symm.trans isId)
    exact covered _ ends trigger member (source.trans isSource) key notClosed
  rcases OnvifEventIngestService.ingestOne_cases ingested with ⟨_, _, rfl, rfl⟩ | ⟨existing, state, current, isEvent, rfl⟩ |
    ⟨replayed, state, _, ended, isEvent, rfl⟩ | ⟨existing, result, state, current, upserted, isEvent⟩ |
    ⟨result, state, upserted, isEvent⟩
  · cases done
    exact before
  · obtain ⟨member, isOpen⟩ := OnvifEventIngestService.currentEvent_some current
    simp only [OnvifEventIngestService.isOpenEvent, decide_eq_true_eq] at isOpen
    obtain ⟨_, eventId, _, hasId, _⟩ := before.identified existing member (.inr isOpen.1)
    refine closes isEvent (ingests_change before member isOpen.1 isOpen.2.1 ⟨rfl, rfl, rfl⟩ rfl)
      (coveredEnded isOpen.1 isOpen.2.1 hasId ?_)
    rw [EndsEvent, state]
    exact ⟨existing, current, hasId⟩
  · obtain ⟨member, isNamed, _⟩ := OnvifEventIngestService.endedEvent_some ended
    simp only [isProviderEvent, decide_eq_true_eq] at isNamed
    refine closes isEvent (ingests_change before member isNamed.1 isNamed.2.1 ⟨rfl, rfl, rfl⟩ rfl)
      (coveredEnded isNamed.1 isNamed.2.1 isNamed.2.2 ?_)
    rw [EndsEvent, state]
    exact ⟨by rw [ended]; rfl, rfl⟩
  · obtain ⟨member, isOpen⟩ := OnvifEventIngestService.currentEvent_some current
    simp only [OnvifEventIngestService.isOpenEvent, decide_eq_true_eq] at isOpen
    obtain ⟨_, eventId, _, hasId, stripped, nonempty, _⟩ := before.identified existing member (.inr isOpen.1)
    obtain ⟨ingests, _, isEnded⟩ := ingests_upsert before rfl rfl hasId stripped nonempty upserted
    exact closes isEvent ingests (coveredOpen isEnded)
  · obtain ⟨ingests, isId, isEnded⟩ := ingests_upsert before rfl rfl rfl fingerprinted.1 fingerprinted.2 upserted
    rcases state with stateless | ⟨isTrue, _⟩
    · refine closes isEvent ingests (coveredEnded ingests.source ingests.sourceInstanceId isId ?_)
      rw [EndsEvent, stateless]
    · refine closes isEvent ingests (coveredOpen (isEnded.trans ?_))
      simp [OnvifEventIngestService.newItem, isTrue]

/-! ## Runs -/

/-- A step of the system: a transaction of Frigate payloads, a batch of ONVIF notifications, or anything
    else, policy changes above all, that leaves events and triggers. -/
inductive IngestStep where
  | frigate (now : Int) (batch : List FrigateNormalizedEvent)
  | onvif (deviceId : Uuid) (notifications : List (Option OnvifNormalizedNotification))
  | other (found : Database)

variable (uuid4 redactText) (zoneInfo : String → Result TimeZone) in
/-- One MQTT event, or the payloads of one backfill page, in one transaction. -/
def frigateBatch (now : Int) (db : Database) (batch : List FrigateNormalizedEvent) : Result Database :=
  batch.foldlM (fun db normalized =>
    Prod.fst <$> FrigateEventIngestService.persist uuid4 zoneInfo redactText now db normalized) db

/-- A transaction that raises is rolled back. -/
def committed (db : Database) : Result Database → Database
  | .ok db' => db'
  | .error _ => db

variable (uuid4 redactText frigate) (zoneInfo : String → Result TimeZone) in
/-- The steps of the system; the inputs are what the two normalizers make of the payloads. -/
def Ingested (db : Database) (step : IngestStep) (db' : Database) : Prop :=
  match step with
  | .frigate now batch =>
    (∀ normalized ∈ batch, ∀ item ∈ normalized.item, IsFrigateItem frigate item) ∧
      db' = committed db (frigateBatch uuid4 redactText zoneInfo now db batch)
  | .onvif deviceId notifications =>
    (∀ notification ∈ notifications, ∀ normalized ∈ notification, Fingerprinted normalized) ∧
      db' = committed db (Prod.fst <$> OnvifEventIngestService.handle redactText uuid4 deviceId db notifications)
  | .other found => found.events = db.events ∧ found.triggers = db.triggers ∧ db' = found

variable (uuid4 redactText) (zoneInfo : String → Result TimeZone) in
/-- Whenever an ingest of the step ends an event whose trigger is still open, the policy of the trigger's
    camera records events. -/
def StepCovered (db : Database) (step : IngestStep) : Prop :=
  match step with
  | .frigate now batch => ∀ before normalized after middle item, batch = before ++ normalized :: after →
      frigateBatch uuid4 redactText zoneInfo now db before = .ok middle → normalized.item = some item →
      FrigateCovered middle item
  | .onvif deviceId notifications => ∀ before normalized after acc, notifications = before ++ some normalized :: after →
      before.foldlM (OnvifEventIngestService.handleOne redactText uuid4 deviceId) (db, {}, []) = .ok acc →
      OnvifCovered deviceId acc.1 normalized
  | .other _ => True

variable (uuid4 redactText frigate) (zoneInfo : String → Result TimeZone) in
def CoveredStep (db : Database) (step : IngestStep) (db' : Database) : Prop :=
  Ingested uuid4 redactText frigate zoneInfo db step db' ∧ StepCovered uuid4 redactText zoneInfo db step

theorem coveredStep_closed {zoneInfo : String → Result TimeZone} (db : Database) (step : IngestStep) (db' : Database)
    (before : TriggersClosed frigate db) (covered : CoveredStep uuid4 redactText frigate zoneInfo db step db') :
    TriggersClosed frigate db' := by
  obtain ⟨ingested, isCovered⟩ := covered
  cases step with
  | frigate now batch =>
    obtain ⟨areItems, rfl⟩ := ingested
    cases outcome : frigateBatch uuid4 redactText zoneInfo now db batch with
    | error => exact before
    | ok last =>
      refine foldlM_invariant_prefix batch (fun earlier normalized later split middle after folded middleClosed done =>
        ?_) before outcome
      obtain ⟨⟨_, result⟩, persisted, rfl⟩ := map_eq_ok.mp done
      obtain ⟨item, ignored, reason⟩ := normalized
      cases item with
      | none =>
        cases persisted
        exact middleClosed
      | some item =>
        have member : (⟨some item, ignored, reason⟩ : FrigateNormalizedEvent) ∈ batch := by simp [split]
        exact frigate_closed middleClosed (areItems _ member item rfl)
          (isCovered earlier _ later middle item split folded rfl) persisted
  | onvif deviceId notifications =>
    obtain ⟨fingerprinted, rfl⟩ := ingested
    unfold OnvifEventIngestService.handle
    split
    · exact before
    cases outcome : notifications.foldlM (OnvifEventIngestService.handleOne redactText uuid4 deviceId) (db, {}, []) with
    | error => exact before
    | ok last =>
      let Closes (acc : Database × OnvifEventIngestResult × List Uuid) : Prop := TriggersClosed frigate acc.1
      have step : ∀ earlier notification later, notifications = earlier ++ notification :: later →
          ∀ acc acc', earlier.foldlM (OnvifEventIngestService.handleOne redactText uuid4 deviceId) (db, {}, []) = .ok acc →
          Closes acc → OnvifEventIngestService.handleOne redactText uuid4 deviceId acc notification = .ok acc' →
          Closes acc' := by
        rintro earlier notification later split ⟨middle, result, cameras⟩ acc' folded middleClosed done
        cases notification with
        | none =>
          cases done
          exact middleClosed
        | some normalized =>
          obtain ⟨⟨next, outcome, cameraIds⟩, ingested, same⟩ := bind_eq_ok.mp done
          cases same
          exact onvif_closed middleClosed (fingerprinted (some normalized) (by simp [split]) normalized rfl)
            (isCovered earlier normalized later _ split folded) ingested
      have lastClosed : Closes last := foldlM_invariant_prefix notifications step before outcome
      exact lastClosed
  | other found =>
    obtain ⟨sameEvents, sameTriggers, rfl⟩ := ingested
    exact before.congr sameEvents sameTriggers

/-- Past the planned end of a closed trigger the recorder is not kept on by it. -/
theorem closed_notActive {trigger : RecordingTrigger} (closed : Closed trigger) :
    ∃ plannedEnd, ∀ instant, plannedEnd ≤ instant → ∀ cameraId, trigger ∉ activeAt db cameraId instant := by
  obtain ⟨plannedEnd, isEnd⟩ := Option.isSome_iff_exists.mp closed.1
  refine ⟨plannedEnd, fun instant late cameraId active => ?_⟩
  simp only [activeAt, List.mem_insertionSort, Table.mem_select, decide_eq_true_eq, isEnd, Option.all_some] at active
  exact absurd active.2.2.2.2.2 (not_lt.mpr late)

/-- In every run of provider ingests and policy changes that meets the condition, an ended event's
    trigger is completed with a planned end.  So neither the event nor its trigger alone makes the
    planner answer that an event is active, or keeps the recorder on for good. -/
theorem endedEvent_triggerClosed {zoneInfo : String → Result TimeZone} {start final : Database}
    {steps : List IngestStep} (run : Run (CoveredStep uuid4 redactText frigate zoneInfo) start steps final)
    (startClosed : TriggersClosed frigate start) :
    ∀ event ∈ final.events, isProvider event.source → event.endedAt.isSome →
    ∀ trigger ∈ final.triggers, TriggerOf event trigger →
      (trigger.plannedEndAt.isSome ∧ trigger.state = .completed) ∧
      (∃ plannedEnd, ∀ instant, plannedEnd ≤ instant → ∀ cameraId, trigger ∉ activeAt final cameraId instant) ∧
      ∀ segment, RetentionPlanner.activeEvent final segment = true →
        (∃ other ∈ RetentionPlanner.overlappingTriggers final segment, other ≠ trigger ∧ other.plannedEndAt = none) ∨
        ∃ other ∈ RetentionPlanner.overlappingEvents final segment, other ≠ event ∧ other.endedAt = none := by
  have finalClosed := Run.invariant coveredStep_closed run startClosed
  intro event member provider ended trigger triggerMember ofEvent
  have closed := finalClosed.closed event member provider ended trigger triggerMember ofEvent
  refine ⟨closed, closed_notActive closed, fun segment active => ?_⟩
  simp only [RetentionPlanner.activeEvent, RetentionPlanner.overlappingEnds, List.any_eq_true, List.mem_append,
    List.mem_map, Option.isNone_iff_eq_none] at active
  obtain ⟨_, ⟨other, inside, rfl⟩ | ⟨other, inside, rfl⟩, isOpen⟩ := active
  · refine .inl ⟨other, inside, ?_, isOpen⟩
    rintro rfl
    rw [Closed, isOpen] at closed
    cases closed.1
  · refine .inr ⟨other, inside, ?_, isOpen⟩
    rintro rfl
    rw [isOpen] at ended
    cases ended

/-! ## Concrete runs -/

/-- The catalog of one camera with a policy that records events, or does not any more. -/
def recordingCamera (eventRecordingEnabled : Bool) : Database :=
  { FrigateEventIngestService.oneCamera with
    recordingPolicies := ⟨[{ cameraId := 1, eventRecordingEnabled }], List.nodup_singleton _⟩ }

def frigateReport (endedAt : Option Int) : IngestStep :=
  .frigate 0 [{ item := some (FrigateEventIngestService.report endedAt) }]

theorem report_isFrigateItem (endedAt : Option Int) :
    IsFrigateItem "frigate1" (FrigateEventIngestService.report endedAt) :=
  ⟨rfl, rfl, by decide, "e1", rfl, by decide⟩

theorem ingested_report {db db' : Database} {endedAt : Option Int}
    (done : frigateBatch .counting id RecordingPolicyService.utcOnly 0 db
      [{ item := some (FrigateEventIngestService.report endedAt) }] = .ok db') :
    Ingested .counting id "frigate1" RecordingPolicyService.utcOnly db (frigateReport endedAt) db' := by
  refine ⟨fun normalized member item isItem => ?_, by rw [done]; rfl⟩
  obtain rfl := List.mem_singleton.mp member
  obtain rfl := Option.some.inj isItem
  exact report_isFrigateItem endedAt

/-- The end and the trigger's planned end and state of the reported event. -/
def eventAndTrigger (db : Database) : Option Int × Option (Option Int × TriggerState) :=
  (FrigateEventIngestService.storedEnd "frigate1" "e1" db,
    (FrigateEventIngestService.storedTrigger "frigate1" "e1" db).map fun trigger => (trigger.plannedEndAt, trigger.state))

/-- The policy stops recording events between the start and the end of an event: the trigger stays open. -/
theorem disabled_policy_keeps_trigger_open : ∃ middle final,
    Run (Ingested .counting id "frigate1" RecordingPolicyService.utcOnly) (recordingCamera true)
      [frigateReport none, .other { middle with recordingPolicies := (recordingCamera false).recordingPolicies },
        frigateReport (some 20000000)] final ∧
      eventAndTrigger middle = (none, some (none, .active)) ∧
      eventAndTrigger final = (some 20000000, some (none, .active)) := by
  have opened : (eventAndTrigger <$> frigateBatch .counting id RecordingPolicyService.utcOnly 0 (recordingCamera true)
      [{ item := some (FrigateEventIngestService.report none) }]) = .ok (none, some (none, .active)) := by decide
  have ended : ((fun middle => frigateBatch .counting id RecordingPolicyService.utcOnly 0
      { middle with recordingPolicies := (recordingCamera false).recordingPolicies }
      [{ item := some (FrigateEventIngestService.report (some 20000000)) }]) =<<
      frigateBatch .counting id RecordingPolicyService.utcOnly 0 (recordingCamera true)
        [{ item := some (FrigateEventIngestService.report none) }]).map eventAndTrigger =
      .ok (some 20000000, some (none, .active)) := by decide
  obtain ⟨middle, first, isOpen⟩ := map_eq_ok.mp opened
  rw [first] at ended
  obtain ⟨final, second, isEnded⟩ := map_eq_ok.mp ended
  refine ⟨middle, final, ?_, isOpen, isEnded⟩
  exact .next (ingested_report first) (.next ⟨rfl, rfl, rfl⟩ (.next (ingested_report second) (.done _)))

theorem triggersClosed_noEvents (events : db.events = .empty) (triggers : db.triggers = .empty) :
    TriggersClosed frigate db := by
  refine ⟨?_, ?_, ?_, ?_, ?_⟩
  · rw [events]; exact fun event member => absurd member (Table.not_mem_empty event)
  · rw [events]; exact fun event member => absurd member (Table.not_mem_empty event)
  · rw [triggers]; exact fun trigger member => absurd member (Table.not_mem_empty trigger)
  · rw [triggers]; exact fun trigger member => absurd member (Table.not_mem_empty trigger)
  · rw [events]; exact fun event member => absurd member (Table.not_mem_empty event)

/-- An event that is reported with its end to a policy that records events. -/
theorem endedEvent_triggerClosed_recorded : ∃ final event trigger,
    Run (CoveredStep .counting id "frigate1" RecordingPolicyService.utcOnly) (recordingCamera true)
      [frigateReport (some 20000000)] final ∧
    event ∈ final.events ∧ trigger ∈ final.triggers ∧ event.endedAt.isSome ∧ TriggerOf event trigger ∧
      trigger.state = .completed := by
  have stored : ((fun db => (FrigateEventIngestService.storedEvent "frigate1" "e1" db).isSome &&
      (FrigateEventIngestService.storedTrigger "frigate1" "e1" db).isSome &&
      (FrigateEventIngestService.storedEnd "frigate1" "e1" db).isSome) <$>
      frigateBatch .counting id RecordingPolicyService.utcOnly 0 (recordingCamera true)
        [{ item := some (FrigateEventIngestService.report (some 20000000)) }]) = .ok true := by decide
  obtain ⟨final, done, present⟩ := map_eq_ok.mp stored
  simp only [Bool.and_eq_true] at present
  obtain ⟨event, isEvent⟩ := Option.isSome_iff_exists.mp present.1.1
  obtain ⟨trigger, isTrigger⟩ := Option.isSome_iff_exists.mp present.1.2
  obtain ⟨eventMember, named⟩ := Table.mem_of_first? isEvent
  obtain ⟨triggerMember, keyed⟩ := Table.mem_of_first? isTrigger
  simp only [isProviderEvent, decide_eq_true_eq] at named
  simp only [isProviderTrigger, decide_eq_true_eq] at keyed
  have ended : event.endedAt.isSome := by
    have isEnded := present.2
    rwa [FrigateEventIngestService.storedEnd, isEvent, Option.bind_some] at isEnded
  have ofEvent : TriggerOf event trigger :=
    ⟨keyed.1.trans named.1.symm, _, _, named.2.1, named.2.2, keyed.2⟩
  have covered : StepCovered .counting id RecordingPolicyService.utcOnly (recordingCamera true)
      (frigateReport (some 20000000)) := by
    intro before normalized after middle item split folded isItem ended sourceInstanceId sourceEventId _ _ trigger member
    cases before with
    | nil =>
      cases folded
      exact absurd member (Table.not_mem_empty trigger)
    | cons first before => simp at split
  have step : CoveredStep .counting id "frigate1" RecordingPolicyService.utcOnly (recordingCamera true)
      (frigateReport (some 20000000)) final := ⟨ingested_report done, covered⟩
  have run := Run.next step (Run.done final)
  exact ⟨final, event, trigger, run, eventMember, triggerMember, ended, ofEvent,
    (endedEvent_triggerClosed run (triggersClosed_noEvents rfl rfl) event eventMember (.inl named.1) ended trigger
      triggerMember ofEvent).1.2⟩

end ZeroNvr.RecordingTriggerService
