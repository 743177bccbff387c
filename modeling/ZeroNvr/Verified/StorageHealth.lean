import ZeroNvr.Lib.Run
import ZeroNvr.Worker.CapacityGuard

/-! # The storage health machine

A guard pass moves the health events of the observed targets to the levels it
observed, as long as it completes.  It completes unless it observes a target at
the healthy level, which `inspect` calls "normal" and the transition only knows
as "ok", or an alert policy cannot be matched against a health event.
-/

namespace ZeroNvr.CapacityGuard

open Lib SystemEventService AlertEvaluationService

variable {env : CapacityEnv} {zoneInfo : String → Result TimeZone} {uuid4 : Supply Uuid}

/-! ## Open health events -/

theorem storageTargetInstance_injective {left right : Uuid}
    (same : storageTargetInstance left = storageTargetInstance right) : left = right := by
  have texts : (toString left : String) = toString right := by
    have lists := congrArg String.toList same
    simp only [storageTargetInstance, String.toList_append, List.append_cancel_left_eq] at lists
    exact String.toList_injective lists
  exact Nat.repr_injective texts

/-- The event is an open health event of the target. -/
def OpenAt (db : Database) (targetId : Uuid) (event : Event) : Prop :=
  event ∈ db.events ∧ isOpenStorageHealth targetId event

theorem isOpenStorageHealth_target {left right : Uuid} {event : Event}
    (isLeft : isOpenStorageHealth left event) (isRight : isOpenStorageHealth right event) : left = right := by
  simp only [isOpenStorageHealth, decide_eq_true_eq] at isLeft isRight
  exact storageTargetInstance_injective (Option.some.inj (isLeft.2.1.symm.trans isRight.2.1))

theorem openStorageHealth_some {db : Database} {targetId : Uuid} {event : Event}
    (found : openStorageHealth db targetId = some event) : OpenAt db targetId event :=
  Table.mem_of_firstBy? found

theorem openStorageHealth_none {db : Database} {targetId : Uuid}
    (found : openStorageHealth db targetId = none) (event : Event) : ¬ OpenAt db targetId event := by
  rintro ⟨member, isOpen⟩
  rw [Table.firstBy?_eq_none_iff.mp found event member] at isOpen
  cases isOpen

/-- The levels at which a health event is open. -/
def unhealthyLevels : List String := ["warning", "high", "critical", "unavailable"]

theorem storageHealthEvent_open (targetId : Uuid) (observedAt : Int) (level : String) (id : Uuid) :
    isOpenStorageHealth targetId (storageHealthEvent targetId observedAt level id) := by
  simp [isOpenStorageHealth, storageHealthEvent]

/-! ## One transition -/

theorem normalized_unhealthy {level : String} (unhealthy : level ∈ unhealthyLevels) :
    lower (strip level) = level ∧ level ∈ storageHealthLevels ∧ level ≠ "ok" := by
  simp only [unhealthyLevels, List.mem_cons, List.not_mem_nil, or_false] at unhealthy
  rcases unhealthy with rfl | rfl | rfl | rfl <;> decide

/-- What a transition to an unhealthy level does: nothing at the same level; otherwise it closes the
    event there is, and opens one at the level. -/
theorem storageHealthTransition_cases (db : Database) (targetId : Uuid) (observedAt : Int) {level : String}
    (unhealthy : level ∈ unhealthyLevels) :
    (∃ event, openStorageHealth db targetId = some event ∧ event.label = some ("storage_" ++ level) ∧
      storageHealthTransition uuid4 db targetId observedAt level = .ok (db, {})) ∨
    storageHealthTransition uuid4 db targetId observedAt level =
      let events := closing db.events observedAt (openStorageHealth db targetId)
      let opened := events.create uuid4 (storageHealthEvent targetId observedAt level)
        (storageHealthEvent_key _ _ _)
      .ok ({ db with events := opened },
        { opened := some (storageHealthEvent targetId observedAt level (events.newKey uuid4))
          closed := (openStorageHealth db targetId).map (recovered observedAt) }) := by
  obtain ⟨same, known, notOk⟩ := normalized_unhealthy unhealthy
  unfold storageHealthTransition
  dsimp only
  rw [same, if_neg (not_not.mpr known), if_neg notOk]
  cases existing : openStorageHealth db targetId with
  | none =>
    right
    rw [Option.filter_none, if_neg (by simp)]
  | some event =>
    by_cases labelled : event.label = some ("storage_" ++ level)
    · refine .inl ⟨event, rfl, labelled, ?_⟩
      simp [Option.filter_some, notOk, labelled, closing]
    · right
      simp [Option.filter_some, labelled]

/-- Closing the open event of a target leaves those of the other targets. -/
theorem mem_closing_open {db : Database} {targetId : Uuid} {observedAt : Int}
    (single : ∀ event event', OpenAt db targetId event → OpenAt db targetId event' → event = event')
    (other : Uuid) (event : Event) :
    (event ∈ closing db.events observedAt (openStorageHealth db targetId) ∧ isOpenStorageHealth other event) ↔
      other ≠ targetId ∧ OpenAt db other event := by
  cases found : openStorageHealth db targetId with
  | none =>
    constructor
    · intro isOpen
      refine ⟨?_, isOpen⟩
      rintro rfl
      exact openStorageHealth_none found event isOpen
    · exact fun isOpen => isOpen.2
  | some old =>
    have oldOpen := openStorageHealth_some found
    rw [closing, Table.mem_modify]
    constructor
    · rintro ⟨⟨row, member, rfl⟩, isOpen⟩
      by_cases same : Keyed.key row = old.id
      · rw [if_pos same] at isOpen
        simp [isOpenStorageHealth, recovered] at isOpen
      · rw [if_neg same] at isOpen ⊢
        refine ⟨?_, member, isOpen⟩
        rintro rfl
        exact same (congrArg Event.id (single row old ⟨member, isOpen⟩ oldOpen))
    · rintro ⟨differs, member, isOpen⟩
      refine ⟨⟨event, member, if_neg fun same => differs ?_⟩, isOpen⟩
      have sameEvent : event = old := Table.eq_of_key_eq member oldOpen.1 same
      rw [sameEvent] at isOpen
      exact isOpenStorageHealth_target isOpen oldOpen.2

/-- The open health events once the target's event is closed and a new one opened. -/
theorem openAt_opened {db : Database} {targetId : Uuid} {observedAt : Int} {level : String} {events : Table Event}
    (closed : events = closing db.events observedAt (openStorageHealth db targetId))
    (single : ∀ event event', OpenAt db targetId event → OpenAt db targetId event' → event = event')
    {after : Database} (opened : after.events = events.create uuid4 (storageHealthEvent targetId observedAt level)
      (storageHealthEvent_key _ _ _)) (other : Uuid) (event : Event) :
    OpenAt after other event ↔
      if other = targetId then event = storageHealthEvent targetId observedAt level (events.newKey uuid4)
      else OpenAt db other event := by
  rw [OpenAt, opened, Table.mem_create, or_and_right, closed, mem_closing_open single]
  split
  next same =>
    subst same
    constructor
    · rintro (⟨differs, _⟩ | ⟨isNew, _⟩)
      · exact absurd rfl differs
      · exact isNew
    · intro isNew
      exact .inr ⟨isNew, isNew ▸ storageHealthEvent_open _ _ _ _⟩
  next differs =>
    constructor
    · rintro (⟨_, isOpen⟩ | ⟨rfl, isOpen⟩)
      · exact isOpen
      · exact absurd (isOpenStorageHealth_target isOpen (storageHealthEvent_open _ _ _ _)) differs
    · exact fun isOpen => .inl ⟨differs, isOpen⟩

/-! ## Alerts -/

/-- Every alert policy can be matched against every health event: what is stored of its time window
    is accepted by `ZoneInfo` and `time.fromisoformat`, or an earlier test rejects the event. -/
def Readable (zoneInfo : String → Result TimeZone) (db : Database) : Prop :=
  ∀ policy ∈ db.alertPolicies, ∀ event : Event, event.source = source → event.category = storageHealthCategory →
    ∃ matched, matches_ zoneInfo policy event = .ok matched

/-- What evaluating an event without a camera leaves: the events, the policies, and all alerts but
    those of the event itself. -/
structure AlertsOnly (db db' : Database) (event : Event) : Prop where
  events : db'.events = db.events
  policies : db'.alertPolicies = db.alertPolicies
  alerts : ∀ alert ∈ db'.alerts, alert ∈ db.alerts ∨ alert.eventId = event.id

theorem protect_noCamera {db : Database} {actions : Dict} {event : Event} {alertId : Uuid} {now : Int}
    (noCamera : event.cameraId = none) : protect uuid4 db actions event alertId now = .ok db := by
  rw [protect, noCamera]

theorem evaluatePolicy_spec {db : Database} {event : Event} {now : Int} {result : AlertEvaluationResult}
    {policy : AlertPolicy} (noCamera : event.cameraId = none)
    (readable : ∃ matched, matches_ zoneInfo policy event = .ok matched) :
    ∃ db' result', evaluatePolicy zoneInfo uuid4 event now (db, result) policy = .ok (db', result') ∧
      AlertsOnly db db' event := by
  obtain ⟨matched, isMatched⟩ := readable
  have unchanged : AlertsOnly db db event := ⟨rfl, rfl, fun _ member => .inl member⟩
  unfold evaluatePolicy
  dsimp only
  rw [isMatched]
  dsimp only [bind, Except.bind]
  split
  · exact ⟨db, result, rfl, unchanged⟩
  split
  · exact ⟨db, result, rfl, unchanged⟩
  split
  · exact ⟨db, result, rfl, unchanged⟩
  rw [protect_noCamera noCamera]
  refine ⟨_, _, rfl, ?_⟩
  obtain ⟨deliveries, changed⟩ := createDeliveries_frame  (db.alerts.newKey uuid4) _ _
  rw [changed]
  refine ⟨rfl, rfl, fun alert member => ?_⟩
  rcases Table.mem_create.mp member with old | rfl
  · exact .inl old
  · exact .inr rfl

theorem evaluateEvent_spec {db : Database} {event : Event} (now : Int) (noCamera : event.cameraId = none)
    (readable : ∀ policy ∈ db.alertPolicies, ∃ matched, matches_ zoneInfo policy event = .ok matched) :
    ∃ db' result, evaluateEvent zoneInfo uuid4 db event now = .ok (db', result) ∧ AlertsOnly db db' event := by
  have step : ∀ acc : Database × AlertEvaluationResult,
      ∀ policy ∈ (db.alertPolicies.select AlertPolicy.enabled).insertionSort fun left right => left.id ≤ right.id,
      AlertsOnly db acc.1 event → ∃ acc', evaluatePolicy zoneInfo uuid4 event now acc policy = .ok acc' ∧
        AlertsOnly db acc'.1 event := by
    intro acc policy member soFar
    rw [List.mem_insertionSort, Table.mem_select] at member
    obtain ⟨db', result', evaluated, effect⟩ := evaluatePolicy_spec noCamera (readable policy member.1)
    refine ⟨(db', result'), evaluated, effect.events.trans soFar.events, effect.policies.trans soFar.policies,
      fun alert inAfter => ?_⟩
    rcases effect.alerts alert inAfter with inBefore | ofEvent
    · exact soFar.alerts alert inBefore
    · exact .inr ofEvent
  have start : AlertsOnly db (db, ({ alerts := [], deliveryIds := [] } : AlertEvaluationResult)).1 event :=
    ⟨rfl, rfl, fun _ member => .inl member⟩
  unfold evaluateEvent
  rw [noCamera, if_neg (by simp)]
  obtain ⟨⟨db', result⟩, evaluated, effect⟩ := foldlM_ok _ step start
  exact ⟨db', result, evaluated, effect⟩

theorem mem_resolveEventAlerts {db : Database} {event : Event} {now : Int} {alert : Alert}
    (member : alert ∈ (resolveEventAlerts db event now).1.alerts) :
    (alert.eventId = event.id → alert.state = .resolved) ∧
      ∃ old ∈ db.alerts, old.eventId = alert.eventId ∧ (old.state = .resolved → alert.state = .resolved) := by
  dsimp only [resolveEventAlerts] at member
  rw [Table.mem_mapRows] at member
  obtain ⟨old, oldMember, rfl⟩ := member
  refine ⟨fun ofEvent => ?_, old, oldMember, rfl, fun isResolved => ?_⟩
  · simp only [resolve]
    split
    · rfl
    next inactive =>
      by_contra notResolved
      exact inactive (decide_eq_true ⟨ofEvent, notResolved⟩)
  · simp only [resolve, isResolved, ite_self]

/-! ## One observation -/

/-- The health events follow the last observed levels. -/
structure Tracks (db : Database) (last : Uuid → Option String) : Prop where
  open_iff : ∀ targetId, (∃ event, OpenAt db targetId event) ↔
    ∃ level, last targetId = some level ∧ level ≠ StorageCapacityLevel.normal.text
  labelled : ∀ targetId event, OpenAt db targetId event →
    ∃ level, last targetId = some level ∧ event.label = some ("storage_" ++ level)
  single : ∀ targetId event event', OpenAt db targetId event → OpenAt db targetId event' → event = event'

/-- The alerts of the events that were open before and are closed now are resolved. -/
def ClosedResolved (before after : Database) : Prop :=
  ∀ event ∈ after.events, event.endedAt.isSome →
    (∃ old ∈ before.events, old.id = event.id ∧ old.endedAt = none) →
    ∀ alert ∈ after.alerts, alert.eventId = event.id → alert.state = .resolved

/-- A new open event and its alerts do not disturb the alerts of closed events. -/
theorem ClosedResolved.opened {before db after : Database} {event : Event} {events : Table Event}
    (closedResolved : ClosedResolved before { db with events })
    {make : Uuid → Event} {keyed : ∀ id, Keyed.key (make id) = id}
    (isNew : event = make (events.newKey uuid4)) (isOpen : event.endedAt = none)
    (effect : AlertsOnly { db with events := events.create uuid4 make keyed } after event) :
    ClosedResolved before after := by
  intro other member closed wasOpen alert alertMember ofOther
  rw [effect.events, Table.mem_create] at member
  rcases member with old | same
  · refine closedResolved other old closed wasOpen alert ?_ ofOther
    rcases effect.alerts alert alertMember with inBefore | ofEvent
    · exact inBefore
    · have newId : event.id = events.newKey uuid4 := by rw [isNew]; exact keyed _
      exact absurd (ofOther.symm.trans (ofEvent.trans newId)) (Table.newKey_fresh events uuid4 old)
  · rw [same, ← isNew, isOpen] at closed
    cases closed

/-- Closing an event and resolving its alerts. -/
theorem ClosedResolved.closed {before db : Database} (closedResolved : ClosedResolved before db) {old : Event}
    (observedAt now : Int) :
    ClosedResolved before (resolveEventAlerts { db with events := closing db.events observedAt (some old) }
      (recovered observedAt old) now).1 := by
  intro event member closed wasOpen alert alertMember ofEvent
  obtain ⟨resolvedIfSame, oldAlert, oldMember, sameEvent, stays⟩ := mem_resolveEventAlerts alertMember
  by_cases same : event.id = old.id
  · exact resolvedIfSame (ofEvent.trans same)
  · have inClosing : event ∈ closing db.events observedAt (some old) := member
    rw [closing, Table.mem_modify] at inClosing
    obtain ⟨row, rowMember, changed⟩ := inClosing
    by_cases isOld : Keyed.key row = old.id
    · rw [if_pos isOld] at changed
      exact absurd ((congrArg Event.id changed).symm.trans isOld) same
    · rw [if_neg isOld] at changed
      subst changed
      exact stays (closedResolved row rowMember closed wasOpen oldAlert oldMember (sameEvent.trans ofEvent))

theorem unhealthy_ne_normal {level : String} (unhealthy : level ∈ unhealthyLevels) :
    level ≠ StorageCapacityLevel.normal.text := by
  rintro rfl
  revert unhealthy
  decide

/-- Observing the level at which the target's event is open changes nothing. -/
theorem Tracks.same {db : Database} {last : Uuid → Option String} (tracks : Tracks db last) {targetId : Uuid}
    {level : String} (unhealthy : level ∈ unhealthyLevels) {event : Event} (isOpen : OpenAt db targetId event)
    (label : event.label = some ("storage_" ++ level)) :
    Tracks db (Function.update last targetId (some level)) := by
  refine ⟨fun other => ?_, fun other event' otherOpen => ?_, tracks.single⟩
  · by_cases same : other = targetId
    · subst same
      rw [Function.update_self]
      exact ⟨fun _ => ⟨level, rfl, unhealthy_ne_normal unhealthy⟩, fun _ => ⟨event, isOpen⟩⟩
    · rw [Function.update_of_ne same]
      exact tracks.open_iff other
  · by_cases same : other = targetId
    · subst same
      rw [Function.update_self, tracks.single other event' event otherOpen isOpen]
      exact ⟨level, rfl, label⟩
    · rw [Function.update_of_ne same]
      exact tracks.labelled other event' otherOpen

/-- A new event takes the place of the target's open event. -/
theorem Tracks.opened {db after : Database} {last : Uuid → Option String} (tracks : Tracks db last)
    {targetId : Uuid} {level : String} (unhealthy : level ∈ unhealthyLevels) {new : Event}
    (label : new.label = some ("storage_" ++ level))
    (isOpen : ∀ other event, OpenAt after other event ↔
      if other = targetId then event = new else OpenAt db other event) :
    Tracks after (Function.update last targetId (some level)) := by
  refine ⟨fun other => ?_, fun other event otherOpen => ?_, fun other event event' left right => ?_⟩
  · simp only [isOpen]
    by_cases same : other = targetId
    · subst same
      rw [Function.update_self]
      exact ⟨fun _ => ⟨level, rfl, unhealthy_ne_normal unhealthy⟩, fun _ => ⟨new, by simp⟩⟩
    · rw [Function.update_of_ne same]
      simp only [same, if_false]
      exact tracks.open_iff other
  · rw [isOpen] at otherOpen
    by_cases same : other = targetId
    · subst same
      rw [if_pos rfl] at otherOpen
      rw [Function.update_self, otherOpen]
      exact ⟨level, rfl, label⟩
    · rw [if_neg same] at otherOpen
      rw [Function.update_of_ne same]
      exact tracks.labelled other event otherOpen
  · rw [isOpen] at left right
    by_cases same : other = targetId
    · rw [if_pos same] at left right
      exact left.trans right.symm
    · rw [if_neg same] at left right
      exact tracks.single other event event' left right

variable (uuid4) in
/-- Opening the event of a level, in a database whose events are those left by the closing. -/
theorem evaluateEvent_opened {before db settled : Database} {last : Uuid → Option String} {targetId : Uuid}
    {observedAt : Int} {level : String} (now : Int) (unhealthy : level ∈ unhealthyLevels)
    (tracks : Tracks db last) (readable : Readable zoneInfo settled)
    (closed : settled.events = closing db.events observedAt (openStorageHealth db targetId))
    (closedResolved : ClosedResolved before settled) :
    let make := storageHealthEvent targetId observedAt level
    let opened := settled.events.create uuid4 make (storageHealthEvent_key _ _ _)
    ∃ after result, evaluateEvent zoneInfo uuid4 { settled with events := opened }
        (make (settled.events.newKey uuid4)) now = .ok (after, result) ∧
      Tracks after (Function.update last targetId (some level)) ∧ ClosedResolved before after ∧
      Readable zoneInfo after := by
  intro make opened
  have matched : ∀ policy ∈ ({ settled with events := opened } : Database).alertPolicies,
      ∃ matched, matches_ zoneInfo policy (make (settled.events.newKey uuid4)) = .ok matched :=
    fun policy member => readable policy member _ rfl rfl
  obtain ⟨after, result, evaluated, effect⟩ := evaluateEvent_spec now rfl matched
  refine ⟨after, result, evaluated, ?_, ?_, ?_⟩
  · exact tracks.opened unhealthy rfl (openAt_opened closed (tracks.single targetId) effect.events)
  · exact ClosedResolved.opened closedResolved rfl rfl effect
  · intro policy member
    rw [effect.policies] at member
    exact readable policy member

variable (uuid4) in
/-- What recording one observation at an unhealthy level leaves. -/
theorem record_spec {before db : Database} {last : Uuid → Option String} (result : CapacityGuardResult) (now : Int)
    {observation : StorageObservation} (unhealthy : observation.level ∈ unhealthyLevels)
    (tracks : Tracks db last) (closedResolved : ClosedResolved before db) (readable : Readable zoneInfo db) :
    ∃ db' result', record zoneInfo uuid4 now (db, result) observation = .ok (db', result') ∧
      Tracks db' (Function.update last observation.targetId (some observation.level)) ∧
      ClosedResolved before db' ∧ Readable zoneInfo db' := by
  unfold record
  dsimp only
  rcases storageHealthTransition_cases db observation.targetId observation.observedAt unhealthy
    with ⟨event, found, label, unchanged⟩ | changed
  · rw [unchanged]
    exact ⟨db, result, rfl, tracks.same unhealthy (openStorageHealth_some found) label, closedResolved, readable⟩
  · rw [changed]
    dsimp only [bind, Except.bind]
    cases existing : openStorageHealth db observation.targetId with
    | none =>
      have closed : db.events = closing db.events observation.observedAt
          (openStorageHealth db observation.targetId) := by rw [existing]; rfl
      obtain ⟨after, evaluated, isOk, kept⟩ :=
        evaluateEvent_opened uuid4 now unhealthy tracks readable closed closedResolved
      exact ⟨after, _, by rw [Option.map_none, closing, isOk], kept⟩
    | some old =>
      let settled := (resolveEventAlerts
        { db with events := closing db.events observation.observedAt (some old) }
        (recovered observation.observedAt old) now).1
      have closed : settled.events = closing db.events observation.observedAt
          (openStorageHealth db observation.targetId) := by rw [existing]; rfl
      have settledResolved : ClosedResolved before settled := closedResolved.closed observation.observedAt now
      have settledReadable : Readable zoneInfo settled := readable
      obtain ⟨after, evaluated, isOk, kept⟩ :=
        evaluateEvent_opened uuid4 now unhealthy tracks settledReadable closed settledResolved
      refine ⟨after, ?result, ?equation, kept⟩
      case equation =>
        dsimp only [Option.map_some]
        erw [isOk]

/-! ## A pass -/

/-- The levels a pass has observed last, after those observed before it. -/
def lastLevels (last : Uuid → Option String) (observed : List StorageObservation) : Uuid → Option String :=
  observed.foldl (fun last observation => Function.update last observation.targetId (some observation.level)) last

theorem level_text (level : StorageCapacityLevel) :
    level.text = StorageCapacityLevel.normal.text ∨ level.text ∈ unhealthyLevels := by
  cases level <;> decide

theorem observe_level (observedAt : Int) (target : StorageTarget) :
    (observe env observedAt target).level = StorageCapacityLevel.normal.text ∨
      (observe env observedAt target).level ∈ unhealthyLevels := by
  have unavailable : "unavailable" ∈ unhealthyLevels := by decide
  unfold observe
  dsimp only
  split
  · split
    · exact .inr unavailable
    · split
      · exact .inr unavailable
      next capacity _ => exact level_text capacity.level
  · exact .inr unavailable

theorem records_spec {before : Database} (now : Int) (observed : List StorageObservation) {db : Database}
    {last : Uuid → Option String} (result : CapacityGuardResult)
    (unhealthy : ∀ observation ∈ observed, observation.level ∈ unhealthyLevels)
    (tracks : Tracks db last) (closedResolved : ClosedResolved before db) (readable : Readable zoneInfo db) :
    ∃ db' result', observed.foldlM (record zoneInfo uuid4 now) (db, result) = .ok (db', result') ∧
      Tracks db' (lastLevels last observed) ∧ ClosedResolved before db' := by
  induction observed generalizing db last result with
  | nil => exact ⟨db, result, rfl, tracks, closedResolved⟩
  | cons observation observed ih =>
    obtain ⟨middle, result', recorded, tracks', closedResolved', readable'⟩ :=
      record_spec uuid4 result now (unhealthy observation List.mem_cons_self) tracks closedResolved readable
    obtain ⟨db', result'', rest, kept⟩ := ih result'
      (fun other member => unhealthy other (List.mem_cons_of_mem _ member)) tracks' closedResolved' readable'
    exact ⟨db', result'', by rw [List.foldlM_cons, bind_eq_ok]; exact ⟨_, recorded, rest⟩, kept⟩

/-- The healthy level of `inspect` is not one of the levels of the transition. -/
theorem record_normal (acc : Database × CapacityGuardResult) (now : Int) {observation : StorageObservation}
    (normal : observation.level = StorageCapacityLevel.normal.text) :
    record zoneInfo uuid4 now acc observation = .error (.valueError "unsupported storage health level") := by
  have unsupported : lower (strip observation.level) ∉ storageHealthLevels := by
    rw [normal]
    decide
  unfold record storageHealthTransition
  dsimp only
  rw [if_pos unsupported]
  rfl

theorem records_notNormal (now : Int) {observed : List StorageObservation}
    {acc acc' : Database × CapacityGuardResult}
    (completed : observed.foldlM (record zoneInfo uuid4 now) acc = .ok acc') :
    ∀ observation ∈ observed, observation.level ≠ StorageCapacityLevel.normal.text := by
  induction observed generalizing acc with
  | nil => exact fun observation member => absurd member List.not_mem_nil
  | cons observation observed ih =>
    rw [List.foldlM_cons, bind_eq_ok] at completed
    obtain ⟨middle, recorded, rest⟩ := completed
    intro other member normal
    rcases List.mem_cons.mp member with rfl | later
    · rw [record_normal acc now normal] at recorded
      cases recorded
    · exact ih rest other later normal

theorem closedResolved_refl (db : Database) : ClosedResolved db db := by
  rintro event member closed ⟨old, oldMember, sameId, wasOpen⟩
  have same : old = event := Table.eq_of_key_eq oldMember member sameId
  rw [← same, wasOpen] at closed
  cases closed

/-- No target is observed at the healthy level, and the alert policies can be matched. -/
structure Observable (env : CapacityEnv) (zoneInfo : String → Result TimeZone) (db : Database) (observedAt : Int) :
    Prop where
  notNormal : ∀ observation ∈ observations env db observedAt,
    observation.level ≠ StorageCapacityLevel.normal.text
  readable : Readable zoneInfo db

variable (uuid4) in
theorem pass_spec {db : Database} {last : Uuid → Option String} {observedAt : Int} (now : Int)
    (observable : Observable env zoneInfo db observedAt) (tracks : Tracks db last) :
    ∃ db' result, pass env zoneInfo uuid4 db observedAt now = .ok (db', result) ∧
      Tracks db' (lastLevels last (observations env db observedAt)) ∧ ClosedResolved db db' := by
  have unhealthy : ∀ observation ∈ observations env db observedAt, observation.level ∈ unhealthyLevels := by
    intro observation member
    obtain ⟨target, _, rfl⟩ := List.mem_map.mp member
    exact (observe_level observedAt target).resolve_left (observable.notNormal _ member)
  exact records_spec now _ _ unhealthy tracks (closedResolved_refl db) observable.readable

/-! ## Runs -/

/-- What a guard pass meets: the catalog as it is by then, the machine, and the clock. -/
structure GuardPass where
  found : Database
  env : CapacityEnv
  observedAt : Int
  now : Int

/-- The catalog and the level every target was last observed at. -/
structure GuardState where
  db : Database
  last : Uuid → Option String

/-- Whatever happens between two passes leaves the open health events. -/
def SameOpenHealth (db db' : Database) : Prop := ∀ targetId event, OpenAt db' targetId event ↔ OpenAt db targetId event

def GuardPass.observed (guard : GuardPass) : List StorageObservation :=
  observations guard.env guard.found guard.observedAt

/-- One guard pass; one that raises is rolled back. -/
def GuardStep (zoneInfo : String → Result TimeZone) (uuid4 : Supply Uuid) (state : GuardState) (guard : GuardPass)
    (state' : GuardState) : Prop :=
  SameOpenHealth state.db guard.found ∧ state'.last = lastLevels state.last guard.observed ∧
    match pass guard.env zoneInfo uuid4 guard.found guard.observedAt guard.now with
    | .ok (db, _) => state'.db = db
    | .error _ => state'.db = guard.found

theorem Tracks.congr {db db' : Database} {last : Uuid → Option String} (tracks : Tracks db last)
    (same : SameOpenHealth db db') : Tracks db' last := by
  refine ⟨fun targetId => ?_, fun targetId event isOpen => ?_, fun targetId event event' left right => ?_⟩
  · simp only [same targetId]
    exact tracks.open_iff targetId
  · exact tracks.labelled targetId event ((same targetId event).mp isOpen)
  · exact tracks.single targetId event event' ((same targetId event).mp left) ((same targetId event').mp right)

/-- A guard pass that observes no healthy target. -/
def ObservableStep (zoneInfo : String → Result TimeZone) (uuid4 : Supply Uuid) (state : GuardState)
    (guard : GuardPass) (state' : GuardState) : Prop :=
  GuardStep zoneInfo uuid4 state guard state' ∧ Observable guard.env zoneInfo guard.found guard.observedAt

theorem observableStep_tracks (state : GuardState) (guard : GuardPass) (state' : GuardState)
    (tracks : Tracks state.db state.last) (step : ObservableStep zoneInfo uuid4 state guard state') :
    Tracks state'.db state'.last := by
  obtain ⟨⟨same, last, outcome⟩, observable⟩ := step
  obtain ⟨db', result, passed, tracks', _⟩ := pass_spec uuid4 guard.now observable (tracks.congr same)
  rw [passed] at outcome
  rw [last, outcome]
  exact tracks'

/-- In every run whose passes observe no target at the healthy level and can match the stored alert
    policies, the open health events follow the last observed levels; the next such pass completes and
    leaves the alerts of the events it closes resolved, and a pass that does observe the healthy level
    raises. -/
theorem guardRun_faithful {start state : GuardState} {guards : List GuardPass}
    (run : Run (ObservableStep zoneInfo uuid4) start guards state)
    (startTracks : Tracks start.db start.last) :
    Tracks state.db state.last ∧
    (∀ guard : GuardPass, SameOpenHealth state.db guard.found →
      Observable guard.env zoneInfo guard.found guard.observedAt →
      ∃ db result, pass guard.env zoneInfo uuid4 guard.found guard.observedAt guard.now = .ok (db, result) ∧
        Tracks db (lastLevels state.last guard.observed) ∧ ClosedResolved guard.found db) ∧
    ∀ guard : GuardPass, (∃ observation ∈ guard.observed, observation.level = StorageCapacityLevel.normal.text) →
      ∀ outcome, pass guard.env zoneInfo uuid4 guard.found guard.observedAt guard.now ≠ .ok outcome := by
  have tracks : Tracks state.db state.last := Run.invariant observableStep_tracks run startTracks
  refine ⟨tracks, fun guard same observable => ?_, fun guard normal outcome completed => ?_⟩
  · exact pass_spec uuid4 guard.now observable (tracks.congr same)
  · obtain ⟨observation, member, isNormal⟩ := normal
    exact records_notNormal guard.now completed observation member isNormal

/-- A catalog with one target under `/data`. -/
def oneTarget (config : Dict) : Database :=
  { storageTargets := ⟨[{ id := 1, type := .local, role := .recording, config }], List.nodup_singleton _⟩ }

/-- A machine whose file systems are a tenth full. -/
def nearlyEmpty : CapacityEnv where
  statvfs _ := some { blocks := 100, available := 90, fragmentSize := 4096 }
  percent used total := used / total * 100

/-- A pass over a healthy target raises: "normal" is no level of the transition. -/
theorem guard_raises_when_healthy :
    (observations nearlyEmpty (oneTarget [("path", .str "/data")]) 0).map StorageObservation.level = ["normal"] ∧
    ∀ uuid4 : Supply Uuid, pass nearlyEmpty RecordingPolicyService.utcOnly uuid4
      (oneTarget [("path", .str "/data")]) 0 0 = .error (.valueError "unsupported storage health level") := by
  have levels : (observations nearlyEmpty (oneTarget [("path", .str "/data")]) 0).map StorageObservation.level =
      ["normal"] := by decide +kernel
  refine ⟨levels, fun uuid4 => ?_⟩
  obtain ⟨observation, isOnly, normal⟩ := List.map_eq_singleton_iff.mp levels
  unfold pass
  dsimp only
  rw [isOnly, List.foldlM_cons, record_normal _ _ normal]
  rfl

/-- A pass over a target without a path, in a catalog without alert policies. -/
def unconfiguredPass : GuardPass where
  found := oneTarget []
  env := nearlyEmpty
  observedAt := 0
  now := 0

/-- The first pass over that target opens an event, which the next one finds. -/
theorem guardRun_faithful_unconfigured : ∃ state : GuardState,
    Run (ObservableStep RecordingPolicyService.utcOnly .counting) ⟨{}, fun _ => none⟩ [unconfiguredPass] state ∧
      state.last 1 = some "unavailable" ∧ Tracks state.db state.last := by
  have levels : unconfiguredPass.observed.map StorageObservation.level = ["unavailable"] := by decide +kernel
  have observable : Observable unconfiguredPass.env RecordingPolicyService.utcOnly unconfiguredPass.found
      unconfiguredPass.observedAt := by
    refine ⟨fun observation member => ?_, fun policy member => absurd member (Table.not_mem_empty policy)⟩
    have level : observation.level ∈ unconfiguredPass.observed.map StorageObservation.level :=
      List.mem_map_of_mem member
    rw [levels, List.mem_singleton] at level
    rw [level]
    decide
  have startTracks : Tracks ({} : Database) fun _ => none := by
    have none_open (targetId : Uuid) (event : Event) : ¬ OpenAt {} targetId event :=
      fun isOpen => absurd isOpen.1 (Table.not_mem_empty event)
    refine ⟨fun targetId => ?_, fun targetId event isOpen => absurd isOpen (none_open _ _),
      fun targetId event _ isOpen => absurd isOpen (none_open _ _)⟩
    simp [none_open]
  have same : SameOpenHealth {} unconfiguredPass.found := fun _ _ => Iff.rfl
  obtain ⟨db, result, passed, -⟩ := pass_spec .counting unconfiguredPass.now observable (startTracks.congr same)
  have step : GuardStep RecordingPolicyService.utcOnly .counting ⟨{}, fun _ => none⟩ unconfiguredPass
      ⟨db, lastLevels (fun _ => none) unconfiguredPass.observed⟩ := ⟨same, rfl, by rw [passed]⟩
  have run : Run (ObservableStep RecordingPolicyService.utcOnly .counting) _ [unconfiguredPass] _ :=
    .next ⟨step, observable⟩ (.done _)
  exact ⟨_, run, rfl, (guardRun_faithful run startTracks).1⟩

end ZeroNvr.CapacityGuard
