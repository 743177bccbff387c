import ZeroNvr.Alerts.Service
import ZeroNvr.Lib.Run

/-! # Alert cooldown

The alerts of a policy for one camera are a cooldown apart, as long as no event
is evaluated after one that starts at the same instant or less than a cooldown
later has opened an alert: the cooldown only looks at events that start earlier.
-/

namespace ZeroNvr.AlertEvaluationService

open Lib

variable {zoneInfo : String → Result TimeZone} {uuid4 : Supply Uuid} {policyId : Uuid} {cooldown : Nat}

/-! ## Runs -/

inductive CooldownAction where
  | evaluate (event : Event) (now : Int)
  | elsewhere

/-- Whatever else happens: events come, change and go, alerts are acknowledged, resolved and deleted,
    the policy keeps its cooldown. -/
structure Elsewhere (policyId : Uuid) (cooldown : Nat) (db db' : Database) : Prop where
  alerts : ∀ alert ∈ db'.alerts, alert.policyId = some policyId → ∃ old ∈ db.alerts, old.id = alert.id ∧
    old.policyId = some policyId ∧ old.eventId = alert.eventId ∧ old.cameraId = alert.cameraId
  policy : ∀ policy ∈ db'.alertPolicies, policy.id = policyId → policy.cooldownSeconds = cooldown

inductive CooldownStep (zoneInfo : String → Result TimeZone) (uuid4 : Supply Uuid) (policyId : Uuid)
    (cooldown : Nat) : Database → CooldownAction → Database → Prop
  | evaluate {db db' : Database} {event : Event} {now : Int} {result : AlertEvaluationResult}
      (stored : db.events.get? event.id = some event)
      (done : evaluateEvent zoneInfo uuid4 db event now = .ok (db', result)) :
      CooldownStep zoneInfo uuid4 policyId cooldown db (.evaluate event now) db'
  | elsewhere {db db' : Database} (others : Elsewhere policyId cooldown db db') :
      CooldownStep zoneInfo uuid4 policyId cooldown db .elsewhere db'

/-- The alert of the policy and the camera belongs to an event that starts in `[first, last)`. -/
def AlertedWithin (policyId : Uuid) (db : Database) (cameraId : Option Uuid) (first last : Int) : Prop :=
  ∃ alert ∈ db.alerts, alert.policyId = some policyId ∧ alert.cameraId = cameraId ∧
    ∃ event, db.events.get? alert.eventId = some event ∧ first ≤ event.startedAt ∧ event.startedAt < last

/-- The event has an alert of the policy. -/
def Alerted (policyId : Uuid) (db : Database) (event : Event) : Prop :=
  ∃ alert ∈ db.alerts, alert.policyId = some policyId ∧ alert.eventId = event.id

/-- An event that gets to open an alert comes after all that have opened one near it; and an event that
    has an alert keeps its start. -/
def MeetsCooldown (zoneInfo : String → Result TimeZone) (policyId : Uuid) (cooldown : Nat)
    (db db' : Database) : CooldownAction → Prop
  | .evaluate event _ => ∀ policy ∈ db.alertPolicies, policy.id = policyId →
      matches_ zoneInfo policy event = .ok true → ¬ Alerted policyId db event →
      ¬ AlertedWithin policyId db event.cameraId (event.startedAt - seconds cooldown) event.startedAt →
      ¬ AlertedWithin policyId db event.cameraId event.startedAt (event.startedAt + seconds cooldown)
  | .elsewhere => ∀ alert ∈ db'.alerts, alert.policyId = some policyId → ∀ event',
      db'.events.get? alert.eventId = some event' →
      ∃ event, db.events.get? alert.eventId = some event ∧ event.startedAt = event'.startedAt

def OrderedStep (zoneInfo : String → Result TimeZone) (uuid4 : Supply Uuid) (policyId : Uuid) (cooldown : Nat)
    (db : Database) (action : CooldownAction) (db' : Database) : Prop :=
  CooldownStep zoneInfo uuid4 policyId cooldown db action db' ∧ MeetsCooldown zoneInfo policyId cooldown db db' action

/-! ## The invariant -/

/-- Two alerts of the policy for one camera belong to events a cooldown apart; no event has two. -/
structure Spaced (policyId : Uuid) (cooldown : Nat) (db : Database) : Prop where
  apart : ∀ alert ∈ db.alerts, ∀ other ∈ db.alerts, alert.policyId = some policyId → other.policyId = some policyId →
    alert.cameraId = other.cameraId → alert ≠ other → ∀ event event', db.events.get? alert.eventId = some event →
    db.events.get? other.eventId = some event' → seconds cooldown ≤ |event.startedAt - event'.startedAt|
  once : ∀ alert ∈ db.alerts, ∀ other ∈ db.alerts, alert.policyId = some policyId → other.policyId = some policyId →
    alert.eventId = other.eventId → alert = other

theorem cooldownBlocked_iff {db : Database} {policy : AlertPolicy} {event : Event}
    (positive : 0 < policy.cooldownSeconds) :
    cooldownBlocked db policy event = true ↔ AlertedWithin policy.id db event.cameraId
      (event.startedAt - seconds policy.cooldownSeconds) event.startedAt := by
  simp only [cooldownBlocked, decide_eq_true_eq, List.any_eq_true, Option.any_eq_true, AlertedWithin, positive,
    true_and, Table.mem_def]

/-! ## One policy -/

/-- The alert a policy opens joins those there are; nothing else of the events and alerts changes. -/
theorem evaluatePolicy_alerts {event : Event} {now : Int} {acc acc' : Database × AlertEvaluationResult}
    {policy : AlertPolicy} (done : evaluatePolicy zoneInfo uuid4 event now acc policy = .ok acc') :
    acc' = acc ∨ (matches_ zoneInfo policy event = .ok true ∧ ¬ Alerted policy.id acc.1 event ∧
      cooldownBlocked acc.1 policy event = false ∧ acc'.1.events = acc.1.events ∧
      ∀ alert, alert ∈ acc'.1.alerts ↔
        alert ∈ acc.1.alerts ∨ alert = openedAlert policy event (acc.1.alerts.newKey uuid4)) := by
  rcases evaluatePolicy_cases done with same | ⟨isMatch, noAlert, unblocked, deliveries, isProtected⟩
  · exact .inl same
  · obtain ⟨protections, changed⟩ := protect_frame isProtected
    have created := fun alert =>
      @Table.mem_create _ _ _ acc.1.alerts uuid4 (openedAlert policy event) (fun _ => rfl) alert
    refine .inr ⟨isMatch, ?_, unblocked, by rw [changed], by rw [changed]; exact created⟩
    rintro ⟨alert, member, isPolicy, isEvent⟩
    exact noAlert alert member isPolicy isEvent

/-- The policies evaluated so far: the alerts of the policy are those of before and at most one of the event. -/
structure Opening (policyId : Uuid) (cooldown : Nat) (db : Database) (event : Event) (soFar : Database) : Prop where
  events : soFar.events = db.events
  kept : ∀ alert ∈ db.alerts, alert ∈ soFar.alerts
  opened : ∀ alert ∈ soFar.alerts, alert.policyId = some policyId → alert ∈ db.alerts ∨ alert.eventId = event.id
  spaced : Spaced policyId cooldown soFar

/-- An alert of another policy is none of the policy's. -/
theorem Opening.other {db soFar after : Database} {event : Event} (opening : Opening policyId cooldown db event soFar)
    {policy : AlertPolicy} (differs : policy.id ≠ policyId) (sameEvents : after.events = soFar.events)
    (created : ∀ alert, alert ∈ after.alerts ↔
      alert ∈ soFar.alerts ∨ alert = openedAlert policy event (soFar.alerts.newKey uuid4)) :
    Opening policyId cooldown db event after := by
  have old : ∀ alert ∈ after.alerts, alert.policyId = some policyId → alert ∈ soFar.alerts := by
    intro alert member isPolicy
    rw [created] at member
    rcases member with member | rfl
    · exact member
    · exact absurd (Option.some.inj isPolicy) differs
  refine ⟨sameEvents.trans opening.events, fun alert member => ?_, fun alert member isPolicy => ?_, ⟨?_, ?_⟩⟩
  · rw [created]
    exact .inl (opening.kept alert member)
  · exact opening.opened alert (old alert member isPolicy) isPolicy
  · intro alert member other otherMember isPolicy otherPolicy
    rw [sameEvents]
    exact opening.spaced.apart alert (old alert member isPolicy) other (old other otherMember otherPolicy) isPolicy
      otherPolicy
  · intro alert member other otherMember isPolicy otherPolicy
    exact opening.spaced.once alert (old alert member isPolicy) other (old other otherMember otherPolicy) isPolicy
      otherPolicy

/-- Starts that are not within a cooldown of each other are a cooldown apart. -/
theorem apart_of_not_within {db : Database} {event event' : Event} {alert : Alert} (member : alert ∈ db.alerts)
    (isPolicy : alert.policyId = some policyId) (isCamera : alert.cameraId = event.cameraId)
    (found : db.events.get? alert.eventId = some event')
    (earlier : ¬ AlertedWithin policyId db event.cameraId (event.startedAt - seconds cooldown) event.startedAt)
    (later : ¬ AlertedWithin policyId db event.cameraId event.startedAt (event.startedAt + seconds cooldown)) :
    seconds cooldown ≤ |event.startedAt - event'.startedAt| := by
  have notEarlier : ¬ (event.startedAt - seconds cooldown ≤ event'.startedAt ∧ event'.startedAt < event.startedAt) :=
    fun within => earlier ⟨alert, member, isPolicy, isCamera, event', found, within⟩
  have notLater : ¬ (event.startedAt ≤ event'.startedAt ∧ event'.startedAt < event.startedAt + seconds cooldown) :=
    fun within => later ⟨alert, member, isPolicy, isCamera, event', found, within⟩
  rcases lt_or_ge event'.startedAt event.startedAt with before | after
  · exact le_trans (by omega) (le_abs_self _)
  · exact le_trans (by omega) (neg_le_abs _)

/-- The alert of the policy itself is a cooldown apart from the others. -/
theorem Opening.own {db soFar after : Database} {event : Event} (opening : Opening policyId cooldown db event soFar)
    (stored : db.events.get? event.id = some event) {policy : AlertPolicy} (sameEvents : after.events = soFar.events)
    (created : ∀ alert, alert ∈ after.alerts ↔
      alert ∈ soFar.alerts ∨ alert = openedAlert policy event (soFar.alerts.newKey uuid4))
    (noAlert : ¬ Alerted policyId soFar event)
    (earlier : ¬ AlertedWithin policyId soFar event.cameraId (event.startedAt - seconds cooldown) event.startedAt)
    (later : ¬ AlertedWithin policyId soFar event.cameraId event.startedAt (event.startedAt + seconds cooldown)) :
    Opening policyId cooldown db event after := by
  have isStored : after.events.get? event.id = some event := by rw [sameEvents, opening.events, stored]
  have newApart : ∀ alert ∈ soFar.alerts, alert.policyId = some policyId → alert.cameraId = event.cameraId →
      ∀ event' event'', after.events.get? event.id = some event' → after.events.get? alert.eventId = some event'' →
      seconds cooldown ≤ |event'.startedAt - event''.startedAt| := by
    intro alert member isPolicy isCamera event' event'' found found'
    rw [isStored] at found
    cases found
    rw [sameEvents] at found'
    exact apart_of_not_within member isPolicy isCamera found' earlier later
  refine ⟨sameEvents.trans opening.events, fun alert member => ?_, fun alert member isPolicy => ?_, ⟨?_, ?_⟩⟩
  · rw [created]
    exact .inl (opening.kept alert member)
  · rcases (created alert).mp member with old | rfl
    · exact opening.opened alert old isPolicy
    · exact .inr rfl
  · intro alert member other otherMember isPolicy otherPolicy sameCamera differs event' event'' found found'
    rcases (created alert).mp member with old | rfl
    · rcases (created other).mp otherMember with otherOld | rfl
      · rw [sameEvents] at found found'
        exact opening.spaced.apart alert old other otherOld isPolicy otherPolicy sameCamera differs event' event''
          found found'
      · rw [abs_sub_comm]
        exact newApart alert old isPolicy sameCamera event'' event' found' found
    · rcases (created other).mp otherMember with otherOld | rfl
      · exact newApart other otherOld otherPolicy sameCamera.symm event' event'' found found'
      · exact absurd rfl differs
  · intro alert member other otherMember isPolicy otherPolicy sameEvent
    rcases (created alert).mp member with old | rfl
    · rcases (created other).mp otherMember with otherOld | rfl
      · exact opening.spaced.once alert old other otherOld isPolicy otherPolicy sameEvent
      · exact absurd ⟨alert, old, isPolicy, sameEvent⟩ noAlert
    · rcases (created other).mp otherMember with otherOld | rfl
      · exact absurd ⟨other, otherOld, otherPolicy, sameEvent.symm⟩ noAlert
      · rfl

/-- As long as the event has no alert, the alerts of the policy are those of before. -/
theorem Opening.within {db soFar : Database} {event : Event} (opening : Opening policyId cooldown db event soFar)
    (noAlert : ¬ Alerted policyId soFar event) (cameraId : Option Uuid) (first last : Int) :
    AlertedWithin policyId soFar cameraId first last ↔ AlertedWithin policyId db cameraId first last := by
  unfold AlertedWithin
  rw [opening.events]
  constructor
  · rintro ⟨alert, member, isPolicy, within⟩
    rcases opening.opened alert member isPolicy with old | ofEvent
    · exact ⟨alert, old, isPolicy, within⟩
    · exact absurd ⟨alert, member, isPolicy, ofEvent⟩ noAlert
  · rintro ⟨alert, member, within⟩
    exact ⟨alert, opening.kept alert member, within⟩

theorem Opening.evaluatePolicy {db : Database} {event : Event} {now : Int} {acc acc' : Database × AlertEvaluationResult}
    {policy : AlertPolicy} (positive : 0 < cooldown)
    (isCooldown : policy.id = policyId → policy.cooldownSeconds = cooldown)
    (stored : db.events.get? event.id = some event) (member : policy ∈ db.alertPolicies)
    (meets : ∀ db', MeetsCooldown zoneInfo policyId cooldown db db' (.evaluate event now))
    (opening : Opening policyId cooldown db event acc.1)
    (done : evaluatePolicy zoneInfo uuid4 event now acc policy = .ok acc') :
    Opening policyId cooldown db event acc'.1 := by
  rcases evaluatePolicy_alerts done with rfl | ⟨isMatch, noAlert, unblocked, sameEvents, created⟩
  · exact opening
  by_cases same : policy.id = policyId
  · have isCooldown := isCooldown same
    have earlier : ¬ AlertedWithin policyId acc.1 event.cameraId (event.startedAt - seconds cooldown) event.startedAt := by
      rw [← same, ← isCooldown, ← cooldownBlocked_iff (isCooldown ▸ positive), unblocked]
      exact Bool.false_ne_true
    rw [same] at noAlert
    have noneBefore : ¬ Alerted policyId db event := by
      rintro ⟨alert, old, ofPolicyEvent⟩
      exact noAlert ⟨alert, opening.kept alert old, ofPolicyEvent⟩
    have later := meets db policy member same isMatch noneBefore ((opening.within noAlert _ _ _).not.mp earlier)
    exact opening.own stored sameEvents created noAlert earlier ((opening.within noAlert _ _ _).not.mpr later)
  · exact opening.other same sameEvents created

/-! ## Runs -/

theorem Spaced.evaluateEvent {db : Database} {event : Event} {now : Int} {acc' : Database × AlertEvaluationResult}
    (positive : 0 < cooldown)
    (isCooldown : ∀ policy ∈ db.alertPolicies, policy.id = policyId → policy.cooldownSeconds = cooldown)
    (stored : db.events.get? event.id = some event)
    (meets : ∀ db', MeetsCooldown zoneInfo policyId cooldown db db' (.evaluate event now))
    (spaced : Spaced policyId cooldown db) (done : evaluateEvent zoneInfo uuid4 db event now = .ok acc') :
    Spaced policyId cooldown acc'.1 := by
  unfold AlertEvaluationService.evaluateEvent at done
  split at done
  · cases done
    exact spaced
  · have step : ∀ acc, ∀ policy ∈ (db.alertPolicies.select AlertPolicy.enabled).insertionSort
        (fun left right => left.id ≤ right.id), ∀ acc', Opening policyId cooldown db event acc.1 →
        evaluatePolicy zoneInfo uuid4 event now acc policy = .ok acc' → Opening policyId cooldown db event acc'.1 := by
      intro acc policy member acc' opening evaluated
      rw [List.mem_insertionSort, Table.mem_select] at member
      exact opening.evaluatePolicy positive (isCooldown policy member.1) stored member.1 meets evaluated
    have start : Opening policyId cooldown db event db :=
      ⟨rfl, fun _ member => member, fun _ member _ => .inl member, spaced⟩
    exact (@foldlM_invariant _ _ _ _ (fun acc => Opening policyId cooldown db event acc.1) _ step _ _ start done).spaced

theorem Spaced.elsewhere {db db' : Database} (others : Elsewhere policyId cooldown db db')
    (meets : MeetsCooldown zoneInfo policyId cooldown db db' .elsewhere) (spaced : Spaced policyId cooldown db) :
    Spaced policyId cooldown db' := by
  refine ⟨?_, ?_⟩
  · intro alert member other otherMember isPolicy otherPolicy sameCamera differs event' event'' found found'
    obtain ⟨old, oldMember, sameId, oldPolicy, sameEvent, oldCamera⟩ := others.alerts alert member isPolicy
    obtain ⟨old', oldMember', sameId', oldPolicy', sameEvent', oldCamera'⟩ := others.alerts other otherMember otherPolicy
    obtain ⟨event, isEvent, sameStart⟩ := meets alert member isPolicy event' found
    obtain ⟨other', isOther, sameStart'⟩ := meets other otherMember otherPolicy event'' found'
    rw [← sameStart, ← sameStart']
    refine spaced.apart old oldMember old' oldMember' oldPolicy oldPolicy' ?_ ?_ event other' ?_ ?_
    · rw [oldCamera, oldCamera', sameCamera]
    · rintro rfl
      exact differs (Table.eq_of_key_eq member otherMember (sameId.symm.trans sameId'))
    · rw [sameEvent, isEvent]
    · rw [sameEvent', isOther]
  · intro alert member other otherMember isPolicy otherPolicy sameEvents
    obtain ⟨old, oldMember, sameId, oldPolicy, sameEvent, _⟩ := others.alerts alert member isPolicy
    obtain ⟨old', oldMember', sameId', oldPolicy', sameEvent', _⟩ := others.alerts other otherMember otherPolicy
    have same : old = old' := spaced.once old oldMember old' oldMember' oldPolicy oldPolicy'
      (sameEvent.trans (sameEvents.trans sameEvent'.symm))
    subst same
    exact Table.eq_of_key_eq member otherMember (sameId.symm.trans sameId')

/-- The policy has its cooldown and its alerts keep it. -/
structure Cooling (policyId : Uuid) (cooldown : Nat) (db : Database) : Prop where
  policy : ∀ policy ∈ db.alertPolicies, policy.id = policyId → policy.cooldownSeconds = cooldown
  spaced : Spaced policyId cooldown db

theorem Cooling.step {db db' : Database} {action : CooldownAction} (positive : 0 < cooldown)
    (cooling : Cooling policyId cooldown db) (step : OrderedStep zoneInfo uuid4 policyId cooldown db action db') :
    Cooling policyId cooldown db' := by
  obtain ⟨step, meets⟩ := step
  cases step with
  | evaluate stored done =>
    obtain ⟨_, _, _, rfl⟩ := evaluateEvent_frame done
    exact ⟨cooling.policy, cooling.spaced.evaluateEvent positive cooling.policy stored (fun _ => meets) done⟩
  | elsewhere others => exact ⟨others.policy, cooling.spaced.elsewhere others meets⟩

/-- Evaluated in order, the alerts of a policy keep its cooldown. -/
theorem alerts_keep_cooldown {db db' : Database} {actions : List CooldownAction} (positive : 0 < cooldown)
    (isCooldown : ∀ policy ∈ db.alertPolicies, policy.id = policyId → policy.cooldownSeconds = cooldown)
    (noAlerts : ∀ alert ∈ db.alerts, alert.policyId ≠ some policyId)
    (run : Run (OrderedStep zoneInfo uuid4 policyId cooldown) db actions db') : Spaced policyId cooldown db' := by
  have start : Cooling policyId cooldown db :=
    ⟨isCooldown, fun alert member _ _ isPolicy => absurd isPolicy (noAlerts alert member),
      fun alert member _ _ isPolicy => absurd isPolicy (noAlerts alert member)⟩
  exact (run.invariant (fun _ _ _ cooling step => cooling.step positive step) start).spaced

/-! ## An event that comes late -/

def utcOnly (_ : String) : Result TimeZone := .ok (.fixed 0)

/-- The catalog after a detection at 100 s; the detection at 90 s is filled in later. -/
def detection (id : Uuid) (startedAt : Int) : Event :=
  { id, source := "frigate", cameraId := some 5, category := "detection", startedAt := seconds startedAt }

def coolingCatalog : Database := {
  events := ⟨[detection 1 100, detection 2 90, detection 3 400], by decide⟩
  alertPolicies := ⟨[{ id := 8, cooldownSeconds := 60 }], by decide⟩ }

/-- The alert of the policy for the event. -/
def coolingAlert (id eventId : Uuid) : Alert :=
  { id, policyId := some 8, eventId, cameraId := some 5, severity := "info", state := .open }

def oneAlert : Database := { coolingCatalog with alerts := ⟨[coolingAlert 1 1], by decide⟩ }

theorem late_event_breaks_cooldown : ∃ actions db',
    Run (CooldownStep utcOnly Supply.counting 8 60) coolingCatalog actions db' ∧ ¬ Spaced 8 60 db' := by
  let twoAlerts : Database := { coolingCatalog with alerts := ⟨[coolingAlert 1 1, coolingAlert 2 2], by decide⟩ }
  have first : CooldownStep utcOnly Supply.counting 8 60 coolingCatalog (.evaluate (detection 1 100) 0) oneAlert :=
    @CooldownStep.evaluate _ _ _ _ _ _ _ _ ⟨[1], []⟩ rfl rfl
  have second : CooldownStep utcOnly Supply.counting 8 60 oneAlert (.evaluate (detection 2 90) 0) twoAlerts :=
    @CooldownStep.evaluate _ _ _ _ _ _ _ _ ⟨[2], []⟩ rfl rfl
  refine ⟨_, twoAlerts, .next first (.next second (.done _)), fun spaced => ?_⟩
  have apart := spaced.apart (coolingAlert 1 1) (List.mem_cons_self) (coolingAlert 2 2)
    (List.mem_cons_of_mem _ List.mem_cons_self) rfl rfl rfl (by intro same; cases same) (detection 1 100) (detection 2 90)
    rfl rfl
  revert apart
  decide

/-- A second detection in order, past the cooldown. -/
theorem alerts_keep_cooldown_in_order : ∃ db', (coolingAlert 2 3) ∈ db'.alerts ∧ Spaced 8 60 db' := by
  let twoAlerts : Database := { coolingCatalog with alerts := ⟨[coolingAlert 1 1, coolingAlert 2 3], by decide⟩ }
  have first : CooldownStep utcOnly Supply.counting 8 60 coolingCatalog (.evaluate (detection 1 100) 0) oneAlert :=
    @CooldownStep.evaluate _ _ _ _ _ _ _ _ ⟨[1], []⟩ rfl rfl
  have second : CooldownStep utcOnly Supply.counting 8 60 oneAlert (.evaluate (detection 3 400) 0) twoAlerts :=
    @CooldownStep.evaluate _ _ _ _ _ _ _ _ ⟨[2], []⟩ rfl rfl
  have firstMeets : MeetsCooldown utcOnly 8 60 coolingCatalog oneAlert (.evaluate (detection 1 100) 0) := by
    rintro policy - - - - - ⟨alert, member, _⟩
    cases member
  have secondMeets : MeetsCooldown utcOnly 8 60 oneAlert twoAlerts (.evaluate (detection 3 400) 0) := by
    rintro policy - - - - - ⟨alert, member, -, -, event, found, later, -⟩
    obtain rfl : alert = coolingAlert 1 1 := List.mem_singleton.mp member
    obtain rfl : detection 1 100 = event := Option.some.inj found
    revert later
    decide
  refine ⟨twoAlerts, List.mem_cons_of_mem _ List.mem_cons_self, alerts_keep_cooldown (by decide) ?_ ?_
    (.next ⟨first, firstMeets⟩ (.next ⟨second, secondMeets⟩ (.done _)))⟩
  · intro policy member _
    rw [List.mem_singleton.mp member]
  · intro alert member
    cases member

end ZeroNvr.AlertEvaluationService
