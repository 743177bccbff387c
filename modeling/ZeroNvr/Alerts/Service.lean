import ZeroNvr.Core.UuidText
import ZeroNvr.Lib.Outcome
import ZeroNvr.Recordings.Policy

/-! # Alert evaluation

An event opens an alert for every enabled policy it matches, once, outside the
policy's cooldown.  Titles and bodies of alerts and deliveries are left out.
-/

namespace ZeroNvr

open Lib

/-- `int(value)` with 0 for a missing value. -/
def Json.toInt : Option Json → Result Int
  | none => .ok 0
  | some (.int value) => .ok value
  | some (.bool value) => .ok (if value then 1 else 0)
  | some (.float value) => .ok (if value < 0 then ⌈value⌉ else ⌊value⌋)
  | some (.str text) =>
    match (strip text).toInt? with
    | some value => .ok value
    | none => .error (.valueError "invalid literal for int() with base 10")
  | some _ => .error (.typeError "int() argument must be a string or a real number")

/-- `uuid.UUID(text)`. -/
def uuidOfText (text : String) : Option Uuid := (UUID.parse text.toList).map UUID.int

structure AlertEvaluationResult where
  alerts : List Uuid
  deliveryIds : List Uuid

namespace AlertEvaluationService

/-! ## Matching -/

variable (zoneInfo : String → Result TimeZone)

def timeMatch (matchJson : Dict) (event : Event) : Result Bool :=
  match Dict.get matchJson "timezone" with
  | some (.str timezone) => do
    let zone ← zoneInfo timezone
    let local_ := (zone.astimezone event.startedAt).wall
    let rightDay : Bool := match Dict.get matchJson "weekdays" with
      | some (.arr weekdays) => weekdays.any fun item =>
          item.number? = some ((weekday (WallClock.date local_) : Int) : ℚ)
      | _ => true
    if ¬ rightDay then .ok false
    else match Dict.get matchJson "time_start", Dict.get matchJson "time_end" with
    | some (.str startRaw), some (.str endRaw) => do
      let start ← RecordingPolicyService.timeFromisoformat startRaw
      let end_ ← RecordingPolicyService.timeFromisoformat endRaw
      let current := (WallClock.time local_).micros
      if start.micros < end_.micros then .ok (decide (start.micros ≤ current ∧ current < end_.micros))
      else .ok (decide (start.micros ≤ current ∨ current < end_.micros))
    | _, _ => .ok true
  | _ => .ok true

/-- A list under `key` does not contain the value. -/
def excluded (matchJson : Dict) (key : String) (value : Json) : Bool :=
  match Dict.get matchJson key with
  | some (.arr allowed) => !allowed.any (· == value)
  | _ => false

def belowConfidence (matchJson : Dict) (event : Event) : Bool :=
  match (Dict.get matchJson "min_confidence").bind Json.number? with
  | some minimum => event.confidence.all fun confidence => confidence < minimum
  | none => false

def belowDuration (matchJson : Dict) (event : Event) : Bool :=
  match (Dict.get matchJson "min_duration_seconds").bind Json.number? with
  | some minimum => event.endedAt.all fun ended => ((ended - event.startedAt : Int) : ℚ) / 1000000 < minimum
  | none => false

def cameraExcluded (matchJson : Dict) (event : Event) : Bool :=
  match Dict.get matchJson "camera_ids", event.cameraId with
  | some (.arr cameraIds), some cameraId => !cameraIds.any (· == .str (UUID.text cameraId))
  | some (.arr _), none => true
  | _, _ => false

def matches_ (policy : AlertPolicy) (event : Event) : Result Bool :=
  if ¬ policy.enabled then .ok false
  else if cameraExcluded policy.matchJson event then .ok false
  else if excluded policy.matchJson "sources" (.str event.source) then .ok false
  else if excluded policy.matchJson "categories" (.str event.category) then .ok false
  else if excluded policy.matchJson "labels" (.ofText event.label) then .ok false
  else if excluded policy.matchJson "zones" (.ofText event.zone) then .ok false
  else if excluded policy.matchJson "severities" (.ofText event.severity) then .ok false
  else if belowConfidence policy.matchJson event then .ok false
  else if belowDuration policy.matchJson event then .ok false
  else timeMatch zoneInfo policy.matchJson event

/-- An earlier event of the same camera has opened an alert of the policy a short time ago. -/
def cooldownBlocked (db : Database) (policy : AlertPolicy) (event : Event) : Bool :=
  0 < policy.cooldownSeconds ∧ db.alerts.rows.any fun alert =>
    alert.policyId = some policy.id ∧ alert.cameraId = event.cameraId ∧
      (db.events.get? alert.eventId).any fun earlier =>
        event.startedAt - seconds policy.cooldownSeconds ≤ earlier.startedAt ∧
          earlier.startedAt < event.startedAt

/-! ## Opening and resolving alerts -/

variable (uuid4 : Supply Uuid)

/-- The deliveries of an alert to the enabled targets of its policy. -/
def createDeliveries (alertId : Uuid) : List Json → Database × List Uuid → Database × List Uuid
  | [], acc => acc
  | rawTarget :: rest, (db, deliveryIds) =>
    let target := match rawTarget with
      | .str text => ((uuidOfText text).bind db.notificationTargets.get?).filter NotificationTarget.enabled
      | _ => none
    match target with
    | none => createDeliveries alertId rest (db, deliveryIds)
    | some target =>
      let deliveries := db.deliveries.create uuid4 fun id =>
        { id, alertId := some alertId, notificationTargetId := target.id }
      createDeliveries alertId rest
        ({ db with deliveries }, deliveryIds ++ [db.deliveries.newKey uuid4])

/-- The recording protection an alert asks for. -/
def protect (db : Database) (actions : Dict) (event : Event) (alertId : Uuid) (now : Int) : Result Database :=
  match event.cameraId with
  | some cameraId =>
    if Json.truthy (Dict.get actions "protect_recording") then do
      let before ← Json.toInt (Dict.get actions "protect_before_seconds")
      let after ← Json.toInt (Dict.get actions "protect_after_seconds")
      let expiresDays ← Json.toInt (Dict.get actions "protect_expires_days")
      let protectionStart := event.startedAt - seconds before
      let wantedEnd := event.endedAt.getD event.startedAt + seconds after
      let protectionEnd := if wantedEnd ≤ protectionStart then protectionStart + seconds 1 else wantedEnd
      .ok { db with protections := db.protections.create uuid4 fun id =>
        { id, cameraId, startedAt := protectionStart, endedAt := protectionEnd
          reason := "alert:" ++ toString alertId
          expiresAt := if 0 < expiresDays then some (now + days expiresDays) else none } }
    else .ok db
  | none => .ok db

/-- One policy of the loop. -/
def evaluatePolicy (event : Event) (now : Int) (acc : Database × AlertEvaluationResult)
    (policy : AlertPolicy) : Result (Database × AlertEvaluationResult) := do
  let (db, result) := acc
  let matched ← matches_ zoneInfo policy event
  if ¬ matched then .ok acc
  else if db.alerts.rows.any fun alert => alert.policyId = some policy.id ∧ alert.eventId = event.id then
    .ok acc
  else if cooldownBlocked db policy event then .ok acc
  else
    let alertId := db.alerts.newKey uuid4
    let opened := { db with alerts := db.alerts.create uuid4 fun id =>
      { id, policyId := some policy.id, eventId := event.id, cameraId := event.cameraId
        severity := policy.severity, state := .open } }
    let rawTargets := match Dict.get policy.actionJson "notification_target_ids" with
      | some (.arr items) => items
      | _ => []
    let delivered := createDeliveries uuid4 alertId rawTargets (opened, result.deliveryIds)
    let protected_ ← protect uuid4 delivered.1 policy.actionJson event alertId now
    .ok (protected_, { alerts := result.alerts ++ [alertId], deliveryIds := delivered.2 })

def evaluateEvent (db : Database) (event : Event) (now : Int) : Result (Database × AlertEvaluationResult) :=
  if (event.cameraId.bind db.cameras.get?).any Camera.maintenance then
    .ok (db, { alerts := [], deliveryIds := [] })
  else
    ((db.alertPolicies.select AlertPolicy.enabled).insertionSort fun left right => left.id ≤ right.id).foldlM
      (evaluatePolicy zoneInfo uuid4 event now) (db, { alerts := [], deliveryIds := [] })

variable {zoneInfo uuid4}

theorem createDeliveries_frame (alertId : Uuid) (rawTargets : List Json) (acc : Database × List Uuid) :
    ∃ deliveries, (createDeliveries uuid4 alertId rawTargets acc).1 = { acc.1 with deliveries } := by
  induction rawTargets generalizing acc with
  | nil => exact ⟨acc.1.deliveries, rfl⟩
  | cons rawTarget rest ih =>
    obtain ⟨db, deliveryIds⟩ := acc
    unfold createDeliveries
    dsimp only
    split
    · exact ih _
    · obtain ⟨deliveries, changed⟩ := ih _
      exact ⟨deliveries, changed⟩

theorem protect_frame {db db' : Database} {actions : Dict} {event : Event} {alertId : Uuid} {now : Int}
    (done : protect uuid4 db actions event alertId now = .ok db') : ∃ protections, db' = { db with protections } := by
  unfold protect at done
  split at done
  · split at done
    · simp only [bind_eq_ok] at done
      obtain ⟨_, _, _, _, _, _, same⟩ := done
      cases same
      exact ⟨_, rfl⟩
    · cases done
      exact ⟨_, rfl⟩
  · cases done
    exact ⟨_, rfl⟩

theorem protect_grows {db db' : Database} {actions : Dict} {event : Event} {alertId : Uuid} {now : Int}
    (done : protect uuid4 db actions event alertId now = .ok db') {protection : RecordingProtection}
    (member : protection ∈ db.protections) : protection ∈ db'.protections := by
  unfold protect at done
  split at done
  · split at done
    · simp only [bind_eq_ok] at done
      obtain ⟨_, _, _, _, _, _, same⟩ := done
      cases same
      exact Table.mem_create.mpr (.inl member)
    · cases done
      exact member
  · cases done
    exact member

/-- The reason of the protections written for an alert. -/
def alertReason (alertId : Uuid) : String := "alert:" ++ toString alertId

/-- The policy protects the recordings around its events. -/
structure Protecting (policy : AlertPolicy) (before after : Int) : Prop where
  wanted : Json.truthy (Dict.get policy.actionJson "protect_recording") = true
  before : Json.toInt (Dict.get policy.actionJson "protect_before_seconds") = .ok before
  after : Json.toInt (Dict.get policy.actionJson "protect_after_seconds") = .ok after

/-- What is protected when the alert opens: an open event counts as ended at its start. -/
theorem protect_writes {db db' : Database} {policy : AlertPolicy} {before after : Int} {event : Event} {alertId cameraId : Uuid}
    {now : Int} (protecting : Protecting policy before after) (onCamera : event.cameraId = some cameraId)
    (done : protect uuid4 db policy.actionJson event alertId now = .ok db') :
    ∃ protection ∈ db'.protections, protection.reason = alertReason alertId ∧ protection.cameraId = cameraId ∧
      protection.startedAt = event.startedAt - seconds before ∧
      event.endedAt.getD event.startedAt + seconds after ≤ protection.endedAt := by
  unfold protect at done
  rw [onCamera] at done
  dsimp only at done
  rw [if_pos protecting.wanted, protecting.before, protecting.after] at done
  simp only [bind_eq_ok] at done
  obtain ⟨_, same, _, same', _, _, written⟩ := done
  cases same
  cases same'
  cases written
  refine ⟨_, Table.mem_create.mpr (.inr rfl), rfl, rfl, rfl, ?_⟩
  dsimp only
  split
  next short => exact short.trans (by unfold seconds; omega)
  next => exact le_refl _

/-- The alert that an event opens for a policy. -/
def openedAlert (policy : AlertPolicy) (event : Event) (id : Uuid) : Alert :=
  { id, policyId := some policy.id, eventId := event.id, cameraId := event.cameraId, severity := policy.severity
    state := .open }

/-- A policy the event matches opens an alert, unless it has one or the cooldown blocks it. -/
theorem evaluatePolicy_cases {event : Event} {now : Int} {acc acc' : Database × AlertEvaluationResult}
    {policy : AlertPolicy} (done : evaluatePolicy zoneInfo uuid4 event now acc policy = .ok acc') :
    acc' = acc ∨ (matches_ zoneInfo policy event = .ok true ∧
      (∀ alert ∈ acc.1.alerts, alert.policyId = some policy.id → alert.eventId ≠ event.id) ∧
      cooldownBlocked acc.1 policy event = false ∧
      ∃ deliveries, protect uuid4 { acc.1 with
          alerts := acc.1.alerts.create uuid4 (openedAlert policy event), deliveries }
        policy.actionJson event (acc.1.alerts.newKey uuid4) now = .ok acc'.1) := by
  obtain ⟨db, result⟩ := acc
  unfold evaluatePolicy at done
  rw [bind_eq_ok] at done
  obtain ⟨matched, isMatched, done⟩ := done
  split at done
  · cases done
    exact .inl rfl
  next isMatch =>
    split at done
    · cases done
      exact .inl rfl
    next noAlert =>
      split at done
      · cases done
        exact .inl rfl
      next unblocked =>
        rw [bind_eq_ok] at done
        obtain ⟨protected_, isProtected, same⟩ := done
        cases same
        obtain ⟨deliveries, delivered⟩ := createDeliveries_frame (db.alerts.newKey uuid4) _ _
        rw [delivered] at isProtected
        refine .inr ⟨?_, fun alert member isPolicy isEvent => ?_, Bool.eq_false_iff.mpr unblocked, deliveries, isProtected⟩
        · rw [isMatched, not_not.mp isMatch]
        · exact noAlert (List.any_eq_true.mpr ⟨alert, member, decide_eq_true ⟨isPolicy, isEvent⟩⟩)

/-- Opening alerts changes alerts, deliveries and protections only. -/
theorem evaluatePolicy_frame {event : Event} {now : Int} {acc acc' : Database × AlertEvaluationResult}
    {policy : AlertPolicy} (done : evaluatePolicy zoneInfo uuid4 event now acc policy = .ok acc') :
    ∃ alerts deliveries protections, acc'.1 = { acc.1 with alerts, deliveries, protections } := by
  obtain ⟨db, result⟩ := acc
  unfold evaluatePolicy at done
  rw [bind_eq_ok] at done
  obtain ⟨matched, _, done⟩ := done
  split at done
  · cases done
    exact ⟨_, _, _, rfl⟩
  split at done
  · cases done
    exact ⟨_, _, _, rfl⟩
  split at done
  · cases done
    exact ⟨_, _, _, rfl⟩
  rw [bind_eq_ok] at done
  obtain ⟨protected_, isProtected, same⟩ := done
  cases same
  obtain ⟨protections, rfl⟩ := protect_frame isProtected
  obtain ⟨deliveries, delivered⟩ := createDeliveries_frame (db.alerts.newKey uuid4) _ _
  exact ⟨_, _, _, by rw [delivered]⟩

theorem evaluateEvent_frame {db : Database} {event : Event} {now : Int} {acc' : Database × AlertEvaluationResult}
    (done : evaluateEvent zoneInfo uuid4 db event now = .ok acc') :
    ∃ alerts deliveries protections, acc'.1 = { db with alerts, deliveries, protections } := by
  unfold evaluateEvent at done
  split at done
  · cases done
    exact ⟨_, _, _, rfl⟩
  · let Frame (acc : Database × AlertEvaluationResult) : Prop :=
      ∃ alerts deliveries protections, acc.1 = { db with alerts, deliveries, protections }
    have step : ∀ acc, ∀ policy ∈ (db.alertPolicies.select AlertPolicy.enabled).insertionSort
        (fun left right => left.id ≤ right.id), ∀ acc', Frame acc →
        evaluatePolicy zoneInfo uuid4 event now acc policy = .ok acc' → Frame acc' := by
      rintro acc policy - acc' ⟨_, _, _, soFar⟩ evaluated
      obtain ⟨_, _, _, changed⟩ := evaluatePolicy_frame evaluated
      exact ⟨_, _, _, by rw [changed, soFar]⟩
    exact foldlM_invariant _ step ⟨_, _, _, rfl⟩ done

/-- An alert of the event that is not resolved yet. -/
def isActive (event : Event) (alert : Alert) : Bool := alert.eventId = event.id ∧ alert.state ≠ .resolved

def resolve (event : Event) (resolvedAt : Int) (alert : Alert) : Alert :=
  { alert with
    state := if isActive event alert then .resolved else alert.state
    resolvedAt := if isActive event alert then some resolvedAt else alert.resolvedAt }

theorem resolve_key (event : Event) (resolvedAt : Int) (alert : Alert) :
    Keyed.key (resolve event resolvedAt alert) = Keyed.key alert := rfl

/-- The time of the resolution defaults to the end of the event. -/
def resolveEventAlerts (db : Database) (event : Event) (now : Int) : Database × List Uuid :=
  let instant := event.endedAt.getD now
  ({ db with alerts := db.alerts.mapRows (resolve event instant) (resolve_key event instant) },
    (db.alerts.select (isActive event)).map Alert.id)

end AlertEvaluationService

end ZeroNvr
