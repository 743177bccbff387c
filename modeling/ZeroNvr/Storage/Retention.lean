import ZeroNvr.Lib.Outcome
import ZeroNvr.Storage.Service

/-! # The retention planner

`evaluate` decides whether one local copy may be deleted: the policy in force
for the camera, the deadline of the longest retention class the segment is in,
protections, open events and triggers, the pressure override, and the archive
copy a policy may require first.
-/

namespace ZeroNvr

inductive RetentionClass where
  | ordinary | event | manual
  deriving DecidableEq

inductive RetentionReason where
  | segmentMissing | notLocalAvailable | segmentNotFinal | retentionPolicyMissing | protected_
  | activeEvent | beforeDeadline | archiveRequired | archiveUnavailable | eligible
  deriving DecidableEq

structure RetentionDecision where
  locationId : Uuid
  segmentId : Uuid
  policyId : Option Uuid
  retentionClass : RetentionClass
  deadline : Option Int
  eligibleForDelete : Bool
  reason : RetentionReason
  archiveTargetId : Option Uuid := none
  pressureOverride : Bool := false
  verifiedArchiveAvailable : Bool := false

structure RetentionHorizon where
  retentionClass : RetentionClass
  deadline : Option Int
  activeEvent : Bool := false

namespace RetentionPlanner

/-! ## The policy of a camera -/

def singlePolicy (policies : List RetentionPolicy) (code : String) : Result (Option RetentionPolicy) :=
  match policies with
  | [] => .ok none
  | [policy] => .ok (some policy)
  | _ => .error (apiError 409 code "Retention policy selection is ambiguous.")

/-- `depths[current] = depth` unless a smaller depth is recorded. -/
def recordDepth (depths : List (Uuid × Nat)) (current : Uuid) (depth : Nat) : List (Uuid × Nat) :=
  match depths.lookup current with
  | some previous =>
    if depth < previous then (current, depth) :: depths.filter (·.1 ≠ current) else depths
  | none => (current, depth) :: depths

/-- The loop over the ancestors of one group.  Every pass adds a group to `visited`, so as many
    passes as there are groups, and one more, reach the end. -/
def walkAncestors (parentById : Uuid → Option Uuid) :
    Nat → Option Uuid → Nat → List Uuid → List (Uuid × Nat) → List (Uuid × Nat)
  | 0, _, _, _, depths => depths
  | _ + 1, none, _, _, depths => depths
  | passes + 1, some current, depth, visited, depths =>
    if current ∈ visited then depths
    else walkAncestors parentById passes (parentById current) (depth + 1) (current :: visited)
      (recordDepth depths current depth)

/-- The groups a camera is in, directly or through a descendant, with their distance. -/
def groupDepths (db : Database) (cameraId : Uuid) : List (Uuid × Nat) :=
  let parentById := fun groupId => (db.cameraGroups.get? groupId).bind CameraGroup.parentId
  let direct := (db.cameraGroupMembers.select fun member => member.cameraId = cameraId).map
    CameraGroupMember.cameraGroupId
  direct.foldl (fun depths directId =>
    walkAncestors parentById (db.cameraGroups.rows.length + 1) (some directId) 0 [] depths) []

/-- The distance of the group a policy is assigned to. -/
def policyDepth (depths : List (Uuid × Nat)) (policy : RetentionPolicy) : Option Nat :=
  match policy.scope with
  | .cameraGroup groupId => depths.lookup groupId
  | _ => none

def policyForCamera (db : Database) (cameraId : Uuid) : Result (Option RetentionPolicy) :=
  match (db.recordingPolicies.get? cameraId).bind RecordingPolicy.retentionPolicyId with
  | some explicitId =>
    match (db.retentionPolicies.get? explicitId).filter RetentionPolicy.enabled with
    | some explicit => .ok (some explicit)
    | none => .error (apiError 409 "retention_policy_unavailable"
        "Camera recording policy references an unavailable retention policy.")
  | none => do
    let cameraPolicies := db.retentionPolicies.select fun policy =>
      policy.scope = .camera cameraId ∧ policy.enabled
    match ← singlePolicy cameraPolicies "retention_camera_policy_ambiguous" with
    | some selected => .ok (some selected)
    | none =>
      let depths := groupDepths db cameraId
      let groupPolicies := db.retentionPolicies.select fun policy =>
        (policyDepth depths policy).isSome ∧ policy.enabled
      let best := groupPolicies.filter fun policy => groupPolicies.all fun other =>
        (policyDepth depths policy).getD 0 ≤ (policyDepth depths other).getD 0
      let globals := db.retentionPolicies.select fun policy => policy.scope = .global ∧ policy.enabled
      match ← singlePolicy best "retention_group_policy_ambiguous" with
      | some selected => .ok (some selected)
      | none => singlePolicy globals "retention_global_policy_ambiguous"

/-! ## The horizon of a segment -/

/-- The segment's own reason flags contain the given word, in any case. -/
def hasReason (segment : RecordingSegment) (word : String) : Bool :=
  segment.recordingReasons.any fun item => lower item = word

/-- `RetentionPlanner.retention_class`. -/
def retentionClass (segment : RecordingSegment) : RetentionClass :=
  if hasReason segment "manual" then .manual
  else if hasReason segment "event" then .event
  else .ordinary

/-- The triggers of the camera whose planned window overlaps the segment. -/
def overlappingTriggers (db : Database) (segment : RecordingSegment) : List RecordingTrigger :=
  db.triggers.select fun trigger =>
    trigger.cameraId = segment.cameraId ∧ trigger.state ≠ .cancelled ∧ trigger.state ≠ .failed ∧
      trigger.plannedStartAt < segment.endedAt ∧
      trigger.plannedEndAt.all fun plannedEnd => segment.startedAt < plannedEnd

/-- The provider events of the camera that overlap the segment. -/
def overlappingEvents (db : Database) (segment : RecordingSegment) : List Event :=
  db.events.select fun event =>
    event.cameraId = some segment.cameraId ∧ event.source ≠ "system" ∧
      event.startedAt < segment.endedAt ∧ event.endedAt.all fun ended => segment.startedAt < ended

/-- The ends of everything that overlaps the segment; `none` is still open. -/
def overlappingEnds (db : Database) (segment : RecordingSegment) : List (Option Int) :=
  (overlappingTriggers db segment).map RecordingTrigger.plannedEndAt ++
    (overlappingEvents db segment).map Event.endedAt

def activeEvent (db : Database) (segment : RecordingSegment) : Bool :=
  (overlappingEnds db segment).any Option.isNone

def eventAnchor (db : Database) (segment : RecordingSegment) : Int :=
  (overlappingEnds db segment).foldl (fun anchor ended => max anchor (ended.getD anchor)) segment.endedAt

/-- `"event" in classes`. -/
def inEventClass (db : Database) (segment : RecordingSegment) : Bool :=
  hasReason segment "event" || !(overlappingEnds db segment).isEmpty

/-- `"manual" in classes`. -/
def inManualClass (segment : RecordingSegment) : Bool := hasReason segment "manual"

def ordinaryDeadline (segment : RecordingSegment) (policy : RetentionPolicy) : Int :=
  segment.endedAt + days policy.ordinaryKeepDays

def eventDeadline (db : Database) (segment : RecordingSegment) (policy : RetentionPolicy) : Int :=
  eventAnchor db segment + days policy.eventKeepDays

def manualDeadline (segment : RecordingSegment) (policy : RetentionPolicy) : Int :=
  segment.endedAt + days policy.manualKeepDays

def priority : RetentionClass → Nat
  | .ordinary => 0
  | .event => 1
  | .manual => 2

/-- The later of two deadlines; on a tie the class of higher priority. -/
def longer (left right : RetentionClass × Int) : RetentionClass × Int :=
  if left.2 < right.2 ∨ (left.2 = right.2 ∧ priority left.1 < priority right.1) then right else left

/-- The deadlines that apply beside the ordinary one. -/
def extraDeadlines (db : Database) (segment : RecordingSegment) (policy : RetentionPolicy) :
    List (RetentionClass × Int) :=
  (if inEventClass db segment then [(.event, eventDeadline db segment policy)] else []) ++
    (if inManualClass segment then [(.manual, manualDeadline segment policy)] else [])

def retentionHorizon (db : Database) (segment : RecordingSegment) (policy : RetentionPolicy) :
    RetentionHorizon :=
  if activeEvent db segment then { retentionClass := .event, deadline := none, activeEvent := true }
  else
    let longest := (extraDeadlines db segment policy).foldl longer
      (.ordinary, ordinaryDeadline segment policy)
    { retentionClass := longest.1, deadline := some longest.2 }

/-! ## The gates -/

def isProtected (db : Database) (segment : RecordingSegment) (now : Int) : Bool :=
  db.protections.rows.any fun protection =>
    protection.cameraId = segment.cameraId ∧ protection.startedAt < segment.endedAt ∧
      segment.startedAt < protection.endedAt ∧ protection.expiresAt.all fun expires => now < expires

def isArchiveTarget (target : StorageTarget) : Bool := target.type = .rclone ∧ target.role = .archive

def availableArchiveExists (db : Database) (segmentId : Uuid) : Bool :=
  db.locations.rows.any fun location =>
    location.recordingSegmentId = segmentId ∧ location.state = .available ∧
      location.verifiedAt.isSome ∧ (db.storageTargets.get? location.storageTargetId).any isArchiveTarget

/-- `ORDER BY last_attempt_at DESC, id`, with a missing attempt last. -/
def attemptedBefore (left right : RecordingLocation) : Bool :=
  match left.lastAttemptAt, right.lastAttemptAt with
  | some leftAt, some rightAt => rightAt < leftAt ∨ (leftAt = rightAt ∧ left.id ≤ right.id)
  | some _, none => true
  | none, some _ => false
  | none, none => left.id ≤ right.id

def archiveTargetForRetry (db : Database) (segmentId : Uuid) (now : Int) : Option Uuid :=
  let staleBefore := now - seconds 3600
  let existing := (db.locations.select fun location =>
    location.recordingSegmentId = segmentId ∧
      location.state ∈ [LocationState.archiving, .failed, .missing] ∧
      (db.storageTargets.get? location.storageTargetId).any fun target =>
        isArchiveTarget target ∧ target.enabled).insertionSort fun left right => attemptedBefore left right
  match existing with
  | location :: _ =>
    if location.state ≠ .archiving ∨ location.lastAttemptAt.all fun attempt => attempt < staleBefore then
      some location.storageTargetId
    else none
  | [] =>
    match StorageTargetService.defaultArchiveTarget db with
    | .ok target => some target.id
    | .error _ => none

/-! ## The decision -/

def isRecordingTarget (target : StorageTarget) : Bool := target.type = .local ∧ target.role = .recording

/-- The location is the available copy on a local recording target. -/
def isLocalAvailable (db : Database) (location : RecordingLocation) : Bool :=
  location.state = .available ∧ (db.storageTargets.get? location.storageTargetId).any isRecordingTarget

def evaluate (db : Database) (location : RecordingLocation) (now : Int) (pressure : Bool) :
    Result RetentionDecision :=
  match db.segments.get? location.recordingSegmentId with
  | none => .ok
      { locationId := location.id, segmentId := location.recordingSegmentId, policyId := none,
        retentionClass := .ordinary, deadline := none, eligibleForDelete := false,
        reason := .segmentMissing }
  | some segment =>
    let blocked (policyId : Option Uuid) (retentionClass : RetentionClass) (deadline : Option Int)
        (reason : RetentionReason) : RetentionDecision :=
      { locationId := location.id, segmentId := segment.id, policyId, retentionClass, deadline,
        eligibleForDelete := false, reason }
    if ¬ isLocalAvailable db location then
      .ok (blocked none (retentionClass segment) none .notLocalAvailable)
    else if segment.timingStatus ≠ .final then
      .ok (blocked none (retentionClass segment) none .segmentNotFinal)
    else do
      match ← policyForCamera db segment.cameraId with
      | none => .ok (blocked none (retentionClass segment) none .retentionPolicyMissing)
      | some policy =>
        let horizon := retentionHorizon db segment policy
        if isProtected db segment now then
          .ok (blocked policy.id horizon.retentionClass horizon.deadline .protected_)
        else match horizon.deadline with
        | none => .ok (blocked policy.id horizon.retentionClass none .activeEvent)
        | some deadline =>
          let verifiedArchiveAvailable := availableArchiveExists db segment.id
          let pressureOverride : Bool := pressure ∧ policy.mode = .bestEffort ∧
            horizon.retentionClass = .ordinary ∧ now < deadline
          if now < deadline ∧ ¬ pressureOverride then
            .ok (blocked policy.id horizon.retentionClass deadline .beforeDeadline)
          else if policy.requireArchiveBeforeDelete ∧ ¬ verifiedArchiveAvailable then
            let archiveTargetId := archiveTargetForRetry db segment.id now
            .ok { blocked policy.id horizon.retentionClass deadline
                    (if archiveTargetId.isSome then .archiveRequired else .archiveUnavailable) with
                  archiveTargetId, pressureOverride }
          else
            .ok { locationId := location.id, segmentId := segment.id, policyId := policy.id,
                  retentionClass := horizon.retentionClass, deadline, eligibleForDelete := true,
                  reason := .eligible, pressureOverride, verifiedArchiveAvailable }

/-! ## What the planner has checked -/

/-- Everything that stands behind an eligible decision. -/
structure DeletionGates (db : Database) (location : RecordingLocation) (now : Int) (pressure : Bool)
    (segment : RecordingSegment) (policy : RetentionPolicy) (deadline : Int) : Prop where
  segment_found : db.segments.get? location.recordingSegmentId = some segment
  local_available : isLocalAvailable db location
  final : segment.timingStatus = .final
  policy_found : policyForCamera db segment.cameraId = .ok (some policy)
  unprotected : ¬ isProtected db segment now
  deadline_eq : (retentionHorizon db segment policy).deadline = some deadline
  due : deadline ≤ now ∨
    (pressure ∧ policy.mode = .bestEffort ∧ (retentionHorizon db segment policy).retentionClass = .ordinary)
  archived : policy.requireArchiveBeforeDelete → availableArchiveExists db segment.id

theorem evaluate_eligible {db : Database} {location : RecordingLocation} {now : Int} {pressure : Bool}
    {decision : RetentionDecision} (evaluated : evaluate db location now pressure = .ok decision)
    (eligible : decision.eligibleForDelete) :
    ∃ segment policy deadline, DeletionGates db location now pressure segment policy deadline := by
  unfold evaluate at evaluated
  split at evaluated
  · cases evaluated
    cases eligible
  next segment segmentFound =>
  dsimp only at evaluated
  split at evaluated
  · cases evaluated
    cases eligible
  next localAvailable =>
  split at evaluated
  · cases evaluated
    cases eligible
  next final =>
  rw [Lib.bind_eq_ok] at evaluated
  obtain ⟨found, policyFound, evaluated⟩ := evaluated
  cases found with
  | none =>
    cases evaluated
    cases eligible
  | some policy =>
    dsimp only at evaluated
    split at evaluated
    · cases evaluated
      cases eligible
    next unprotected =>
    split at evaluated
    · cases evaluated
      cases eligible
    next deadline deadlineEq =>
    split at evaluated
    · cases evaluated
      cases eligible
    next due =>
    split at evaluated
    · cases evaluated
      cases eligible
    next archived =>
    refine ⟨segment, policy, deadline, segmentFound, not_not.mp localAvailable, not_not.mp final,
      policyFound, unprotected, deadlineEq, ?_, ?_⟩
    · rw [decide_eq_true_eq] at due
      rcases lt_or_ge now deadline with early | late
      · obtain ⟨pressed, bestEffort, ordinary, _⟩ := not_not.mp fun kept => due ⟨early, kept⟩
        exact .inr ⟨pressed, bestEffort, ordinary⟩
      · exact .inl late
    · simpa only [not_and, not_not] using archived

/-- Nothing else is checked: the gates suffice. -/
theorem evaluate_of_gates {db : Database} {location : RecordingLocation} {now : Int} {pressure : Bool}
    {segment : RecordingSegment} {policy : RetentionPolicy} {deadline : Int}
    (gates : DeletionGates db location now pressure segment policy deadline) :
    ∃ decision, evaluate db location now pressure = .ok decision ∧ decision.eligibleForDelete := by
  obtain ⟨segmentFound, localAvailable, final, policyFound, unprotected, deadlineEq, due, archived⟩ := gates
  have notEarly : ¬ (now < deadline ∧ ¬ decide (pressure ∧ policy.mode = .bestEffort ∧
      (retentionHorizon db segment policy).retentionClass = .ordinary ∧ now < deadline) = true) := by
    rintro ⟨early, notOverridden⟩
    rw [decide_eq_true_eq] at notOverridden
    rcases due with late | ⟨pressed, bestEffort, ordinary⟩
    · omega
    · exact notOverridden ⟨pressed, bestEffort, ordinary, early⟩
  have notUnarchived : ¬ (policy.requireArchiveBeforeDelete ∧ ¬ availableArchiveExists db segment.id) :=
    fun unarchived => unarchived.2 (archived unarchived.1)
  unfold evaluate
  rw [segmentFound]
  dsimp only
  rw [if_neg (not_not.mpr localAvailable), if_neg (not_not.mpr final), policyFound]
  dsimp only [bind, Except.bind]
  rw [if_neg unprotected, deadlineEq]
  dsimp only
  rw [if_neg notEarly, if_neg notUnarchived]
  exact ⟨_, rfl, rfl⟩

end RetentionPlanner

end ZeroNvr
