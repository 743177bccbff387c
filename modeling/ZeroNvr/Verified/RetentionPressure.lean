import ZeroNvr.Storage.Retention

/-! # Disk pressure and the retention classes

Under disk pressure a best-effort policy gives up the deadline of ordinary media
only.  The planner recognises ordinary media by the class of the longest
deadline, so footage of an event loses its own deadline too as soon as ordinary
media is kept longer (`OrdinaryOutlasts`).  Everywhere else the minimums hold.
-/

namespace ZeroNvr.RetentionPlanner

/-! ## The longest class -/

theorem longer_ordinary_iff {left right : RetentionClass × Int} (extra : right.1 ≠ .ordinary) :
    (longer left right).1 = .ordinary ↔ left.1 = .ordinary ∧ right.2 < left.2 := by
  have ranked : 0 < priority right.1 := by
    cases hc : right.1 with
    | ordinary => exact absurd hc extra
    | event => decide
    | manual => decide
  unfold longer
  split
  next replaced =>
    refine ⟨fun ordinary => absurd ordinary extra, ?_⟩
    rintro ⟨ordinary, later⟩
    rcases replaced with earlier | ⟨tied, _⟩ <;> omega
  next kept =>
    refine ⟨fun ordinary => ⟨ordinary, ?_⟩, And.left⟩
    rw [ordinary] at kept
    by_contra notLater
    have tied : left.2 = right.2 := by
      by_contra differs
      exact kept (.inl (by omega))
    exact kept (.inr ⟨tied, ranked⟩)

theorem longer_of_ordinary {left right : RetentionClass × Int} (extra : right.1 ≠ .ordinary)
    (ordinary : (longer left right).1 = .ordinary) : longer left right = left := by
  unfold longer at ordinary ⊢
  split at ordinary
  · exact absurd ordinary extra
  next kept => exact if_neg kept

/-- The ordinary class wins exactly against deadlines that are all strictly earlier. -/
theorem foldl_longer_ordinary_iff (extras : List (RetentionClass × Int))
    (allExtra : ∀ extra ∈ extras, extra.1 ≠ .ordinary) (start : RetentionClass × Int) :
    (extras.foldl longer start).1 = .ordinary ↔
      start.1 = .ordinary ∧ ∀ extra ∈ extras, extra.2 < start.2 := by
  induction extras generalizing start with
  | nil => simp
  | cons extra extras ih =>
    have isExtra := allExtra extra List.mem_cons_self
    rw [List.foldl_cons, ih fun later member => allExtra later (List.mem_cons_of_mem _ member)]
    constructor
    · rintro ⟨ordinary, earlier⟩
      have first := (longer_ordinary_iff isExtra).mp ordinary
      rw [longer_of_ordinary isExtra ordinary] at earlier
      exact ⟨first.1, List.forall_mem_cons.mpr ⟨first.2, earlier⟩⟩
    · rintro ⟨ordinary, earlier⟩
      obtain ⟨first, rest⟩ := List.forall_mem_cons.mp earlier
      have stays := (longer_ordinary_iff isExtra).mpr ⟨ordinary, first⟩
      exact ⟨stays, (longer_of_ordinary isExtra stays).symm ▸ rest⟩

theorem le_longer (left right : RetentionClass × Int) :
    left.2 ≤ (longer left right).2 ∧ right.2 ≤ (longer left right).2 := by
  unfold longer
  split
  next replaced => rcases replaced with earlier | ⟨tied, _⟩ <;> constructor <;> omega
  next kept =>
    have notEarlier : ¬ left.2 < right.2 := fun earlier => kept (.inl earlier)
    constructor <;> omega

theorem le_foldl_longer (extras : List (RetentionClass × Int)) (start : RetentionClass × Int) :
    start.2 ≤ (extras.foldl longer start).2 ∧
      ∀ extra ∈ extras, extra.2 ≤ (extras.foldl longer start).2 := by
  induction extras generalizing start with
  | nil => simp
  | cons extra extras ih =>
    obtain ⟨middle, rest⟩ := ih (longer start extra)
    obtain ⟨fromStart, fromExtra⟩ := le_longer start extra
    rw [List.foldl_cons]
    exact ⟨fromStart.trans middle, List.forall_mem_cons.mpr ⟨fromExtra.trans middle, rest⟩⟩

/-! ## The horizon -/

theorem extraDeadlines_not_ordinary (db : Database) (segment : RecordingSegment)
    (policy : RetentionPolicy) :
    ∀ extra ∈ extraDeadlines db segment policy, extra.1 ≠ .ordinary := by
  intro extra member
  unfold extraDeadlines at member
  rcases List.mem_append.mp member with inEvent | inManual
  · split at inEvent
    · rw [List.mem_singleton.mp inEvent]
      exact RetentionClass.noConfusion
    · cases inEvent
  · split at inManual
    · rw [List.mem_singleton.mp inManual]
      exact RetentionClass.noConfusion
    · cases inManual

theorem forall_extraDeadlines {db : Database} {segment : RecordingSegment} {policy : RetentionPolicy}
    (P : Int → Prop) :
    (∀ extra ∈ extraDeadlines db segment policy, P extra.2) ↔
      (inEventClass db segment → P (eventDeadline db segment policy)) ∧
        (inManualClass segment → P (manualDeadline segment policy)) := by
  by_cases inEvent : inEventClass db segment <;> by_cases inManual : inManualClass segment <;>
    simp [extraDeadlines, inEvent, inManual]

theorem retentionHorizon_deadline_isSome {db : Database} {segment : RecordingSegment}
    {policy : RetentionPolicy} {deadline : Int}
    (found : (retentionHorizon db segment policy).deadline = some deadline) :
    ¬ activeEvent db segment ∧
      deadline = ((extraDeadlines db segment policy).foldl longer
        (.ordinary, ordinaryDeadline segment policy)).2 := by
  unfold retentionHorizon at found
  split at found
  · cases found
  next inactive => exact ⟨inactive, (Option.some.inj found).symm⟩

/-- Every deadline that applies is at most the one of the horizon. -/
theorem le_deadline {db : Database} {segment : RecordingSegment} {policy : RetentionPolicy}
    {deadline : Int} (found : (retentionHorizon db segment policy).deadline = some deadline) :
    ordinaryDeadline segment policy ≤ deadline ∧
      (inEventClass db segment → eventDeadline db segment policy ≤ deadline) ∧
        (inManualClass segment → manualDeadline segment policy ≤ deadline) := by
  rw [(retentionHorizon_deadline_isSome found).2]
  obtain ⟨ordinary, extras⟩ := le_foldl_longer (extraDeadlines db segment policy)
    (.ordinary, ordinaryDeadline segment policy)
  exact ⟨ordinary, (forall_extraDeadlines (· ≤ _)).mp extras⟩

theorem retentionClass_ordinary_iff {db : Database} {segment : RecordingSegment}
    {policy : RetentionPolicy} :
    (retentionHorizon db segment policy).retentionClass = .ordinary ↔
      ¬ activeEvent db segment ∧
        ∀ extra ∈ extraDeadlines db segment policy, extra.2 < ordinaryDeadline segment policy := by
  unfold retentionHorizon
  split
  next active => simp [active]
  next inactive =>
    dsimp only
    rw [foldl_longer_ordinary_iff _ (extraDeadlines_not_ordinary db segment policy)]
    simp [inactive]

/-- When the ordinary class wins, the deadline of the horizon is the ordinary one. -/
theorem deadline_of_ordinary {db : Database} {segment : RecordingSegment} {policy : RetentionPolicy}
    (inactive : ¬ activeEvent db segment)
    (earlier : ∀ extra ∈ extraDeadlines db segment policy, extra.2 < ordinaryDeadline segment policy) :
    (retentionHorizon db segment policy).deadline = some (ordinaryDeadline segment policy) := by
  have keeps : ∀ (extras : List (RetentionClass × Int)) (start : RetentionClass × Int),
      (∀ extra ∈ extras, extra.2 < start.2) → extras.foldl longer start = start := by
    intro extras start
    induction extras with
    | nil => exact fun _ => rfl
    | cons extra extras ih =>
      intro allEarlier
      obtain ⟨first, rest⟩ := List.forall_mem_cons.mp allEarlier
      have kept : longer start extra = start := by
        unfold longer
        exact if_neg (by omega)
      rw [List.foldl_cons, kept, ih rest]
  unfold retentionHorizon
  rw [if_neg inactive]
  dsimp only
  rw [keeps _ _ earlier]

/-! ## The minimums under pressure -/

/-- The minimums a deletion must have respected: a policy that is not best-effort keeps every
    deadline, and in any mode event and manual footage keeps its own. -/
structure MinimumsKept (db : Database) (segment : RecordingSegment) (policy : RetentionPolicy)
    (now : Int) : Prop where
  mode : policy.mode = .bestEffort ∨
    (ordinaryDeadline segment policy ≤ now ∧
      (inEventClass db segment → eventDeadline db segment policy ≤ now) ∧
        (inManualClass segment → manualDeadline segment policy ≤ now))
  event : inEventClass db segment → eventDeadline db segment policy ≤ now
  manual : inManualClass segment → manualDeadline segment policy ≤ now

/-- Under pressure, an eligible decision has kept the minimums of the segment and the policy it
    was made for. -/
def PressureKeepsMinimums (db : Database) (location : RecordingLocation) (now : Int) : Prop :=
  ∀ decision, evaluate db location now true = .ok decision → decision.eligibleForDelete →
    ∃ segment policy, db.segments.get? location.recordingSegmentId = some segment ∧
      policyForCamera db segment.cameraId = .ok (some policy) ∧ MinimumsKept db segment policy now

/-- Ordinary media is kept longer than the event or manual footage in the segment, whose own
    deadline is still ahead, and nothing but the deadline stands in the way of deletion. -/
structure OrdinaryOutlasts (db : Database) (location : RecordingLocation) (now : Int)
    (segment : RecordingSegment) (policy : RetentionPolicy) : Prop where
  segment_found : db.segments.get? location.recordingSegmentId = some segment
  local_available : isLocalAvailable db location
  final : segment.timingStatus = .final
  policy_found : policyForCamera db segment.cameraId = .ok (some policy)
  best_effort : policy.mode = .bestEffort
  unprotected : ¬ isProtected db segment now
  inactive : ¬ activeEvent db segment
  archived : policy.requireArchiveBeforeDelete → availableArchiveExists db segment.id
  before_ordinary : now < ordinaryDeadline segment policy
  all_earlier : ∀ extra ∈ extraDeadlines db segment policy, extra.2 < ordinaryDeadline segment policy
  some_ahead : ∃ extra ∈ extraDeadlines db segment policy, now < extra.2

theorem OrdinaryOutlasts.eligible {db : Database} {location : RecordingLocation} {now : Int}
    {segment : RecordingSegment} {policy : RetentionPolicy}
    (outlasts : OrdinaryOutlasts db location now segment policy) :
    ∃ decision, evaluate db location now true = .ok decision ∧ decision.eligibleForDelete :=
  evaluate_of_gates
    { segment_found := outlasts.segment_found
      local_available := outlasts.local_available
      final := outlasts.final
      policy_found := outlasts.policy_found
      unprotected := outlasts.unprotected
      deadline_eq := deadline_of_ordinary outlasts.inactive outlasts.all_earlier
      due := .inr ⟨rfl, outlasts.best_effort,
        retentionClass_ordinary_iff.mpr ⟨outlasts.inactive, outlasts.all_earlier⟩⟩
      archived := outlasts.archived }

theorem OrdinaryOutlasts.not_kept {db : Database} {location : RecordingLocation} {now : Int}
    {segment : RecordingSegment} {policy : RetentionPolicy}
    (outlasts : OrdinaryOutlasts db location now segment policy) :
    ¬ PressureKeepsMinimums db location now := by
  intro keeps
  obtain ⟨decision, evaluated, eligible⟩ := outlasts.eligible
  obtain ⟨segment', policy', segmentFound, policyFound, kept⟩ := keeps decision evaluated eligible
  obtain rfl : segment = segment' := Option.some.inj (outlasts.segment_found.symm.trans segmentFound)
  obtain rfl : policy = policy' :=
    Option.some.inj (Except.ok.inj (outlasts.policy_found.symm.trans policyFound))
  obtain ⟨extra, member, ahead⟩ := outlasts.some_ahead
  have passed := (forall_extraDeadlines (· ≤ now)).mpr
    ⟨kept.event, kept.manual⟩ extra member
  omega

/-- Under pressure the event and manual minimums hold exactly where ordinary media does not
    outlast them. -/
theorem pressureKeepsMinimums_iff (db : Database) (location : RecordingLocation) (now : Int) :
    PressureKeepsMinimums db location now ↔
      ¬ ∃ segment policy, OrdinaryOutlasts db location now segment policy := by
  constructor
  · rintro keeps ⟨segment, policy, outlasts⟩
    exact outlasts.not_kept keeps
  · intro noneOutlasts decision evaluated eligible
    obtain ⟨segment, policy, deadline, gates⟩ := evaluate_eligible evaluated eligible
    refine ⟨segment, policy, gates.segment_found, gates.policy_found, ?_⟩
    obtain ⟨ordinaryLe, eventLe, manualLe⟩ := le_deadline gates.deadline_eq
    rcases le_or_gt deadline now with late | early
    · have event := fun inEvent => (eventLe inEvent).trans late
      have manual := fun inManual => (manualLe inManual).trans late
      exact ⟨.inr ⟨ordinaryLe.trans late, event, manual⟩, event, manual⟩
    · -- The deadline is ahead, so the override was taken and the ordinary class is the longest.
      obtain ⟨_, bestEffort, ordinary⟩ := gates.due.resolve_left (not_le.mpr early)
      obtain ⟨inactive, allEarlier⟩ := retentionClass_ordinary_iff.mp ordinary
      have deadlineEq := deadline_of_ordinary inactive allEarlier
      rw [gates.deadline_eq] at deadlineEq
      obtain rfl : deadline = ordinaryDeadline segment policy := Option.some.inj deadlineEq
      have nonePassed : ∀ extra ∈ extraDeadlines db segment policy, extra.2 ≤ now := by
        intro extra member
        by_contra ahead
        exact noneOutlasts ⟨segment, policy, gates.segment_found, gates.local_available, gates.final,
          gates.policy_found, bestEffort, gates.unprotected, inactive, gates.archived, early, allEarlier,
          extra, member, not_le.mp ahead⟩
      obtain ⟨event, manual⟩ := (forall_extraDeadlines (· ≤ now)).mp nonePassed
      exact ⟨.inl bestEffort, event, manual⟩

/-! ## An event outlasted by ordinary media -/

def shortEventPolicy : RetentionPolicy :=
  { id := 1, scope := .global, ordinaryKeepDays := 30, eventKeepDays := 14, manualKeepDays := 60
    mode := .bestEffort, requireArchiveBeforeDelete := false }

def eventSegment : RecordingSegment :=
  { id := 2, cameraId := 3, startedAt := 0, endedAt := 600000000, durationMs := 600000
    timingStatus := .final, timingSource := .nextSegmentBoundary, recordingReasons := ["event"] }

def eventSegmentLocation : RecordingLocation :=
  { id := 4, recordingSegmentId := 2, storageTargetId := 5, objectPath := "a.mp4", sizeBytes := 1 }

def shortEventDatabase : Database :=
  { storageTargets := .single { id := 5, type := .local, role := .recording }
    locations := ⟨[eventSegmentLocation], by decide⟩
    retentionPolicies := ⟨[shortEventPolicy], by decide⟩
    segments := ⟨[eventSegment], by decide⟩ }

/-- One day after the recording its event footage, kept for 14 days, is deleted under pressure. -/
theorem pressure_deletes_event_footage :
    ¬ ∀ (db : Database) (location : RecordingLocation) (now : Int), PressureKeepsMinimums db location now := by
  intro keeps
  have outlasts : OrdinaryOutlasts shortEventDatabase eventSegmentLocation (days 1) eventSegment
      shortEventPolicy :=
    { segment_found := rfl
      local_available := by decide
      final := rfl
      policy_found := rfl
      best_effort := rfl
      unprotected := by decide
      inactive := by decide
      archived := by decide
      before_ordinary := by decide
      all_earlier := by decide
      some_ahead := by decide }
  exact outlasts.not_kept (keeps shortEventDatabase eventSegmentLocation (days 1))

end ZeroNvr.RetentionPlanner
