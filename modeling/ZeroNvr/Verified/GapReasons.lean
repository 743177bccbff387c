import ZeroNvr.Recordings.Playback
import ZeroNvr.Verified.TimelineCover

/-! # Reasons of gaps

The timeline reads the reason of a gap from the cell between two boundaries, the
player from the millisecond after the instant.  Source losses and storage
failures are boundaries themselves, so a cell knows no more of them than the
instant does (`lossIn_cell`, `storageFailureIn_cell`).  The triggers of an
event-only camera are no boundaries, restarts count for the cells on both sides,
and the schedule is sampled in the middle; there the reason depends on where the
window happens to cut.
-/

namespace ZeroNvr.PlaybackTimelineService

open Lib

variable {zoneInfo : String → Result TimeZone} {paths : PathEnv} {cachedFile : RecordingSegment → Bool}
  {db : Database} {cameraId : Uuid} {startAt endAt t : Int}

/-! ## Cells -/

/-- What the check constraints of the catalog say about the ranges its rows cover. -/
structure RangesChecked (db : Database) : Prop where
  segments : ∀ segment ∈ db.segments, segment.startedAt < segment.endedAt
  events : ∀ event ∈ db.events, ∀ ended, event.endedAt = some ended → event.startedAt ≤ ended

/-- The event starts or ends at the instant. -/
def EventEdge (event : Event) (x : Int) : Prop := x = event.startedAt ∨ event.endedAt = some x

/-- The window is cut at the instant: at its own edges, at the edges of the camera's recordings, at
    the transitions of its schedule and at the edges of the events that explain gaps. -/
inductive Cut (zoneInfo : String → Result TimeZone) (paths : PathEnv) (db : Database) (cameraId : Uuid)
    (startAt endAt : Int) : Int → Prop where
  | start : Cut zoneInfo paths db cameraId startAt endAt startAt
  | stop : Cut zoneInfo paths db cameraId startAt endAt endAt
  | segment {segment : RecordingSegment} {x : Int} (inside : startAt < x ∧ x < endAt)
      (member : segment ∈ db.segments) (ofCamera : segment.cameraId = cameraId)
      (edge : x = segment.startedAt ∨ x = segment.endedAt) : Cut zoneInfo paths db cameraId startAt endAt x
  | transition {transitions : List Int} {x : Int}
      (listed : policyTransitions zoneInfo (db.recordingPolicies.get? cameraId) startAt endAt = .ok transitions)
      (member : x ∈ transitions) : Cut zoneInfo paths db cameraId startAt endAt x
  | evidence {event : Event} {x : Int} (inside : startAt < x ∧ x < endAt)
      (member : event ∈ gapEvidenceEvents paths db cameraId startAt endAt) (edge : EventEdge event x) :
      Cut zoneInfo paths db cameraId startAt endAt x
  | sourceLoss {event : Event} {x : Int} (inside : startAt < x ∧ x < endAt)
      (member : event ∈ timelineEvents db cameraId startAt endAt)
      (loss : SystemEventService.isSourceLoss event = true) (edge : EventEdge event x) :
      Cut zoneInfo paths db cameraId startAt endAt x

/-- The cell of the window around the instant: between two cuts, with none inside. -/
structure CellAt (zoneInfo : String → Result TimeZone) (paths : PathEnv) (db : Database) (cameraId : Uuid)
    (startAt endAt t : Int) (cell : Int × Int) : Prop where
  contains : cell.1 ≤ t ∧ t < cell.2
  left : Cut zoneInfo paths db cameraId startAt endAt cell.1
  right : Cut zoneInfo paths db cameraId startAt endAt cell.2
  uncut : ∀ x, Cut zoneInfo paths db cameraId startAt endAt x → x ≤ cell.1 ∨ cell.2 ≤ x

theorem CellAt.unique {cell other : Int × Int} (isCell : CellAt zoneInfo paths db cameraId startAt endAt t cell)
    (isOther : CellAt zoneInfo paths db cameraId startAt endAt t other) : cell = other := by
  have leftOther := isCell.uncut other.1 isOther.left
  have rightOther := isCell.uncut other.2 isOther.right
  have left := isOther.uncut cell.1 isCell.left
  have right := isOther.uncut cell.2 isCell.right
  have inCell := isCell.contains
  have inOther := isOther.contains
  refine Prod.ext ?_ ?_ <;> omega

theorem mem_eventBoundaries {event : Event} {x : Int} :
    x ∈ eventBoundaries startAt endAt event ↔ (startAt < x ∧ x < endAt) ∧ EventEdge event x := by
  simp only [eventBoundaries, List.mem_filter, List.mem_cons, Option.mem_toList, decide_eq_true_eq,
    EventEdge]
  exact and_comm

/-- The boundaries of `build` are the cuts of the window. -/
theorem mem_boundaries_iff_cut (checked : RangesChecked db) (window : startAt < endAt) {transitions : List Int}
    (listed : policyTransitions zoneInfo (db.recordingPolicies.get? cameraId) startAt endAt = .ok transitions)
    {x : Int} :
    x ∈ boundaries startAt endAt (projectedSegments cachedFile db cameraId startAt endAt) transitions
        (gapEvidenceEvents paths db cameraId startAt endAt)
        ((timelineEvents db cameraId startAt endAt).filter SystemEventService.isSourceLoss) ↔
      Cut zoneInfo paths db cameraId startAt endAt x := by
  simp only [mem_boundaries, mem_eventBoundaries, List.mem_filter]
  constructor
  · rintro (rfl | rfl | ⟨item, member, edge⟩ | isTransition | ⟨event, member, inside, edge⟩ |
      ⟨event, ⟨member, loss⟩, inside, edge⟩)
    · exact .start
    · exact .stop
    · simp only [projectedSegments, List.mem_filterMap, mem_windowSegments, project_eq_some] at member
      obtain ⟨segment, ⟨inCatalog, ofCamera, beforeEnd, afterStart⟩, rfl, nonempty⟩ := member
      dsimp only at edge
      by_cases atStart : x = startAt
      · exact atStart ▸ .start
      · by_cases atEnd : x = endAt
        · exact atEnd ▸ .stop
        · refine @Cut.segment _ _ _ _ _ _ segment _ ?_ inCatalog ofCamera ?_ <;> omega
    · exact .transition listed isTransition
    · exact .evidence inside member edge
    · exact .sourceLoss inside member loss edge
  · intro cut
    cases cut with
    | start => exact .inl rfl
    | stop => exact .inr (.inl rfl)
    | @segment segment _ inside member ofCamera edge =>
      have positive := checked.segments segment member
      refine .inr (.inr (.inl ⟨_, List.mem_filterMap.mpr ⟨segment, mem_windowSegments.mpr ⟨member, ofCamera, ?_⟩,
        project_eq_some.mpr ⟨rfl, ?_⟩⟩, ?_⟩))
      · omega
      · omega
      · dsimp only
        omega
    | transition listed' member =>
      cases listed.symm.trans listed'
      exact .inr (.inr (.inr (.inl member)))
    | evidence inside member edge => exact .inr (.inr (.inr (.inr (.inl ⟨_, member, inside, edge⟩))))
    | sourceLoss inside member loss edge => exact .inr (.inr (.inr (.inr (.inr ⟨_, ⟨member, loss⟩, inside, edge⟩))))

/-! ## The sweep labels a cell with its reason -/

section Sweep

variable {policy : Option RecordingPolicy} {evidence : List Event} {projected : List ProjectedSegment}

/-- Every instant up to `upTo` that nothing covers carries the reason of its cell, and no other. -/
def ReasonedTo (reasonOf : Int × Int → Result GapReason) (projected : List ProjectedSegment)
    (cells : List (Int × Int)) (startAt upTo : Int) (gaps : List TimelineGapView) : Prop :=
  ∀ t, startAt ≤ t → t < upTo → bestAt projected t = none →
    ∃ cell ∈ cells, (cell.1 ≤ t ∧ t < cell.2) ∧ ∃ reason, reasonOf cell = .ok reason ∧
      ∀ other, Labelled gaps t other ↔ reason = other

theorem sweepCell_reasoned {cells : List (Int × Int)} {cell : Int × Int} (member : cell ∈ cells)
    {acc acc' : List TimelineRecordingRangeView × List TimelineGapView} (nonempty : cell.1 < cell.2)
    (between : ∀ item ∈ projected,
      (item.clippedStart ≤ cell.1 ∨ cell.2 ≤ item.clippedStart) ∧
        (item.clippedEnd ≤ cell.1 ∨ cell.2 ≤ item.clippedEnd))
    (swept : SweptTo projected startAt cell.1 acc)
    (reasoned : ReasonedTo (fun cell => emptyReason zoneInfo db cameraId cell.1 cell.2 policy evidence) projected
      cells startAt cell.1 acc.2)
    (stepped : sweepCell zoneInfo db cameraId policy evidence projected acc cell = .ok acc') :
    ReasonedTo (fun cell => emptyReason zoneInfo db cameraId cell.1 cell.2 policy evidence) projected
      cells startAt cell.2 acc'.2 := by
  have best : ∀ t, cell.1 ≤ t → t < cell.2 → bestAt projected t =
      ((projected.filter fun item => item.clippedStart < cell.2 ∧ cell.1 < item.clippedEnd).map
        ProjectedSegment.availability).argmax availabilityPriority := by
    intro t afterLeft beforeRight
    rw [filter_covering between ⟨afterLeft, beforeRight⟩, bestAt]
  intro t afterStart beforeRight uncovered
  rcases lt_or_ge t cell.1 with before | notBefore
  · obtain ⟨own, ownMember, inOwn, reason, found, labelled⟩ := reasoned t afterStart before uncovered
    refine ⟨own, ownMember, inOwn, reason, found, fun other => ?_⟩
    rw [← labelled other]
    unfold sweepCell at stepped
    dsimp only at stepped
    split at stepped
    · split at stepped
      · cases stepped
        rfl
      · cases stepped
        exact labelled_extend_before swept.gaps nonempty _ before other
    · rw [bind_eq_ok] at stepped
      obtain ⟨_, _, stepped⟩ := stepped
      cases stepped
      exact labelled_extend_before swept.gaps nonempty _ before other
  · rw [best t notBefore beforeRight] at uncovered
    unfold sweepCell at stepped
    dsimp only at stepped
    rw [uncovered] at stepped
    dsimp only at stepped
    rw [bind_eq_ok] at stepped
    obtain ⟨reason, found, stepped⟩ := stepped
    cases stepped
    exact ⟨cell, member, ⟨notBefore, beforeRight⟩, reason, found, fun other =>
      labelled_extend_cell swept.gaps nonempty reason ⟨notBefore, beforeRight⟩ other⟩

/-- The whole sweep, over sorted boundaries that contain the edges of the window and of every item. -/
theorem sweep_reasoned {ordered : List Int} {acc : List TimelineRecordingRangeView × List TimelineGapView}
    (sorted : ordered.Pairwise (· < ·)) (inside : ∀ x ∈ ordered, startAt ≤ x ∧ x ≤ endAt)
    (hasStart : startAt ∈ ordered) (hasEnd : endAt ∈ ordered)
    (hasEdges : ∀ item ∈ projected, item.clippedStart ∈ ordered ∧ item.clippedEnd ∈ ordered)
    (swept : (ordered.zip ordered.tail).foldlM (sweepCell zoneInfo db cameraId policy evidence projected)
      ([], []) = .ok acc) :
    ReasonedTo (fun cell => emptyReason zoneInfo db cameraId cell.1 cell.2 policy evidence) projected
      (ordered.zip ordered.tail) startAt endAt acc.2 := by
  obtain ⟨rest, rfl, lastIsEnd⟩ := eq_cons_of_bounds sorted hasStart hasEnd inside
  have start : SweptTo projected startAt startAt ([], []) :=
    ⟨stacked_nil _ _, stacked_nil _ _, fun t afterStart beforeStart => absurd beforeStart (not_lt.mpr afterStart),
      fun t afterStart beforeStart => absurd beforeStart (not_lt.mpr afterStart)⟩
  have done : SweptTo projected startAt ((startAt :: rest).getLast (List.cons_ne_nil _ _)) acc ∧
      ReasonedTo (fun cell => emptyReason zoneInfo db cameraId cell.1 cell.2 policy evidence) projected
        ((startAt :: rest).zip rest) startAt ((startAt :: rest).getLast (List.cons_ne_nil _ _)) acc.2 := by
    refine @foldlM_cells _ _ _ (fun upTo acc => SweptTo projected startAt upTo acc ∧
      ReasonedTo (fun cell => emptyReason zoneInfo db cameraId cell.1 cell.2 policy evidence) projected
        ((startAt :: rest).zip rest) startAt upTo acc.2) startAt rest ?_ _ _
      ⟨start, fun t afterStart beforeStart => absurd beforeStart (not_lt.mpr afterStart)⟩ swept
    rintro acc cell member acc' ⟨sweptTo, reasoned⟩ stepped
    obtain ⟨nonempty, between⟩ := zip_tail_gap sorted cell member
    have edges : ∀ item ∈ projected, (item.clippedStart ≤ cell.1 ∨ cell.2 ≤ item.clippedStart) ∧
        (item.clippedEnd ≤ cell.1 ∨ cell.2 ≤ item.clippedEnd) := fun item inProjected =>
      ⟨between _ (hasEdges item inProjected).1, between _ (hasEdges item inProjected).2⟩
    exact ⟨sweepCell_step (inside cell.1 (List.of_mem_zip member).1).1 nonempty edges sweptTo stepped,
      sweepCell_reasoned member nonempty edges sweptTo reasoned stepped⟩
  rw [lastIsEnd] at done
  exact done.2

end Sweep

/-- In what `build` returns, an uncovered instant carries the reason of the cell around it. -/
theorem build_gapReason (checked : RangesChecked db) {detail : TimelineDetailLevel} {view : PlaybackTimelineView}
    (built : build zoneInfo paths cachedFile db cameraId startAt endAt detail = .ok view)
    (inside : startAt ≤ t ∧ t < endAt) (uncovered : ∀ segment, ¬ SegmentCovers db cameraId t segment) :
    ∃ cell, CellAt zoneInfo paths db cameraId startAt endAt t cell ∧
      ∃ reason, emptyReason zoneInfo db cameraId cell.1 cell.2 (db.recordingPolicies.get? cameraId)
          (gapEvidenceEvents paths db cameraId startAt endAt) = .ok reason ∧
        ∀ other, Labelled view.gaps t other ↔ reason = other := by
  have window : startAt < endAt := lt_of_le_of_lt inside.1 inside.2
  unfold build at built
  dsimp only at built
  rw [bind_eq_ok] at built
  obtain ⟨transitions, listed, built⟩ := built
  rw [bind_eq_ok] at built
  obtain ⟨acc, swept, built⟩ := built
  cases built
  have reasoned := sweep_reasoned boundaries_sorted
    (boundaries_inside window (fun item member => projected_inside member) (policyTransitions_inside listed))
    (mem_boundaries.mpr (.inl rfl)) (mem_boundaries.mpr (.inr (.inl rfl)))
    (fun item member => ⟨mem_boundaries.mpr (.inr (.inr (.inl ⟨item, member, .inl rfl⟩))),
      mem_boundaries.mpr (.inr (.inr (.inl ⟨item, member, .inr rfl⟩)))⟩) swept
  have nothing : bestAt (projectedSegments cachedFile db cameraId startAt endAt) t = none := by
    refine bestAt_eq_none.mpr fun item member covers => ?_
    obtain ⟨segment, isCovered, _⟩ := (exists_projected_iff inside fun _ => True).mp ⟨item, member, covers, trivial⟩
    exact uncovered segment isCovered
  obtain ⟨cell, member, contains, reason, found, labelled⟩ := reasoned t inside.1 inside.2 nothing
  have isCut := @mem_boundaries_iff_cut zoneInfo paths cachedFile db cameraId startAt endAt checked window
    transitions listed
  obtain ⟨leftMember, rightMember⟩ := List.of_mem_zip member
  obtain ⟨_, between⟩ := zip_tail_gap boundaries_sorted cell member
  refine ⟨cell, ⟨contains, isCut.mp leftMember, isCut.mp (List.mem_of_mem_tail rightMember), fun x cut =>
    between x (isCut.mpr cut)⟩, reason, found, fun other => ?_⟩
  rw [labelled_reverse]
  exact labelled other

/-! ## The facts a reason is read from -/

/-- A source loss of the camera overlaps the interval. -/
def LossIn (db : Database) (cameraId : Uuid) (left right : Int) : Prop :=
  ∃ event ∈ db.events, SystemEventService.isSourceLoss event = true ∧ event.cameraId = some cameraId ∧
    overlaps event left right = true

/-- The last recording of the camera that ended before the instant was cut off by a source loss. -/
def EndedByLoss (db : Database) (cameraId : Uuid) (t : Int) : Prop :=
  ∃ previous, previousSegment db cameraId t = some previous ∧
    lower (previous.completionReason.getD "") = "source_lost"

/-- The runtime restarted in the interval, its two ends included. -/
def RestartIn (db : Database) (cameraId : Uuid) (left right : Int) : Prop :=
  ∃ event ∈ db.events, SystemEventService.isRuntimeRestart event = true ∧ event.cameraId = some cameraId ∧
    left ≤ event.startedAt ∧ event.startedAt ≤ right

/-- The camera's recording target was critical or unavailable in the interval. -/
def StorageFailureIn (paths : PathEnv) (db : Database) (cameraId : Uuid) (left right : Int) : Prop :=
  ∃ targetId, recordingTargetId paths db cameraId = some targetId ∧
    ∃ event ∈ db.events, event.source = SystemEventService.source ∧
      event.sourceInstanceId = some (SystemEventService.storageTargetInstance targetId) ∧
      event.category = SystemEventService.storageHealthCategory ∧
      event.label ∈ [some "storage_critical", some "storage_unavailable"] ∧ overlaps event left right = true

/-- A trigger of the camera that was neither cancelled nor failed overlaps the interval. -/
def TriggerIn (db : Database) (cameraId : Uuid) (left right : Int) : Prop :=
  ∃ trigger ∈ db.triggers, trigger.cameraId = cameraId ∧ trigger.state ≠ .cancelled ∧ trigger.state ≠ .failed ∧
    trigger.plannedStartAt < right ∧ trigger.plannedEndAt.all (fun plannedEnd => left < plannedEnd) = true

/-- The schedule wants recording in the middle of the interval. -/
def ScheduledIn (zoneInfo : String → Result TimeZone) (policy : RecordingPolicy) (left right : Int) : Prop :=
  RecordingPolicyService.baselineShouldRecord zoneInfo policy (left + half (right - left)) = .ok true

theorem overlaps_iff {event : Event} {left right : Int} :
    overlaps event left right = true ↔
      event.startedAt < right ∧ ∀ ended, event.endedAt = some ended → left < ended := by
  simp only [overlaps, decide_eq_true_eq, Option.all_eq_true]

section Outage

variable {left right : Int}

theorem mem_gapEvidenceEvents {event : Event} :
    event ∈ gapEvidenceEvents paths db cameraId startAt endAt ↔
      (event ∈ db.events ∧ event.source = SystemEventService.source ∧
        event.sourceInstanceId = some SystemEventService.sourceInstanceId ∧ event.cameraId = some cameraId ∧
        event.category ∈
          [SystemEventService.sourceConnectivityCategory, SystemEventService.runtimeHealthCategory] ∧
        event.startedAt ≤ endAt ∧ ∀ ended, event.endedAt = some ended → startAt ≤ ended) ∨
      ∃ targetId, recordingTargetId paths db cameraId = some targetId ∧ event ∈ db.events ∧
        event.source = SystemEventService.source ∧
        event.sourceInstanceId = some (SystemEventService.storageTargetInstance targetId) ∧
        event.category = SystemEventService.storageHealthCategory ∧
        event.startedAt < endAt ∧ ∀ ended, event.endedAt = some ended → startAt < ended := by
  unfold gapEvidenceEvents
  dsimp only
  rw [List.mem_insertionSort, List.mem_append, Table.mem_select]
  refine or_congr ?_ ?_
  · simp only [decide_eq_true_eq, Option.all_eq_true]
  · cases recordingTargetId paths db cameraId with
    | none => simp
    | some targetId =>
      simp only [Table.mem_select, decide_eq_true_eq, Option.all_eq_true, Option.some.injEq, exists_eq_left']

theorem isSourceLoss_iff {event : Event} :
    SystemEventService.isSourceLoss event = true ↔ event.source = SystemEventService.source ∧
      event.sourceInstanceId = some SystemEventService.sourceInstanceId ∧
      event.category = SystemEventService.sourceConnectivityCategory ∧
      event.label = some SystemEventService.sourceLostLabel := by
  simp only [SystemEventService.isSourceLoss, decide_eq_true_eq]

theorem isRuntimeRestart_iff {event : Event} :
    SystemEventService.isRuntimeRestart event = true ↔ event.source = SystemEventService.source ∧
      event.sourceInstanceId = some SystemEventService.sourceInstanceId ∧
      event.category = SystemEventService.runtimeHealthCategory ∧
      event.label = some SystemEventService.runtimeRestartLabel := by
  simp only [SystemEventService.isRuntimeRestart, decide_eq_true_eq]

/-- The interval lies in the window the evidence was collected for. -/
structure Within (startAt endAt left right : Int) : Prop where
  start : startAt ≤ left
  stop : right ≤ endAt

theorem any_sourceLoss (within : Within startAt endAt left right) :
    ((gapEvidenceEvents paths db cameraId startAt endAt).any fun event =>
      SystemEventService.isSourceLoss event && overlaps event left right) = true ↔ LossIn db cameraId left right := by
  obtain ⟨start, stop⟩ := within
  simp only [List.any_eq_true, Bool.and_eq_true, LossIn]
  constructor
  · rintro ⟨event, member, loss, overlap⟩
    rcases mem_gapEvidenceEvents.mp member with ⟨inCatalog, _, _, ofCamera, _⟩ | ⟨_, _, _, _, _, storage, _⟩
    · exact ⟨event, inCatalog, loss, ofCamera, overlap⟩
    · have category := (isSourceLoss_iff.mp loss).2.2.1
      exact absurd (category.symm.trans storage) (by decide)
  · rintro ⟨event, inCatalog, loss, ofCamera, overlap⟩
    obtain ⟨isSystem, ofInstance, category, _⟩ := isSourceLoss_iff.mp loss
    obtain ⟨starts, ends⟩ := overlaps_iff.mp overlap
    refine ⟨event, mem_gapEvidenceEvents.mpr (.inl ⟨inCatalog, isSystem, ofInstance, ofCamera, ?_, by omega,
      fun ended isEnd => ?_⟩), loss, overlap⟩
    · rw [category]
      exact List.mem_cons_self
    · have := ends ended isEnd
      omega

theorem any_runtimeRestart (checked : RangesChecked db) (within : Within startAt endAt left right) :
    ((gapEvidenceEvents paths db cameraId startAt endAt).any fun event =>
      SystemEventService.isRuntimeRestart event && (left ≤ event.startedAt && event.startedAt ≤ right)) = true ↔
        RestartIn db cameraId left right := by
  obtain ⟨start, stop⟩ := within
  simp only [List.any_eq_true, Bool.and_eq_true, decide_eq_true_eq, RestartIn]
  constructor
  · rintro ⟨event, member, restart, inside⟩
    rcases mem_gapEvidenceEvents.mp member with ⟨inCatalog, _, _, ofCamera, _⟩ | ⟨_, _, _, _, _, storage, _⟩
    · exact ⟨event, inCatalog, restart, ofCamera, inside⟩
    · have category := (isRuntimeRestart_iff.mp restart).2.2.1
      exact absurd (category.symm.trans storage) (by decide)
  · rintro ⟨event, inCatalog, restart, ofCamera, inside⟩
    obtain ⟨isSystem, ofInstance, category, _⟩ := isRuntimeRestart_iff.mp restart
    refine ⟨event, mem_gapEvidenceEvents.mpr (.inl ⟨inCatalog, isSystem, ofInstance, ofCamera, ?_, by omega,
      fun ended isEnd => ?_⟩), restart, inside⟩
    · rw [category]
      exact List.mem_cons_of_mem _ List.mem_cons_self
    · have := checked.events event inCatalog ended isEnd
      omega

theorem any_storageFailure (within : Within startAt endAt left right) :
    ((gapEvidenceEvents paths db cameraId startAt endAt).any fun event =>
      (event.category = SystemEventService.storageHealthCategory ∧
        event.label ∈ [some "storage_critical", some "storage_unavailable"]) && overlaps event left right) = true ↔
        StorageFailureIn paths db cameraId left right := by
  obtain ⟨start, stop⟩ := within
  simp only [List.any_eq_true, Bool.and_eq_true, decide_eq_true_eq, StorageFailureIn]
  constructor
  · rintro ⟨event, member, ⟨storage, label⟩, overlap⟩
    rcases mem_gapEvidenceEvents.mp member with
      ⟨_, _, _, _, category, _⟩ | ⟨targetId, isTarget, inCatalog, isSystem, ofInstance, _⟩
    · rw [storage] at category
      exact absurd category (by decide)
    · exact ⟨targetId, isTarget, event, inCatalog, isSystem, ofInstance, storage, label, overlap⟩
  · rintro ⟨targetId, isTarget, event, inCatalog, isSystem, ofInstance, storage, label, overlap⟩
    obtain ⟨starts, ends⟩ := overlaps_iff.mp overlap
    refine ⟨event, mem_gapEvidenceEvents.mpr (.inr ⟨targetId, isTarget, inCatalog, isSystem, ofInstance, storage,
      by omega, fun ended isEnd => ?_⟩), ⟨storage, label⟩, overlap⟩
    have := ends ended isEnd
    omega

theorem any_sourceLost :
    ((previousSegment db cameraId left).any fun previous =>
      lower (previous.completionReason.getD "") = "source_lost") = true ↔ EndedByLoss db cameraId left := by
  simp only [Option.any_eq_true, decide_eq_true_eq, EndedByLoss]

open scoped Classical in
/-- The outage reason of an interval, as a case distinction on the facts of the catalog. -/
theorem outageReason_eq (checked : RangesChecked db) (within : Within startAt endAt left right) :
    outageReason db cameraId left right (gapEvidenceEvents paths db cameraId startAt endAt) =
      if LossIn db cameraId left right ∨ EndedByLoss db cameraId left then .sourceLost
      else if RestartIn db cameraId left right then .runtimeRestart
      else if StorageFailureIn paths db cameraId left right then .storageFailure
      else .unknown := by
  unfold outageReason
  rw [if_congr (any_sourceLoss within) rfl rfl, if_congr any_sourceLost rfl rfl,
    if_congr (any_runtimeRestart checked within) rfl rfl, if_congr (any_storageFailure within) rfl rfl, ite_or]

end Outage

/-! ## What a cell knows of its instants -/

section Cell

variable {cell : Int × Int}

theorem Cut.inside (window : startAt < endAt) {x : Int} (cut : Cut zoneInfo paths db cameraId startAt endAt x) :
    startAt ≤ x ∧ x ≤ endAt := by
  cases cut with
  | start => omega
  | stop => omega
  | segment inside => omega
  | transition listed member =>
    have := policyTransitions_inside listed x member
    omega
  | evidence inside => omega
  | sourceLoss inside => omega

theorem CellAt.within (window : startAt < endAt)
    (isCell : CellAt zoneInfo paths db cameraId startAt endAt t cell) : Within startAt endAt cell.1 cell.2 :=
  ⟨(isCell.left.inside window).1, (isCell.right.inside window).2⟩

theorem CellAt.instant (window : startAt < endAt)
    (isCell : CellAt zoneInfo paths db cameraId startAt endAt t cell) : Within startAt endAt t (t + 1) := by
  have within := isCell.within window
  have contains := isCell.contains
  exact ⟨within.start.trans contains.1, by have := within.stop; omega⟩

/-- An event that is evidence overlaps the cell exactly when it overlaps the instant: its edges are
    cuts. -/
theorem CellAt.overlaps_iff (window : startAt < endAt)
    (isCell : CellAt zoneInfo paths db cameraId startAt endAt t cell) {event : Event}
    (member : event ∈ gapEvidenceEvents paths db cameraId startAt endAt) :
    overlaps event cell.1 cell.2 = true ↔ overlaps event t (t + 1) = true := by
  have within := isCell.within window
  have contains := isCell.contains
  have edge : ∀ x, EventEdge event x → startAt < x → x < endAt → x ≤ cell.1 ∨ cell.2 ≤ x :=
    fun x isEdge afterStart beforeEnd => isCell.uncut x (.evidence ⟨afterStart, beforeEnd⟩ member isEdge)
  have startEdge := edge event.startedAt (.inl rfl)
  rw [PlaybackTimelineService.overlaps_iff, PlaybackTimelineService.overlaps_iff]
  have start := within.start
  have stop := within.stop
  refine and_congr (by omega) (forall₂_congr fun ended isEnd => ?_)
  have endEdge := edge ended (.inr isEnd)
  omega

theorem lossIn_cell (window : startAt < endAt)
    (isCell : CellAt zoneInfo paths db cameraId startAt endAt t cell) :
    LossIn db cameraId cell.1 cell.2 ↔ LossIn db cameraId t (t + 1) := by
  rw [← @any_sourceLoss paths db cameraId _ _ _ _ (isCell.within window),
    ← @any_sourceLoss paths db cameraId _ _ _ _ (isCell.instant window), List.any_eq_true, List.any_eq_true]
  refine exists_congr fun event => and_congr_right fun member => ?_
  rw [Bool.and_eq_true, Bool.and_eq_true, isCell.overlaps_iff window member]

theorem storageFailureIn_cell (window : startAt < endAt)
    (isCell : CellAt zoneInfo paths db cameraId startAt endAt t cell) :
    StorageFailureIn paths db cameraId cell.1 cell.2 ↔ StorageFailureIn paths db cameraId t (t + 1) := by
  rw [← any_storageFailure (isCell.within window), ← any_storageFailure (isCell.instant window),
    List.any_eq_true, List.any_eq_true]
  refine exists_congr fun event => and_congr_right fun member => ?_
  rw [Bool.and_eq_true, Bool.and_eq_true, isCell.overlaps_iff window member]

/-- No recording ends inside the cell, so the cell and the instant look back at the same one. -/
theorem endedByLoss_cell (window : startAt < endAt)
    (isCell : CellAt zoneInfo paths db cameraId startAt endAt t cell) :
    EndedByLoss db cameraId cell.1 ↔ EndedByLoss db cameraId t := by
  have within := isCell.within window
  have contains := isCell.contains
  have same : previousSegment db cameraId cell.1 = previousSegment db cameraId t := by
    unfold previousSegment Table.select
    have start := within.start
    have stop := within.stop
    rw [List.filter_congr fun segment member => ?_]
    rw [decide_eq_decide]
    refine and_congr_right fun ofCamera => ⟨fun before => by omega, fun before => ?_⟩
    by_contra after
    have edge := isCell.uncut segment.endedAt
      (.segment ⟨by omega, by omega⟩ (Table.mem_def.mpr member) ofCamera (.inr rfl))
    omega
  rw [EndedByLoss, same, EndedByLoss]

end Cell

/-! ## The reason of an interval -/

/-- The reason of an interval on its own, as the player asks for it. -/
def reasonIn (zoneInfo : String → Result TimeZone) (paths : PathEnv) (db : Database) (cameraId : Uuid)
    (left right : Int) : Result GapReason :=
  emptyReason zoneInfo db cameraId left right none (gapEvidenceEvents paths db cameraId left right)

theorem any_trigger {left right : Int} :
    (db.triggers.rows.any fun trigger =>
      trigger.cameraId = cameraId ∧ trigger.state ≠ .cancelled ∧ trigger.state ≠ .failed ∧
        trigger.plannedStartAt < right ∧ trigger.plannedEndAt.all fun plannedEnd => left < plannedEnd) = true ↔
      TriggerIn db cameraId left right := by
  simp only [List.any_eq_true, decide_eq_true_eq, TriggerIn, Table.mem_def]

/-- The evidence of the whole window says no more about an interval than its own evidence. -/
theorem emptyReason_window (checked : RangesChecked db) {left right : Int} (within : Within startAt endAt left right) :
    emptyReason zoneInfo db cameraId left right (db.recordingPolicies.get? cameraId)
      (gapEvidenceEvents paths db cameraId startAt endAt) = reasonIn zoneInfo paths db cameraId left right := by
  have same : outageReason db cameraId left right (gapEvidenceEvents paths db cameraId startAt endAt) =
      outageReason db cameraId left right (gapEvidenceEvents paths db cameraId left right) := by
    rw [outageReason_eq checked within, outageReason_eq checked ⟨le_rfl, le_rfl⟩]
  unfold reasonIn emptyReason
  rw [Option.or_self, Option.none_or, same]

/-! ## Where the cell and the player agree -/

/-- Where recording was wanted, the cell around the instant and the millisecond after it show the
    same outage: a source loss covers the instant or ended the last recording; or no source loss
    begins within the millisecond, the two contain a restart alike, and without one a storage failure
    covers the instant or none begins within the millisecond. -/
def OutageAgrees (paths : PathEnv) (db : Database) (cameraId : Uuid) (t : Int) (cell : Int × Int) : Prop :=
  LossIn db cameraId t (t + 1) ∨ EndedByLoss db cameraId t ∨
    (¬ LossIn db cameraId t (t + milliseconds 1) ∧
      (RestartIn db cameraId cell.1 cell.2 ↔ RestartIn db cameraId t (t + milliseconds 1)) ∧
      (RestartIn db cameraId t (t + milliseconds 1) ∨ StorageFailureIn paths db cameraId t (t + 1) ∨
        ¬ StorageFailureIn paths db cameraId t (t + milliseconds 1)))

/-- The schedule samples alike in the cell and in the millisecond after the instant, the triggers of
    an event-only camera overlap both or neither, and where recording was wanted the outage agrees. -/
def CellAgrees (zoneInfo : String → Result TimeZone) (paths : PathEnv) (db : Database) (cameraId : Uuid)
    (t : Int) (cell : Int × Int) : Prop :=
  match db.recordingPolicies.get? cameraId with
  | none => True
  | some policy => policy.enabled = true →
    match policy.baselineMode with
    | .continuous => OutageAgrees paths db cameraId t cell
    | .schedule =>
      (ScheduledIn zoneInfo policy cell.1 cell.2 ↔ ScheduledIn zoneInfo policy t (t + milliseconds 1)) ∧
        (ScheduledIn zoneInfo policy t (t + milliseconds 1) → OutageAgrees paths db cameraId t cell)
    | .disabled => policy.eventRecordingEnabled = true →
      (TriggerIn db cameraId cell.1 cell.2 ↔ TriggerIn db cameraId t (t + milliseconds 1)) ∧
        (TriggerIn db cameraId t (t + milliseconds 1) → OutageAgrees paths db cameraId t cell)

theorem overlaps_longer {event : Event} {left right later : Int} (longer : right ≤ later)
    (overlap : overlaps event left right = true) : overlaps event left later = true := by
  rw [overlaps_iff] at overlap ⊢
  exact ⟨overlap.1.trans_le longer, overlap.2⟩

theorem LossIn.longer {left right later : Int} (loss : LossIn db cameraId left right) (longer : right ≤ later) :
    LossIn db cameraId left later := by
  obtain ⟨event, member, isLoss, ofCamera, overlap⟩ := loss
  exact ⟨event, member, isLoss, ofCamera, overlaps_longer longer overlap⟩

theorem StorageFailureIn.longer {left right later : Int} (failure : StorageFailureIn paths db cameraId left right)
    (longer : right ≤ later) : StorageFailureIn paths db cameraId left later := by
  obtain ⟨targetId, isTarget, event, member, isSystem, ofInstance, category, label, overlap⟩ := failure
  exact ⟨targetId, isTarget, event, member, isSystem, ofInstance, category, label, overlaps_longer longer overlap⟩

section Agreement

variable {cell : Int × Int}

open scoped Classical in
/-- Two outages, read from what is known at the instant and soon after it, are the same. -/
theorem outage_eq_iff {lossNow lossSoon ended restart restartSoon failureNow failureSoon : Prop}
    (lossStays : lossNow → lossSoon) (failureStays : failureNow → failureSoon) :
    (if lossNow ∨ ended then GapReason.sourceLost else if restart then .runtimeRestart
      else if failureNow then .storageFailure else .unknown) =
        (if lossSoon ∨ ended then GapReason.sourceLost else if restartSoon then .runtimeRestart
          else if failureSoon then .storageFailure else .unknown) ↔
      lossNow ∨ ended ∨ (¬ lossSoon ∧ (restart ↔ restartSoon) ∧ (restartSoon ∨ failureNow ∨ ¬ failureSoon)) := by
  by_cases wasEnded : ended
  · simp [wasEnded]
  by_cases isLost : lossNow
  · simp [isLost, lossStays isLost]
  by_cases willBeLost : lossSoon
  · simp only [wasEnded, isLost, willBeLost, or_self, or_false, if_true, if_false, not_true_eq_false, false_and,
      iff_false]
    split_ifs <;> decide
  simp only [wasEnded, isLost, willBeLost, or_self, if_false, not_false_eq_true, true_and, false_or]
  by_cases restarted : restart <;> by_cases restarts : restartSoon <;>
    by_cases fails : failureNow <;> by_cases willFail : failureSoon <;>
      simp_all

open scoped Classical in
theorem outageReason_agrees_iff (checked : RangesChecked db) (window : startAt < endAt)
    (isCell : CellAt zoneInfo paths db cameraId startAt endAt t cell) :
    outageReason db cameraId cell.1 cell.2 (gapEvidenceEvents paths db cameraId cell.1 cell.2) =
        outageReason db cameraId t (t + milliseconds 1)
          (gapEvidenceEvents paths db cameraId t (t + milliseconds 1)) ↔
      OutageAgrees paths db cameraId t cell := by
  have millisecond : t + 1 ≤ t + milliseconds 1 := by
    simp only [milliseconds]
    omega
  rw [outageReason_eq checked ⟨le_rfl, le_rfl⟩, outageReason_eq checked ⟨le_rfl, le_rfl⟩, OutageAgrees,
    ← outage_eq_iff (fun loss => LossIn.longer loss millisecond)
      (fun failure => StorageFailureIn.longer failure millisecond)]
  rw [if_congr (or_congr (lossIn_cell window isCell) (endedByLoss_cell window isCell)) rfl
    (if_congr Iff.rfl rfl (if_congr (storageFailureIn_cell window isCell) rfl rfl))]

/-- Two reasons that are read from an outage only where recording was wanted. -/
theorem wanted_eq_iff {wanted wantedSoon agrees : Prop} {outage outageSoon unwanted reason reasonSoon : GapReason}
    (agree : outage = outageSoon ↔ agrees) (ne : outage ≠ unwanted) (neSoon : outageSoon ≠ unwanted)
    (isReason : (wanted ∧ reason = outage) ∨ (¬ wanted ∧ reason = unwanted))
    (isReasonSoon : (wantedSoon ∧ reasonSoon = outageSoon) ∨ (¬ wantedSoon ∧ reasonSoon = unwanted)) :
    reason = reasonSoon ↔ (wanted ↔ wantedSoon) ∧ (wantedSoon → agrees) := by
  rw [← agree]
  rcases isReason with ⟨isWanted, rfl⟩ | ⟨notWanted, rfl⟩ <;>
    rcases isReasonSoon with ⟨isWantedSoon, rfl⟩ | ⟨notWantedSoon, rfl⟩
  · exact ⟨fun same => ⟨iff_of_true isWanted isWantedSoon, fun _ => same⟩, fun agrees => agrees.2 isWantedSoon⟩
  · exact iff_of_false ne fun agrees => notWantedSoon (agrees.1.mp isWanted)
  · exact iff_of_false neSoon.symm fun agrees => notWanted (agrees.1.mpr isWantedSoon)
  · exact iff_of_true rfl ⟨iff_of_false notWanted notWantedSoon, fun isWantedSoon => absurd isWantedSoon notWantedSoon⟩

theorem ite_not_ok {wanted : Prop} [Decidable wanted] {outage unwanted reason : GapReason}
    (returned : (if ¬ wanted then .ok unwanted else .ok outage : Result GapReason) = .ok reason) :
    (wanted ∧ reason = outage) ∨ (¬ wanted ∧ reason = unwanted) := by
  split at returned
  next notWanted =>
    cases returned
    exact .inr ⟨notWanted, rfl⟩
  next isWanted =>
    cases returned
    exact .inl ⟨not_not.mp isWanted, rfl⟩

/-- The reason of the cell is the reason the player finds, exactly where the two agree. -/
theorem reasonIn_agrees_iff (checked : RangesChecked db) (window : startAt < endAt)
    (isCell : CellAt zoneInfo paths db cameraId startAt endAt t cell) {reason playerReason : GapReason}
    (ofCell : reasonIn zoneInfo paths db cameraId cell.1 cell.2 = .ok reason)
    (ofPlayer : reasonIn zoneInfo paths db cameraId t (t + milliseconds 1) = .ok playerReason) :
    reason = playerReason ↔ CellAgrees zoneInfo paths db cameraId t cell := by
  have outage := outageReason_agrees_iff checked window isCell
  have outageNe : ∀ left right evidence, outageReason db cameraId left right evidence ≠ .notScheduled ∧
      outageReason db cameraId left right evidence ≠ .noEvent := by
    intro left right evidence
    unfold outageReason
    split_ifs <;> decide
  unfold reasonIn emptyReason at ofCell ofPlayer
  unfold CellAgrees
  rw [Option.none_or] at ofCell ofPlayer
  split
  next missing =>
    rw [missing] at ofCell ofPlayer
    cases ofCell
    cases ofPlayer
    exact iff_of_true rfl trivial
  next policy found =>
    rw [found] at ofCell ofPlayer
    dsimp only at ofCell ofPlayer
    by_cases enabled : policy.enabled = true
    · rw [if_neg (not_not.mpr enabled)] at ofCell ofPlayer
      rw [forall_prop_of_true enabled]
      cases mode : policy.baselineMode with
      | continuous =>
        rw [mode] at ofCell ofPlayer
        cases ofCell
        cases ofPlayer
        exact outage
      | schedule =>
        rw [mode] at ofCell ofPlayer
        dsimp only at ofCell ofPlayer
        rw [bind_eq_ok] at ofCell ofPlayer
        obtain ⟨scheduled, sampled, ofCell⟩ := ofCell
        obtain ⟨scheduledSoon, sampledSoon, ofPlayer⟩ := ofPlayer
        have isScheduled : ScheduledIn zoneInfo policy cell.1 cell.2 ↔ scheduled = true := by
          rw [ScheduledIn, sampled, Except.ok.injEq]
        have isScheduledSoon : ScheduledIn zoneInfo policy t (t + milliseconds 1) ↔ scheduledSoon = true := by
          rw [ScheduledIn, sampledSoon, Except.ok.injEq]
        dsimp only
        rw [isScheduled, isScheduledSoon]
        exact wanted_eq_iff outage (outageNe _ _ _).1 (outageNe _ _ _).1 (ite_not_ok ofCell)
          (ite_not_ok ofPlayer)
      | disabled =>
        rw [mode] at ofCell ofPlayer
        dsimp only at ofCell ofPlayer ⊢
        by_cases eventOnly : policy.eventRecordingEnabled = true
        · rw [if_neg (not_not.mpr eventOnly)] at ofCell ofPlayer
          rw [forall_prop_of_true eventOnly, ← any_trigger, ← any_trigger]
          rw [← ite_not] at ofCell ofPlayer
          exact wanted_eq_iff outage (outageNe _ _ _).2 (outageNe _ _ _).2 (ite_not_ok ofCell) (ite_not_ok ofPlayer)
        · rw [if_pos eventOnly] at ofCell ofPlayer
          cases ofCell
          cases ofPlayer
          exact iff_of_true rfl fun isEventOnly => absurd isEventOnly eventOnly
    · rw [if_pos enabled] at ofCell ofPlayer
      cases ofCell
      cases ofPlayer
      exact iff_of_true rfl fun isEnabled => absurd isEnabled enabled

end Agreement

/-! ## Windows and the player -/

theorem CellAt.reasons_agree_iff (checked : RangesChecked db) (window : startAt < endAt) {cell : Int × Int}
    (isCell : CellAt zoneInfo paths db cameraId startAt endAt t cell) {reason playerReason : GapReason}
    (ofCell : emptyReason zoneInfo db cameraId cell.1 cell.2 (db.recordingPolicies.get? cameraId)
      (gapEvidenceEvents paths db cameraId startAt endAt) = .ok reason)
    (ofPlayer : reasonIn zoneInfo paths db cameraId t (t + milliseconds 1) = .ok playerReason) :
    reason = playerReason ↔
      ∀ cell, CellAt zoneInfo paths db cameraId startAt endAt t cell →
        CellAgrees zoneInfo paths db cameraId t cell := by
  rw [emptyReason_window checked (isCell.within window)] at ofCell
  rw [reasonIn_agrees_iff checked window isCell ofCell ofPlayer]
  exact ⟨fun agrees other isOther => isCell.unique isOther ▸ agrees, fun agree => agree cell isCell⟩

/-- Where nothing covers the instant, the player asks for the reason of the millisecond after it. -/
theorem plan_uncovered {env : PlaybackEnv} (uncovered : ∀ segment, ¬ SegmentCovers db cameraId t segment)
    {found : PlaybackPlan} (planned : PlaybackResolverService.plan env db zoneInfo paths cameraId t = .ok found) :
    ∃ reason, reasonIn zoneInfo paths db cameraId t (t + milliseconds 1) = .ok reason ∧
      found = PlaybackResolverService.gapPlan db cameraId t reason := by
  have nothing : PlaybackResolverService.segmentsAt db cameraId t = [] := by
    refine List.eq_nil_iff_forall_not_mem.mpr fun segment member => uncovered segment ?_
    rw [PlaybackResolverService.segmentsAt, List.mem_insertionSort, Table.mem_select, decide_eq_true_eq] at member
    exact member
  unfold PlaybackResolverService.plan at planned
  rw [nothing] at planned
  dsimp only [List.findSome?_nil] at planned
  rw [List.map_nil, List.isEmpty_nil, if_pos rfl, bind_eq_ok] at planned
  obtain ⟨reason, isReason, planned⟩ := planned
  cases planned
  exact ⟨reason, isReason, rfl⟩

/-- Two windows around an instant that no recording covers and the player give one reason, exactly
    when the cell of either window agrees with the millisecond after the instant. -/
theorem gapReason_sameEverywhere_iff (zoneInfo : String → Result TimeZone) (paths : PathEnv) (env : PlaybackEnv)
    (db : Database) (cameraId : Uuid) (t start₁ end₁ start₂ end₂ : Int) (detail₁ detail₂ : TimelineDetailLevel)
    (view₁ view₂ : PlaybackTimelineView) (found : PlaybackPlan) (checked : RangesChecked db)
    (uncovered : ∀ segment, ¬ SegmentCovers db cameraId t segment)
    (inside₁ : start₁ < t ∧ t < end₁) (inside₂ : start₂ < t ∧ t < end₂)
    (built₁ : build zoneInfo paths (fun segment => (env.cachedFile segment).isSome) db cameraId start₁ end₁
      detail₁ = .ok view₁)
    (built₂ : build zoneInfo paths (fun segment => (env.cachedFile segment).isSome) db cameraId start₂ end₂
      detail₂ = .ok view₂)
    (planned : PlaybackResolverService.plan env db zoneInfo paths cameraId t = .ok found) :
    (∃ reason, Labelled view₁.gaps t reason ∧ Labelled view₂.gaps t reason ∧
        ∃ gap, found = .gap gap ∧ gap.reason = reason) ↔
      (∀ cell, CellAt zoneInfo paths db cameraId start₁ end₁ t cell →
        CellAgrees zoneInfo paths db cameraId t cell) ∧
      ∀ cell, CellAt zoneInfo paths db cameraId start₂ end₂ t cell →
        CellAgrees zoneInfo paths db cameraId t cell := by
  obtain ⟨cell₁, isCell₁, reason₁, found₁, labelled₁⟩ :=
    build_gapReason checked built₁ ⟨inside₁.1.le, inside₁.2⟩ uncovered
  obtain ⟨cell₂, isCell₂, reason₂, found₂, labelled₂⟩ :=
    build_gapReason checked built₂ ⟨inside₂.1.le, inside₂.2⟩ uncovered
  obtain ⟨playerReason, ofPlayer, rfl⟩ := plan_uncovered uncovered planned
  rw [← isCell₁.reasons_agree_iff checked (inside₁.1.trans inside₁.2) found₁ ofPlayer,
    ← isCell₂.reasons_agree_iff checked (inside₂.1.trans inside₂.2) found₂ ofPlayer]
  constructor
  · rintro ⟨reason, inView₁, inView₂, gap, isGap, rfl⟩
    cases isGap
    exact ⟨(labelled₁ _).mp inView₁, (labelled₂ _).mp inView₂⟩
  · rintro ⟨same₁, same₂⟩
    exact ⟨playerReason, (labelled₁ _).mpr same₁, (labelled₂ _).mpr same₂, _, rfl, rfl⟩

/-! ## A trigger that is about to start -/

/-- A camera that records events only, with one trigger from the tenth to the twentieth second. -/
def eventOnlyDatabase : Database :=
  { recordingPolicies := ⟨[{ cameraId := 3, baselineMode := .disabled, eventRecordingEnabled := true }], by decide⟩
    triggers := ⟨[{ id := 1, cameraId := 3, type := "event", source := "frigate", requestedAt := 10000000
                    preRollSeconds := 0, postRollSeconds := 0, plannedStartAt := 10000000
                    plannedEndAt := some 20000000, state := .completed }], by decide⟩ }

def noCache : PlaybackEnv :=
  { resolveRoot := posixPaths.resolveRoot
    resolveWithin := fun root path => some (root ++ "/" ++ path)
    cachedFile := fun _ => none
    roundMs := fun micros => micros / 1000 }

theorem eventOnly_checked : RangesChecked eventOnlyDatabase :=
  ⟨fun _ member => absurd member (Table.not_mem_empty _), fun _ member => absurd member (Table.not_mem_empty _)⟩

theorem eventOnly_uncovered (t : Int) : ∀ segment, ¬ SegmentCovers eventOnlyDatabase 3 t segment :=
  fun _ covers => Table.not_mem_empty _ covers.1

/-- Five seconds into a window of eight or of seven seconds the trigger is out of sight. -/
theorem gapReason_sameEverywhere_iff_eventOnly :
    ∃ (view₁ view₂ : PlaybackTimelineView) (found : PlaybackPlan),
      build RecordingPolicyService.utcOnly posixPaths (fun segment => (noCache.cachedFile segment).isSome)
        eventOnlyDatabase 3 0 8000000 .minute = .ok view₁ ∧
      build RecordingPolicyService.utcOnly posixPaths (fun segment => (noCache.cachedFile segment).isSome)
        eventOnlyDatabase 3 1000000 7000000 .minute = .ok view₂ ∧
      ((∃ reason, Labelled view₁.gaps 5000000 reason ∧ Labelled view₂.gaps 5000000 reason ∧
          ∃ gap, found = .gap gap ∧ gap.reason = reason) ↔
        (∀ cell, CellAt RecordingPolicyService.utcOnly posixPaths eventOnlyDatabase 3 0 8000000 5000000 cell →
          CellAgrees RecordingPolicyService.utcOnly posixPaths eventOnlyDatabase 3 5000000 cell) ∧
        ∀ cell, CellAt RecordingPolicyService.utcOnly posixPaths eventOnlyDatabase 3 1000000 7000000 5000000 cell →
          CellAgrees RecordingPolicyService.utcOnly posixPaths eventOnlyDatabase 3 5000000 cell) := by
  have first : PlaybackTimelineView.gaps <$> build RecordingPolicyService.utcOnly posixPaths
      (fun segment => (noCache.cachedFile segment).isSome) eventOnlyDatabase 3 0 8000000 .minute =
        .ok [⟨0, 8000000, .noEvent⟩] := by decide
  have second : PlaybackTimelineView.gaps <$> build RecordingPolicyService.utcOnly posixPaths
      (fun segment => (noCache.cachedFile segment).isSome) eventOnlyDatabase 3 1000000 7000000 .minute =
        .ok [⟨1000000, 7000000, .noEvent⟩] := by decide
  have planned : PlaybackResolverService.plan noCache eventOnlyDatabase RecordingPolicyService.utcOnly posixPaths 3
      5000000 = .ok (PlaybackResolverService.gapPlan eventOnlyDatabase 3 5000000 .noEvent) := by decide
  obtain ⟨view₁, built₁, _⟩ := map_eq_ok.mp first
  obtain ⟨view₂, built₂, _⟩ := map_eq_ok.mp second
  exact ⟨view₁, view₂, _, built₁, built₂,
    gapReason_sameEverywhere_iff RecordingPolicyService.utcOnly posixPaths noCache eventOnlyDatabase 3 5000000
      0 8000000 1000000 7000000 .minute .minute view₁ view₂ _ eventOnly_checked (eventOnly_uncovered _)
      (by decide) (by decide) built₁ built₂ planned⟩

/-- The window that ends before the trigger starts shows that there was no event at the fifth second,
    the one that reaches over it shows an unknown outage. -/
theorem trigger_changes_gapReason :
    ¬ ∀ (zoneInfo : String → Result TimeZone) (paths : PathEnv) (env : PlaybackEnv) (db : Database)
      (cameraId : Uuid) (t start₁ end₁ start₂ end₂ : Int) (detail₁ detail₂ : TimelineDetailLevel)
      (view₁ view₂ : PlaybackTimelineView) (found : PlaybackPlan), RangesChecked db →
      (∀ segment, ¬ SegmentCovers db cameraId t segment) → start₁ < t ∧ t < end₁ → start₂ < t ∧ t < end₂ →
      build zoneInfo paths (fun segment => (env.cachedFile segment).isSome) db cameraId start₁ end₁ detail₁ =
        .ok view₁ →
      build zoneInfo paths (fun segment => (env.cachedFile segment).isSome) db cameraId start₂ end₂ detail₂ =
        .ok view₂ →
      PlaybackResolverService.plan env db zoneInfo paths cameraId t = .ok found →
      ∃ reason, Labelled view₁.gaps t reason ∧ Labelled view₂.gaps t reason ∧
        ∃ gap, found = .gap gap ∧ gap.reason = reason := by
  intro sameEverywhere
  have first : PlaybackTimelineView.gaps <$> build RecordingPolicyService.utcOnly posixPaths
      (fun segment => (noCache.cachedFile segment).isSome) eventOnlyDatabase 3 0 8000000 .minute =
        .ok [⟨0, 8000000, .noEvent⟩] := by decide
  have second : PlaybackTimelineView.gaps <$> build RecordingPolicyService.utcOnly posixPaths
      (fun segment => (noCache.cachedFile segment).isSome) eventOnlyDatabase 3 0 30000000 .minute =
        .ok [⟨0, 30000000, .unknown⟩] := by decide
  have planned : PlaybackResolverService.plan noCache eventOnlyDatabase RecordingPolicyService.utcOnly posixPaths 3
      5000000 = .ok (PlaybackResolverService.gapPlan eventOnlyDatabase 3 5000000 .noEvent) := by decide
  obtain ⟨view₁, built₁, gaps₁⟩ := map_eq_ok.mp first
  obtain ⟨view₂, built₂, gaps₂⟩ := map_eq_ok.mp second
  obtain ⟨reason, inView₁, inView₂, _⟩ := sameEverywhere _ _ noCache _ 3 5000000 0 8000000 0 30000000 .minute .minute
    view₁ view₂ _ eventOnly_checked (eventOnly_uncovered _) (by decide) (by decide) built₁ built₂ planned
  rw [gaps₁] at inView₁
  rw [gaps₂] at inView₂
  obtain ⟨gap₁, member₁, _, isNoEvent⟩ := inView₁
  obtain ⟨gap₂, member₂, _, isUnknown⟩ := inView₂
  rw [List.mem_singleton.mp member₁] at isNoEvent
  rw [List.mem_singleton.mp member₂] at isUnknown
  exact absurd (isNoEvent.trans isUnknown.symm) (by decide)

end ZeroNvr.PlaybackTimelineService
