import ZeroNvr.Recordings.Timeline

/-! # The timeline is an exact cover

Every clipped start and end is a boundary, so within a cell the overlapping
segments are the segments that cover any one of its instants
(`filter_covering`).  The sweep then labels every instant by what covers it, and
the stacks it builds stay tidy.
-/

namespace ZeroNvr

def ProjectedSegment.Covers (item : ProjectedSegment) (t : Int) : Prop :=
  item.clippedStart ≤ t ∧ t < item.clippedEnd

namespace PlaybackTimelineService

open Lib

variable {zoneInfo : String → Result TimeZone} {paths : PathEnv} {cachedFile : RecordingSegment → Bool}
  {db : Database} {cameraId : Uuid} {startAt endAt : Int}

/-! ## What covers an instant -/

/-- The segment of the catalog belongs to the camera and covers the instant. -/
def SegmentCovers (db : Database) (cameraId : Uuid) (t : Int) (segment : RecordingSegment) : Prop :=
  segment ∈ db.segments ∧ segment.cameraId = cameraId ∧ segment.startedAt ≤ t ∧ t < segment.endedAt

theorem mem_windowSegments {segment : RecordingSegment} :
    segment ∈ windowSegments db cameraId startAt endAt ↔
      segment ∈ db.segments ∧ segment.cameraId = cameraId ∧ segment.startedAt < endAt ∧
        startAt < segment.endedAt := by
  rw [windowSegments, List.mem_insertionSort, Table.mem_select, decide_eq_true_eq]

theorem project_eq_some {segment : RecordingSegment} {item : ProjectedSegment} :
    project cachedFile db startAt endAt segment = some item ↔
      item = { segment, availability := availability cachedFile db segment
               clippedStart := max segment.startedAt startAt, clippedEnd := min segment.endedAt endAt } ∧
        max segment.startedAt startAt < min segment.endedAt endAt := by
  unfold project
  dsimp only
  split
  next empty => simp [not_lt.mpr empty]
  next nonempty =>
    rw [Option.some.injEq]
    exact ⟨fun same => ⟨same.symm, not_le.mp nonempty⟩, fun same => same.1.symm⟩

/-- The projection keeps, at every instant of the window, the segments that cover it. -/
theorem exists_projected_iff {t : Int} (inside : startAt ≤ t ∧ t < endAt) (P : Availability → Prop) :
    (∃ item ∈ projectedSegments cachedFile db cameraId startAt endAt, item.Covers t ∧ P item.availability) ↔
      ∃ segment, SegmentCovers db cameraId t segment ∧ P (availability cachedFile db segment) := by
  simp only [projectedSegments, List.mem_filterMap, mem_windowSegments, project_eq_some]
  constructor
  · rintro ⟨_, ⟨segment, ⟨member, ofCamera, _⟩, rfl, _⟩, covers, holds⟩
    refine ⟨segment, ⟨member, ofCamera, ?_⟩, holds⟩
    simp only [ProjectedSegment.Covers] at covers
    omega
  · rintro ⟨segment, ⟨member, ofCamera, started, ended⟩, holds⟩
    refine ⟨_, ⟨segment, ⟨member, ofCamera, ?_⟩, rfl, ?_⟩, ?_, holds⟩
    · omega
    · omega
    · simp only [ProjectedSegment.Covers]
      omega

theorem projected_inside {item : ProjectedSegment}
    (member : item ∈ projectedSegments cachedFile db cameraId startAt endAt) :
    startAt ≤ item.clippedStart ∧ item.clippedEnd ≤ endAt ∧ item.clippedStart < item.clippedEnd := by
  simp only [projectedSegments, List.mem_filterMap, project_eq_some] at member
  obtain ⟨segment, _, rfl, nonempty⟩ := member
  exact ⟨le_max_right _ _, min_le_right _ _, nonempty⟩

/-- The best availability among the segments that cover an instant. -/
def bestAt (projected : List ProjectedSegment) (t : Int) : Option Availability :=
  ((projected.filter fun item => item.clippedStart ≤ t ∧ t < item.clippedEnd).map
    ProjectedSegment.availability).argmax availabilityPriority

theorem bestAt_eq_none {projected : List ProjectedSegment} {t : Int} :
    bestAt projected t = none ↔ ∀ item ∈ projected, ¬ item.Covers t := by
  simp [bestAt, List.argmax_eq_none, ProjectedSegment.Covers]

theorem bestAt_eq_some {projected : List ProjectedSegment} {t : Int} {best : Availability}
    (found : bestAt projected t = some best) :
    (∃ item ∈ projected, item.Covers t ∧ item.availability = best) ∧
      ∀ item ∈ projected, item.Covers t → availabilityPriority item.availability ≤ availabilityPriority best := by
  constructor
  · have member := List.argmax_mem found
    simp only [List.mem_map, List.mem_filter, decide_eq_true_eq] at member
    obtain ⟨item, ⟨inProjected, covers⟩, rfl⟩ := member
    exact ⟨item, inProjected, covers, rfl⟩
  · intro item inProjected covers
    refine List.le_of_mem_argmax (List.mem_map_of_mem (List.mem_filter.mpr ⟨inProjected, ?_⟩)) found
    exact decide_eq_true covers

theorem playable_iff (availability : Availability) :
    playable availability ↔ 4 ≤ availabilityPriority availability := by
  cases availability <;> decide

/-- The best availability is playable exactly when some covering segment is. -/
theorem bestAt_playable {projected : List ProjectedSegment} {t : Int} :
    (bestAt projected t).any playable ↔ ∃ item ∈ projected, item.Covers t ∧ playable item.availability := by
  cases found : bestAt projected t with
  | none =>
    rw [bestAt_eq_none] at found
    constructor
    · intro none
      cases none
    · rintro ⟨item, member, covers, _⟩
      exact absurd covers (found item member)
  | some best =>
    obtain ⟨⟨item, member, covers, rfl⟩, greatest⟩ := bestAt_eq_some found
    rw [Option.any_some]
    constructor
    · exact fun isPlayable => ⟨item, member, covers, isPlayable⟩
    · rintro ⟨other, otherMember, otherCovers, isPlayable⟩
      rw [playable_iff] at isPlayable ⊢
      exact isPlayable.trans (greatest other otherMember otherCovers)

/-! ## Boundaries -/

section Boundaries

variable {projected : List ProjectedSegment} {transitions : List Int} {evidence sourceLosses : List Event}

theorem mem_boundaries {x : Int} :
    x ∈ boundaries startAt endAt projected transitions evidence sourceLosses ↔
      x = startAt ∨ x = endAt ∨ (∃ item ∈ projected, x = item.clippedStart ∨ x = item.clippedEnd) ∨
        x ∈ transitions ∨ (∃ event ∈ evidence, x ∈ eventBoundaries startAt endAt event) ∨
        ∃ event ∈ sourceLosses, x ∈ eventBoundaries startAt endAt event := by
  simp only [boundaries, List.mem_insertionSort, List.mem_dedup, List.mem_append, List.mem_cons,
    List.not_mem_nil, or_false, List.mem_flatMap, or_assoc]

theorem boundaries_sorted :
    (boundaries startAt endAt projected transitions evidence sourceLosses).Pairwise (· < ·) := by
  refine List.SortedLT.pairwise (List.sortedLT_iff_nodup_and_sortedLE.mpr ⟨?_, ?_⟩)
  · exact (List.perm_insertionSort _ _).nodup_iff.mpr (List.nodup_dedup _)
  · exact List.sortedLE_insertionSort

theorem eventBoundaries_inside {event : Event} {x : Int} (member : x ∈ eventBoundaries startAt endAt event) :
    startAt < x ∧ x < endAt := by
  simpa using (List.mem_filter.mp member).2

theorem scheduleTransitions_inside {policy : RecordingPolicy} (passes : Nat) {cursor : Int}
    {transitions : List Int}
    (listed : scheduleTransitions zoneInfo policy startAt endAt passes cursor = .ok transitions) :
    ∀ x ∈ transitions, startAt < x ∧ x < endAt := by
  induction passes generalizing cursor transitions with
  | zero =>
    cases listed
    exact fun _ member => absurd member List.not_mem_nil
  | succ passes ih =>
    rw [scheduleTransitions, bind_eq_ok] at listed
    obtain ⟨found, _, listed⟩ := listed
    cases found with
    | none =>
      cases listed
      exact fun _ member => absurd member List.not_mem_nil
    | some transition =>
      dsimp only at listed
      split at listed
      · cases listed
        exact fun _ member => absurd member List.not_mem_nil
      next beforeEnd =>
        rw [bind_eq_ok] at listed
        obtain ⟨later, laterListed, listed⟩ := listed
        cases listed
        split
        next afterStart => exact List.forall_mem_cons.mpr ⟨⟨afterStart, not_le.mp beforeEnd⟩, ih laterListed⟩
        next => exact ih laterListed

theorem policyTransitions_inside {policy : Option RecordingPolicy} {transitions : List Int}
    (listed : policyTransitions zoneInfo policy startAt endAt = .ok transitions) :
    ∀ x ∈ transitions, startAt < x ∧ x < endAt := by
  unfold policyTransitions at listed
  split at listed
  · split at listed
    · exact scheduleTransitions_inside 4096 listed
    · cases listed
      exact fun _ member => absurd member List.not_mem_nil
  · cases listed
    exact fun _ member => absurd member List.not_mem_nil

theorem boundaries_inside (window : startAt < endAt)
    (clipped : ∀ item ∈ projected, startAt ≤ item.clippedStart ∧ item.clippedEnd ≤ endAt ∧
      item.clippedStart < item.clippedEnd)
    (listed : ∀ x ∈ transitions, startAt < x ∧ x < endAt) :
    ∀ x ∈ boundaries startAt endAt projected transitions evidence sourceLosses, startAt ≤ x ∧ x ≤ endAt := by
  intro x member
  rcases mem_boundaries.mp member with rfl | rfl | ⟨item, inProjected, isEdge⟩ | isTransition |
    ⟨event, _, isEdge⟩ | ⟨event, _, isEdge⟩
  · omega
  · omega
  · have := clipped item inProjected
    rcases isEdge with rfl | rfl <;> omega
  · have := listed x isTransition
    omega
  · have := eventBoundaries_inside isEdge
    omega
  · have := eventBoundaries_inside isEdge
    omega

end Boundaries

/-! ## The sweep -/

section Sweep

variable {policy : Option RecordingPolicy} {evidence : List Event} {projected : List ProjectedSegment}
  {left right : Int} {acc : List TimelineRecordingRangeView × List TimelineGapView}

/-- What the two stacks hold once the sweep has come to `upTo`. -/
structure SweptTo (projected : List ProjectedSegment) (startAt upTo : Int)
    (acc : List TimelineRecordingRangeView × List TimelineGapView) : Prop where
  ranges : Stacked startAt upTo acc.1
  gaps : Stacked startAt upTo acc.2
  range_at : ∀ t, startAt ≤ t → t < upTo → ∀ best, Labelled acc.1 t best ↔ bestAt projected t = some best
  gap_at : ∀ t, startAt ≤ t → t < upTo →
    ((∃ reason, Labelled acc.2 t reason) ↔ ¬ (bestAt projected t).any playable)

/-- In a cell without an inner boundary the overlapping items are those that cover an instant. -/
theorem filter_covering {cell : Int × Int} (between : ∀ item ∈ projected,
      (item.clippedStart ≤ cell.1 ∨ cell.2 ≤ item.clippedStart) ∧
        (item.clippedEnd ≤ cell.1 ∨ cell.2 ≤ item.clippedEnd)) {t : Int}
    (inCell : cell.1 ≤ t ∧ t < cell.2) :
    (projected.filter fun item => item.clippedStart < cell.2 ∧ cell.1 < item.clippedEnd) =
      projected.filter fun item => item.clippedStart ≤ t ∧ t < item.clippedEnd := by
  refine List.filter_congr fun item member => ?_
  have edges := between item member
  rw [decide_eq_decide]
  omega

theorem SweptTo.range (swept : SweptTo projected startAt left acc) (start : startAt ≤ left)
    (cell : left < right) {best : Availability}
    (inCell : ∀ t, left ≤ t → t < right → bestAt projected t = some best) :
    Stacked startAt right (extend acc.1 left right best) ∧
      ∀ t, startAt ≤ t → t < right → ∀ other,
        Labelled (extend acc.1 left right best) t other ↔ bestAt projected t = some other := by
  refine ⟨swept.ranges.extend start cell best, fun t afterStart beforeRight other => ?_⟩
  rcases lt_or_ge t left with before | notBefore
  · rw [labelled_extend_before swept.ranges cell best before]
    exact swept.range_at t afterStart before other
  · rw [labelled_extend_cell swept.ranges cell best ⟨notBefore, beforeRight⟩, inCell t notBefore beforeRight,
      Option.some.injEq]

theorem SweptTo.gap (swept : SweptTo projected startAt left acc) (start : startAt ≤ left)
    (cell : left < right) (reason : GapReason)
    (inCell : ∀ t, left ≤ t → t < right → ¬ (bestAt projected t).any playable) :
    Stacked startAt right (extend acc.2 left right reason) ∧
      ∀ t, startAt ≤ t → t < right →
        ((∃ other, Labelled (extend acc.2 left right reason) t other) ↔ ¬ (bestAt projected t).any playable) := by
  refine ⟨swept.gaps.extend start cell reason, fun t afterStart beforeRight => ?_⟩
  rcases lt_or_ge t left with before | notBefore
  · simp only [labelled_extend_before swept.gaps cell reason before]
    exact swept.gap_at t afterStart before
  · simp only [labelled_extend_cell swept.gaps cell reason ⟨notBefore, beforeRight⟩]
    exact iff_of_true ⟨reason, rfl⟩ (inCell t notBefore beforeRight)

theorem sweepCell_step {cell : Int × Int} {acc acc' : List TimelineRecordingRangeView × List TimelineGapView}
    (start : startAt ≤ cell.1) (nonempty : cell.1 < cell.2)
    (between : ∀ item ∈ projected,
      (item.clippedStart ≤ cell.1 ∨ cell.2 ≤ item.clippedStart) ∧
        (item.clippedEnd ≤ cell.1 ∨ cell.2 ≤ item.clippedEnd))
    (swept : SweptTo projected startAt cell.1 acc)
    (stepped : sweepCell zoneInfo db cameraId policy evidence projected acc cell = .ok acc') :
    SweptTo projected startAt cell.2 acc' := by
  have best : ∀ t, cell.1 ≤ t → t < cell.2 → bestAt projected t =
      ((projected.filter fun item => item.clippedStart < cell.2 ∧ cell.1 < item.clippedEnd).map
        ProjectedSegment.availability).argmax availabilityPriority := by
    intro t afterLeft beforeRight
    rw [filter_covering between ⟨afterLeft, beforeRight⟩, bestAt]
  unfold sweepCell at stepped
  dsimp only at stepped
  split at stepped
  next availability found =>
    rw [found] at best
    obtain ⟨ranges, rangeAt⟩ := swept.range start nonempty best
    split at stepped
    next isPlayable =>
      cases stepped
      refine ⟨ranges, swept.gaps.mono nonempty.le, rangeAt, fun t afterStart beforeRight => ?_⟩
      rcases lt_or_ge t cell.1 with before | notBefore
      · exact swept.gap_at t afterStart before
      · refine iff_of_false ?_ ?_
        · rintro ⟨reason, labelled⟩
          exact swept.gaps.not_labelled notBefore reason labelled
        · rw [best t notBefore beforeRight, Option.any_some]
          exact not_not.mpr isPlayable
    next notPlayable =>
      cases stepped
      obtain ⟨gaps, gapAt⟩ := swept.gap start nonempty _ fun t afterLeft beforeRight => by
        rw [best t afterLeft beforeRight, Option.any_some]
        exact notPlayable
      exact ⟨ranges, gaps, rangeAt, gapAt⟩
  next found =>
    rw [found] at best
    rw [bind_eq_ok] at stepped
    obtain ⟨reason, _, stepped⟩ := stepped
    cases stepped
    obtain ⟨gaps, gapAt⟩ := swept.gap start nonempty reason fun t afterLeft beforeRight => by
      rw [best t afterLeft beforeRight, Option.any_none]
      exact Bool.false_ne_true
    refine ⟨swept.ranges.mono nonempty.le, gaps, fun t afterStart beforeRight other => ?_, gapAt⟩
    rcases lt_or_ge t cell.1 with before | notBefore
    · exact swept.range_at t afterStart before other
    · rw [best t notBefore beforeRight]
      exact iff_of_false (swept.ranges.not_labelled notBefore other)
        (Option.some_ne_none other).symm

end Sweep

/-! ## The window as a whole -/

/-- The timeline shows, at every instant of the window, the best availability of what covers it,
    and a gap where nothing playable does. -/
structure ExactCover (cachedFile : RecordingSegment → Bool) (db : Database) (cameraId : Uuid)
    (startAt endAt : Int) (view : PlaybackTimelineView) : Prop where
  ranges_tidy : Tidy startAt endAt view.recordingRanges
  gaps_tidy : Tidy startAt endAt view.gaps
  range_iff : ∀ t, startAt ≤ t → t < endAt →
    ((∃ range ∈ view.recordingRanges, range.Contains t) ↔ ∃ segment, SegmentCovers db cameraId t segment)
  range_best : ∀ t, startAt ≤ t → t < endAt → ∀ range ∈ view.recordingRanges, range.Contains t →
    (∃ segment, SegmentCovers db cameraId t segment ∧ availability cachedFile db segment = range.label) ∧
      ∀ segment, SegmentCovers db cameraId t segment →
        availabilityPriority (availability cachedFile db segment) ≤ availabilityPriority range.label
  gap_iff : ∀ t, startAt ≤ t → t < endAt →
    ((∃ gap ∈ view.gaps, gap.Contains t) ↔
      ¬ ∃ segment, SegmentCovers db cameraId t segment ∧ playable (availability cachedFile db segment))

theorem SweptTo.exactCover {acc : List TimelineRecordingRangeView × List TimelineGapView}
    (swept : SweptTo (projectedSegments cachedFile db cameraId startAt endAt) startAt endAt acc)
    {view : PlaybackTimelineView} (ranges : view.recordingRanges = acc.1.reverse)
    (gaps : view.gaps = acc.2.reverse) : ExactCover cachedFile db cameraId startAt endAt view := by
  have labelled : ∀ {t : Int} {best : Availability}, startAt ≤ t → t < endAt →
      (Labelled view.recordingRanges t best ↔
        bestAt (projectedSegments cachedFile db cameraId startAt endAt) t = some best) := by
    intro t best afterStart beforeEnd
    rw [ranges, labelled_reverse]
    exact swept.range_at t afterStart beforeEnd best
  refine ⟨ranges ▸ swept.ranges, gaps ▸ swept.gaps, ?_, ?_, ?_⟩
  · intro t afterStart beforeEnd
    have covered : (∃ item ∈ projectedSegments cachedFile db cameraId startAt endAt, item.Covers t) ↔
        ∃ segment, SegmentCovers db cameraId t segment := by
      simpa only [and_true] using exists_projected_iff ⟨afterStart, beforeEnd⟩ fun _ => True
    rw [← covered]
    constructor
    · rintro ⟨range, member, contains⟩
      obtain ⟨⟨item, inProjected, covers, _⟩, _⟩ :=
        bestAt_eq_some ((labelled afterStart beforeEnd).mp ⟨range, member, contains, rfl⟩)
      exact ⟨item, inProjected, covers⟩
    · rintro ⟨item, inProjected, covers⟩
      cases found : bestAt (projectedSegments cachedFile db cameraId startAt endAt) t with
      | none => exact absurd covers (bestAt_eq_none.mp found item inProjected)
      | some best =>
        obtain ⟨range, member, contains, _⟩ := (labelled afterStart beforeEnd).mpr found
        exact ⟨range, member, contains⟩
  · intro t afterStart beforeEnd range member contains
    obtain ⟨attained, greatest⟩ :=
      bestAt_eq_some ((labelled afterStart beforeEnd).mp ⟨range, member, contains, rfl⟩)
    refine ⟨(exists_projected_iff ⟨afterStart, beforeEnd⟩ (· = range.label)).mp attained, ?_⟩
    intro segment covers
    obtain ⟨item, inProjected, itemCovers, same⟩ := (exists_projected_iff ⟨afterStart, beforeEnd⟩
      (· = availability cachedFile db segment)).mpr ⟨segment, covers, rfl⟩
    exact same ▸ greatest item inProjected itemCovers
  · intro t afterStart beforeEnd
    rw [← exists_projected_iff ⟨afterStart, beforeEnd⟩ fun availability => playable availability, ← bestAt_playable,
      ← swept.gap_at t afterStart beforeEnd, gaps]
    simp only [Labelled, List.mem_reverse]
    constructor
    · rintro ⟨gap, member, contains⟩
      exact ⟨gap.label, gap, member, contains, rfl⟩
    · rintro ⟨_, gap, member, contains, _⟩
      exact ⟨gap, member, contains⟩

/-- The whole sweep, over sorted boundaries that contain the edges of the window and of every item. -/
theorem sweep_sweptTo {policy : Option RecordingPolicy} {evidence : List Event}
    {projected : List ProjectedSegment} {ordered : List Int}
    {acc : List TimelineRecordingRangeView × List TimelineGapView}
    (sorted : ordered.Pairwise (· < ·)) (inside : ∀ x ∈ ordered, startAt ≤ x ∧ x ≤ endAt)
    (hasStart : startAt ∈ ordered) (hasEnd : endAt ∈ ordered)
    (hasEdges : ∀ item ∈ projected, item.clippedStart ∈ ordered ∧ item.clippedEnd ∈ ordered)
    (swept : (ordered.zip ordered.tail).foldlM (sweepCell zoneInfo db cameraId policy evidence projected)
      ([], []) = .ok acc) : SweptTo projected startAt endAt acc := by
  obtain ⟨rest, rfl, lastIsEnd⟩ := eq_cons_of_bounds sorted hasStart hasEnd inside
  have start : SweptTo projected startAt startAt ([], []) :=
    ⟨stacked_nil _ _, stacked_nil _ _, fun t afterStart beforeStart => absurd beforeStart (not_lt.mpr afterStart),
      fun t afterStart beforeStart => absurd beforeStart (not_lt.mpr afterStart)⟩
  rw [← lastIsEnd]
  refine foldlM_cells startAt rest (fun acc cell member acc' sweptTo stepped => ?_) start swept
  obtain ⟨nonempty, between⟩ := zip_tail_gap sorted cell member
  refine sweepCell_step (inside cell.1 (List.of_mem_zip member).1).1 nonempty (fun item inProjected => ?_)
    sweptTo stepped
  obtain ⟨startEdge, endEdge⟩ := hasEdges item inProjected
  exact ⟨between _ startEdge, between _ endEdge⟩

theorem build_sweptTo (window : startAt < endAt) {detail : TimelineDetailLevel} {view : PlaybackTimelineView}
    (built : build zoneInfo paths cachedFile db cameraId startAt endAt detail = .ok view) :
    ∃ acc, SweptTo (projectedSegments cachedFile db cameraId startAt endAt) startAt endAt acc ∧
      view.recordingRanges = acc.1.reverse ∧ view.gaps = acc.2.reverse := by
  unfold build at built
  dsimp only at built
  rw [bind_eq_ok] at built
  obtain ⟨transitions, listed, built⟩ := built
  rw [bind_eq_ok] at built
  obtain ⟨acc, swept, built⟩ := built
  cases built
  refine ⟨acc, sweep_sweptTo boundaries_sorted ?_ ?_ ?_ ?_ swept, rfl, rfl⟩
  · exact boundaries_inside window (fun item member => projected_inside member) (policyTransitions_inside listed)
  · exact mem_boundaries.mpr (.inl rfl)
  · exact mem_boundaries.mpr (.inr (.inl rfl))
  · exact fun item member => ⟨mem_boundaries.mpr (.inr (.inr (.inl ⟨item, member, .inl rfl⟩))),
      mem_boundaries.mpr (.inr (.inr (.inl ⟨item, member, .inr rfl⟩)))⟩

/-! ## `build` returns -/

/-- The stored schedule of the camera's policy passes the validation it passed when it was stored. -/
def ScheduleValid (zoneInfo : String → Result TimeZone) (db : Database) (cameraId : Uuid) : Prop :=
  ∀ policy, db.recordingPolicies.get? cameraId = some policy → policy.enabled → policy.baselineMode = .schedule →
    ∃ windows, RecordingPolicyService.windowsOf zoneInfo policy = .ok windows

theorem zoneOf_of_windowsOf {policy : RecordingPolicy} {windows : List WeeklyWindow}
    (scheduled : policy.baselineMode = .schedule)
    (valid : RecordingPolicyService.windowsOf zoneInfo policy = .ok windows) :
    ∃ zone, RecordingPolicyService.zoneOf zoneInfo policy = .ok zone := by
  unfold RecordingPolicyService.windowsOf RecordingPolicyService.validateSchedule at valid
  rw [if_neg (not_not.mpr scheduled)] at valid
  dsimp only at valid
  split at valid
  · cases valid
  rw [bind_eq_ok] at valid
  obtain ⟨_, checked, _⟩ := valid
  unfold RecordingPolicyService.checkTimezone at checked
  split at checked
  next zone found => exact ⟨zone, found⟩
  next => cases checked
  next => cases checked

theorem scheduleTransitions_ok {policy : RecordingPolicy} {windows : List WeeklyWindow}
    (scheduled : policy.baselineMode = .schedule)
    (valid : RecordingPolicyService.windowsOf zoneInfo policy = .ok windows) (passes : Nat) (cursor : Int) :
    ∃ transitions, scheduleTransitions zoneInfo policy startAt endAt passes cursor = .ok transitions := by
  obtain ⟨zone, zoneFound⟩ := zoneOf_of_windowsOf scheduled valid
  have next : ∀ after, ∃ transition,
      RecordingPolicyService.nextBaselineTransition zoneInfo policy after = .ok transition := by
    intro after
    unfold RecordingPolicyService.nextBaselineTransition
    split
    · exact ⟨none, rfl⟩
    · rw [valid, zoneFound]
      exact ⟨_, rfl⟩
  induction passes generalizing cursor with
  | zero => exact ⟨[], rfl⟩
  | succ passes ih =>
    obtain ⟨transition, found⟩ := next cursor
    rw [scheduleTransitions, found]
    cases transition with
    | none => exact ⟨[], rfl⟩
    | some transition =>
      obtain ⟨later, listed⟩ := ih transition
      simp only [bind, Except.bind, listed]
      split
      · exact ⟨[], rfl⟩
      · exact ⟨_, rfl⟩

theorem policyTransitions_ok (valid : ScheduleValid zoneInfo db cameraId) (startAt endAt : Int) :
    ∃ transitions,
      policyTransitions zoneInfo (db.recordingPolicies.get? cameraId) startAt endAt = .ok transitions := by
  unfold policyTransitions
  split
  next policy found =>
    split
    next scheduled =>
      obtain ⟨windows, windowsFound⟩ := valid policy found scheduled.1 scheduled.2
      exact scheduleTransitions_ok scheduled.2 windowsFound _ _
    next => exact ⟨[], rfl⟩
  next => exact ⟨[], rfl⟩

theorem baselineShouldRecord_ok {policy : RecordingPolicy} {windows : List WeeklyWindow}
    (scheduled : policy.baselineMode = .schedule)
    (valid : RecordingPolicyService.windowsOf zoneInfo policy = .ok windows) (instant : Int) :
    ∃ records, RecordingPolicyService.baselineShouldRecord zoneInfo policy instant = .ok records := by
  obtain ⟨zone, zoneFound⟩ := zoneOf_of_windowsOf scheduled valid
  unfold RecordingPolicyService.baselineShouldRecord
  split
  · exact ⟨false, rfl⟩
  · rw [scheduled]
    dsimp only
    rw [valid, zoneFound]
    exact ⟨_, rfl⟩

theorem emptyReason_ok (valid : ScheduleValid zoneInfo db cameraId) (left right : Int) (evidence : List Event) :
    ∃ reason, emptyReason zoneInfo db cameraId left right (db.recordingPolicies.get? cameraId) evidence =
      .ok reason := by
  unfold emptyReason
  rw [Option.or_self]
  split
  next => exact ⟨_, rfl⟩
  next policy found =>
    split
    · exact ⟨_, rfl⟩
    next enabled =>
      split
      next scheduled =>
        obtain ⟨windows, windowsFound⟩ := valid policy found (not_not.mp enabled) scheduled
        obtain ⟨records, recordsAt⟩ := baselineShouldRecord_ok scheduled windowsFound
          (left + half (right - left))
        dsimp only
        rw [recordsAt]
        dsimp only [bind, Except.bind]
        split <;> exact ⟨_, rfl⟩
      next => exact ⟨_, rfl⟩
      next => split_ifs <;> exact ⟨_, rfl⟩

theorem sweepCell_ok (valid : ScheduleValid zoneInfo db cameraId) (evidence : List Event)
    (projected : List ProjectedSegment) (acc : List TimelineRecordingRangeView × List TimelineGapView)
    (cell : Int × Int) :
    ∃ acc', sweepCell zoneInfo db cameraId (db.recordingPolicies.get? cameraId) evidence projected acc cell =
      .ok acc' := by
  unfold sweepCell
  dsimp only
  split
  · split <;> exact ⟨_, rfl⟩
  · obtain ⟨reason, found⟩ := emptyReason_ok valid cell.1 cell.2 evidence
    rw [found]
    exact ⟨_, rfl⟩

theorem build_ok (valid : ScheduleValid zoneInfo db cameraId) (startAt endAt : Int)
    (detail : TimelineDetailLevel) :
    ∃ view, build zoneInfo paths cachedFile db cameraId startAt endAt detail = .ok view := by
  have sweep_ok : ∀ (evidence : List Event) (projected : List ProjectedSegment) (cells : List (Int × Int)),
      ∃ acc, cells.foldlM (sweepCell zoneInfo db cameraId (db.recordingPolicies.get? cameraId) evidence
        projected) ([], []) = .ok acc := by
    intro evidence projected cells
    have stepped : ∀ acc, ∀ cell ∈ cells, True → ∃ acc', sweepCell zoneInfo db cameraId
        (db.recordingPolicies.get? cameraId) evidence projected acc cell = .ok acc' ∧ True := by
      intro acc cell _ _
      obtain ⟨acc', stepped⟩ := sweepCell_ok valid evidence projected acc cell
      exact ⟨acc', stepped, trivial⟩
    obtain ⟨acc, swept, _⟩ := foldlM_ok cells stepped trivial
    exact ⟨acc, swept⟩
  obtain ⟨transitions, listed⟩ := policyTransitions_ok valid startAt endAt
  unfold build
  dsimp only
  rw [listed]
  dsimp only [bind, Except.bind]
  obtain ⟨acc, swept⟩ := sweep_ok _ _ _
  rw [swept]
  exact ⟨_, rfl⟩

/-- For a window of positive length `build` returns, and what it returns covers the window
    exactly. -/
theorem build_exactCover (zoneInfo : String → Result TimeZone) (paths : PathEnv)
    (cachedFile : RecordingSegment → Bool) (db : Database) (cameraId : Uuid) (startAt endAt : Int)
    (detail : TimelineDetailLevel) (window : startAt < endAt) :
    (ScheduleValid zoneInfo db cameraId →
      ∃ view, build zoneInfo paths cachedFile db cameraId startAt endAt detail = .ok view) ∧
    ∀ view, build zoneInfo paths cachedFile db cameraId startAt endAt detail = .ok view →
      ExactCover cachedFile db cameraId startAt endAt view := by
  refine ⟨fun valid => build_ok valid startAt endAt detail, fun view built => ?_⟩
  obtain ⟨acc, swept, ranges, gaps⟩ := build_sweptTo window built
  exact swept.exactCover ranges gaps

/-! ## A nested recording -/

/-- A purged recording of ten seconds with a local one nested in it. -/
def nestedDatabase : Database :=
  { storageTargets := .single { id := 5, type := .local, role := .recording }
    locations := ⟨[{ id := 6, recordingSegmentId := 1, storageTargetId := 5, objectPath := "a.mp4"
                     state := .deleted, sizeBytes := 1 },
      { id := 7, recordingSegmentId := 2, storageTargetId := 5, objectPath := "b.mp4", sizeBytes := 1 }],
      by decide⟩
    segments := ⟨[{ id := 1, cameraId := 3, startedAt := 0, endedAt := 10000000, durationMs := 10000
                    timingStatus := .final, timingSource := .nextSegmentBoundary },
      { id := 2, cameraId := 3, startedAt := 4000000, endedAt := 6000000, durationMs := 2000
        timingStatus := .final, timingSource := .nextSegmentBoundary }], by decide⟩ }

def posixPaths : PathEnv :=
  { resolveRoot := fun path => if path.startsWith "/" then some path else none
    isAbsolute := fun path => path.startsWith "/"
    relativeTo := fun root path => if path.startsWith (root ++ "/") then some (path.drop (root.length + 1)).toString else none }

theorem build_exactCover_nested :
    (ScheduleValid RecordingPolicyService.utcOnly nestedDatabase 3 →
      ∃ view, build RecordingPolicyService.utcOnly posixPaths (fun _ => false) nestedDatabase 3 0 12000000
        .minute = .ok view) ∧
    ∀ view, build RecordingPolicyService.utcOnly posixPaths (fun _ => false) nestedDatabase 3 0 12000000
      .minute = .ok view → ExactCover (fun _ => false) nestedDatabase 3 0 12000000 view :=
  build_exactCover RecordingPolicyService.utcOnly posixPaths (fun _ => false) nestedDatabase 3 0 12000000 .minute
    (by decide)

end PlaybackTimelineService

end ZeroNvr
