import ZeroNvr.Verified.PlaybackAgreement

/-! # What an export covers

The clips of an export are chained: each one begins where the last one ended, or
later, and in the second case an instant of the range is left out.  Together with
what they cover (`ClippedTo`) this says when an export has gaps, and so what the
two gap policies answer.
-/

namespace ZeroNvr.ExportCover

open Lib ExportPlanResolver PlaybackAgreement
open PlaybackTimelineService (SegmentCovers)

variable {env : PlaybackEnv} {db : Database} {cameraId : Uuid} {startAt endAt t : Int} {gapPolicy : String}
  {segments : List RecordingSegment} {segment : RecordingSegment} {state final : ExportCursor}

/-- The clip is a part of the segment, and of its file. -/
structure CutFrom (env : PlaybackEnv) (db : Database) (segment : RecordingSegment) (item : ExportPlanItem) : Prop where
  id : item.segmentId = segment.id
  file : path env db segment = some item.filePath
  start : segment.startedAt ≤ item.clipStartAt
  stop : item.clipEndAt ≤ segment.endedAt
  inpoint : item.inpoint = item.clipStartAt - segment.startedAt
  outpoint : item.outpoint = item.clipEndAt - segment.startedAt
  points : 0 ≤ item.inpoint ∧ item.inpoint < item.outpoint ∧ item.outpoint ≤ segment.endedAt - segment.startedAt

/-- Some clip covers the instant. -/
def Exported (items : List ExportPlanItem) (t : Int) : Prop := ∃ item ∈ items, ClipCovers item t

/-! ## Chained clips -/

structure Chained (env : PlaybackEnv) (db : Database) (segments : List RecordingSegment) (startAt endAt : Int)
    (state : ExportCursor) : Prop where
  cut : ∀ item ∈ state.items, ∃ segment ∈ segments, CutFrom env db segment item
  inside : ∀ item ∈ state.items, startAt ≤ item.clipStartAt ∧ item.clipEndAt ≤ state.cursor
  apart : state.items.Pairwise fun earlier later => earlier.clipEndAt ≤ later.clipStartAt
  cursor : startAt ≤ state.cursor ∧ state.cursor ≤ endAt
  gaps : state.hasGaps = true ↔ ∃ t, startAt ≤ t ∧ t < state.cursor ∧ ¬Exported state.items t

theorem chained_nil (nonempty : startAt < endAt) : Chained env db segments startAt endAt { cursor := startAt } where
  cut _ member := absurd member List.not_mem_nil
  inside _ member := absurd member List.not_mem_nil
  apart := .nil
  cursor := ⟨le_rfl, nonempty.le⟩
  gaps := by
    refine iff_of_false (by simp) ?_
    rintro ⟨t, after, before, -⟩
    exact absurd before (not_lt.mpr after)

theorem item_cutFrom {filePath : String} {clipStart clipEnd : Int} (hasFile : path env db segment = some filePath)
    (start : segment.startedAt ≤ clipStart) (nonempty : clipStart < clipEnd) (stop : clipEnd ≤ segment.endedAt) :
    CutFrom env db segment (item segment filePath clipStart clipEnd) := by
  have inpoint : max 0 (clipStart - segment.startedAt) = clipStart - segment.startedAt := by omega
  have outpoint : max (clipStart - segment.startedAt) (clipEnd - segment.startedAt) = clipEnd - segment.startedAt := by
    omega
  refine ⟨rfl, hasFile, start, stop, inpoint, ?_, ?_⟩
  · simp only [item, inpoint, outpoint]
  · simp only [item, inpoint, outpoint]
    omega

theorem exported_append {items : List ExportPlanItem} {new : ExportPlanItem} :
    Exported (items ++ [new]) t ↔ Exported items t ∨ ClipCovers new t := by
  simp only [Exported, List.mem_append, List.mem_singleton, or_and_right, exists_or, exists_eq_left]

/-- The next clip leaves out an instant exactly when it begins after the cursor. -/
theorem Chained.take (chained : Chained env db segments startAt endAt state) (member : segment ∈ segments) {filePath : String}
    (hasFile : path env db segment = some filePath)
    (nonempty : max (max state.cursor startAt) segment.startedAt < min endAt segment.endedAt) :
    Chained env db segments startAt endAt
      { cursor := max state.cursor (min endAt segment.endedAt)
        items := state.items ++ [item segment filePath (max (max state.cursor startAt) segment.startedAt)
          (min endAt segment.endedAt)]
        hasGaps := state.hasGaps || decide (state.cursor < max (max state.cursor startAt) segment.startedAt) } := by
  obtain ⟨afterStart, beforeEnd⟩ := chained.cursor
  refine ⟨fun taken isTaken => ?_, fun taken isTaken => ?_, ?_, ?_, ?_⟩
  · rcases List.mem_append.mp isTaken with earlier | isNew
    · exact chained.cut taken earlier
    · rw [List.mem_singleton.mp isNew]
      exact ⟨segment, member, item_cutFrom hasFile (le_max_right _ _) nonempty (min_le_right _ _)⟩
  · dsimp only
    rcases List.mem_append.mp isTaken with earlier | isNew
    · have within := chained.inside taken earlier
      omega
    · rw [List.mem_singleton.mp isNew]
      simp only [item]
      omega
  · refine List.pairwise_append.mpr ⟨chained.apart, List.pairwise_singleton _ _, fun earlier isEarlier new isNew => ?_⟩
    have within := chained.inside earlier isEarlier
    rw [List.mem_singleton.mp isNew]
    simp only [item]
    omega
  · dsimp only
    omega
  · dsimp only
    rw [Bool.or_eq_true, decide_eq_true_eq, chained.gaps]
    have newClip (t : Int) : ClipCovers (item segment filePath (max (max state.cursor startAt) segment.startedAt)
        (min endAt segment.endedAt)) t ↔
        max (max state.cursor startAt) segment.startedAt ≤ t ∧ t < min endAt segment.endedAt := Iff.rfl
    simp only [exported_append, newClip]
    constructor
    · rintro (⟨t, after, before, uncovered⟩ | skips)
      · refine ⟨t, after, by omega, fun covered => covered.elim uncovered fun inClip => ?_⟩
        omega
      · refine ⟨state.cursor, afterStart, by omega, ?_⟩
        rintro (⟨earlier, isEarlier, covers⟩ | inClip)
        · exact absurd covers.2 (not_lt.mpr (chained.inside earlier isEarlier).2)
        · omega
    · rintro ⟨t, after, before, uncovered⟩
      obtain ⟨notEarlier, notInClip⟩ := not_or.mp uncovered
      by_cases reached : t < state.cursor
      · exact .inl ⟨t, after, reached, notEarlier⟩
      · refine .inr ?_
        omega

theorem clip_chained {rest : List RecordingSegment} (from_ : ∀ segment ∈ rest, segment ∈ segments)
    (chained : Chained env db segments startAt endAt state)
    (done : clip env db startAt endAt gapPolicy rest state = .ok final) :
    Chained env db segments startAt endAt final := by
  induction rest generalizing state with
  | nil =>
    cases done
    exact chained
  | cons segment rest ih =>
    obtain ⟨member, others⟩ := List.forall_mem_cons.mp from_
    unfold ExportPlanResolver.clip at done
    split at done
    · exact ih others chained done
    · dsimp only at done
      split at done
      · exact ih others chained done
      next filePath hasFile =>
        split at done
        · exact ih others chained done
        next nonempty =>
          split at done
          · cases done
          · have taken := chained.take member hasFile (not_le.mp nonempty)
            split at done
            · cases done
              exact taken
            · exact ih others taken done

/-! ## The gap policies -/

/-- Once there is a gap it stays, and `fail` answers with it where `skip` goes on. -/
theorem clip_policies (rest : List RecordingSegment) (state : ExportCursor) :
    ∃ final, clip env db startAt endAt "skip" rest state = .ok final ∧ (state.hasGaps = true → final.hasGaps = true) ∧
      (state.hasGaps = false →
        clip env db startAt endAt "fail" rest state = if final.hasGaps then .error rangeHasGaps else .ok final) := by
  induction rest generalizing state with
  | nil => exact ⟨state, rfl, fun gap => gap, fun none => by rw [none]; rfl⟩
  | cons segment rest ih =>
    unfold ExportPlanResolver.clip
    split
    · exact ih state
    · dsimp only
      split
      · exact ih state
      next filePath hasFile =>
        split
        · exact ih state
        · rw [if_neg (by simp)]
          simp only [and_true]
          split
          · refine ⟨_, rfl, fun gap => by simp [gap], fun none => ?_⟩
            simp only [none, Bool.false_or, decide_eq_true_eq]
          next notDone =>
            obtain ⟨final, done, kept, fails⟩ := ih
              { cursor := max state.cursor (min endAt segment.endedAt)
                items := state.items ++ [item segment filePath (max (max state.cursor startAt) segment.startedAt)
                  (min endAt segment.endedAt)]
                hasGaps := state.hasGaps || decide (state.cursor < max (max state.cursor startAt) segment.startedAt) }
            refine ⟨final, done, fun gap => kept (by simp [gap]), fun none => ?_⟩
            split
            next skips =>
              have gap : (state.hasGaps || decide (state.cursor < max (max state.cursor startAt) segment.startedAt)) = true := by
                rw [decide_eq_true skips, Bool.or_true]
              rw [kept gap, if_pos rfl]
            next touches =>
              refine fails ?_
              rw [none, decide_eq_false touches, Bool.or_false]

def mediaUnavailable : PyError :=
  apiError 409 "export_media_unavailable" "No playable recording media exists in the selected range."

/-- An instant for which a segment of the camera has a file. -/
def Available (env : PlaybackEnv) (db : Database) (cameraId : Uuid) (t : Int) : Prop :=
  ∃ segment, SegmentCovers db cameraId t segment ∧ (path env db segment).isSome = true

/-- The plan is made of parts of the segments, one after the other, and covers what is available of the range. -/
structure Covers (env : PlaybackEnv) (db : Database) (cameraId : Uuid) (startAt endAt : Int) (plan : ExportPlan) : Prop where
  cut : ∀ item ∈ plan.items, ∃ segment ∈ db.segments, segment.cameraId = cameraId ∧ CutFrom env db segment item
  inside : ∀ item ∈ plan.items, startAt ≤ item.clipStartAt ∧ item.clipEndAt ≤ endAt
  apart : plan.items.Pairwise fun earlier later => earlier.clipEndAt ≤ later.clipStartAt
  union : ∀ t, Exported plan.items t ↔ (startAt ≤ t ∧ t < endAt) ∧ Available env db cameraId t
  hasGaps : plan.hasGaps = true ↔ ∃ t, startAt ≤ t ∧ t < endAt ∧ ¬Available env db cameraId t

/-- What the sweep over all the segments of the range ends with. -/
theorem swept (nonempty : startAt < endAt) : ∃ final,
    clip env db startAt endAt "skip" (segmentsIn db cameraId startAt endAt) { cursor := startAt } = .ok final ∧
      clip env db startAt endAt "fail" (segmentsIn db cameraId startAt endAt) { cursor := startAt } =
        (if final.hasGaps then .error rangeHasGaps else .ok final) ∧
      Chained env db (segmentsIn db cameraId startAt endAt) startAt endAt final ∧
      (∀ t, startAt ≤ t → t < endAt → (Exported final.items t ↔ Available env db cameraId t)) := by
  obtain ⟨final, done, -, fails⟩ :=
    @clip_policies env db startAt endAt (segmentsIn db cameraId startAt endAt) { cursor := startAt }
  refine ⟨final, done, fails rfl, clip_chained (fun _ member => member) (chained_nil nonempty) done,
    fun t afterStart beforeEnd => ?_⟩
  have clips := (clipped_all done).clips t afterStart beforeEnd
  constructor
  · rintro ⟨item, member, covers⟩
    obtain ⟨segment, found, -⟩ := (clips item.segmentId).mp ⟨item, member, covers, rfl⟩
    obtain ⟨isCovered, hasFile, -⟩ := (find?_hit ⟨afterStart, beforeEnd⟩).mp found
    exact ⟨segment, isCovered, mediaPath_isSome.mpr hasFile⟩
  · rintro ⟨segment, isCovered, hasFile⟩
    obtain ⟨member, hits⟩ :=
      (mem_segmentsIn_hit ⟨afterStart, beforeEnd⟩).mpr ⟨isCovered, mediaPath_isSome.mp hasFile⟩
    obtain ⟨first, found⟩ := Option.isSome_iff_exists.mp (List.find?_isSome.mpr ⟨segment, member, hits⟩)
    obtain ⟨item, isTaken, covers, -⟩ := (clips first.id).mpr ⟨first, found, rfl⟩
    exact ⟨item, isTaken, covers⟩

/-- An instant is left out before the cursor or after it. -/
theorem Chained.leavesOut (chained : Chained env db segments startAt endAt final) :
    (final.hasGaps || decide (final.cursor < endAt)) = true ↔ ∃ t, startAt ≤ t ∧ t < endAt ∧ ¬Exported final.items t := by
  obtain ⟨afterStart, beforeEnd⟩ := chained.cursor
  rw [Bool.or_eq_true, decide_eq_true_eq, chained.gaps]
  constructor
  · rintro (⟨t, after, before, uncovered⟩ | stopped)
    · exact ⟨t, after, by omega, uncovered⟩
    · refine ⟨final.cursor, afterStart, stopped, ?_⟩
      rintro ⟨item, member, covers⟩
      exact absurd covers.2 (not_lt.mpr (chained.inside item member).2)
  · rintro ⟨t, after, before, uncovered⟩
    by_cases reached : t < final.cursor
    · exact .inl ⟨t, after, reached, uncovered⟩
    · exact .inr (by omega)

/-- Without clips nothing is covered, and every clip covers its start. -/
theorem Chained.isEmpty_iff (chained : Chained env db segments startAt endAt final) :
    final.items.isEmpty = true ↔ ∀ t, ¬Exported final.items t := by
  rw [List.isEmpty_iff]
  constructor
  · rintro none t ⟨item, member, -⟩
    rw [none] at member
    exact List.not_mem_nil member
  · intro none
    refine List.eq_nil_iff_forall_not_mem.mpr fun item member => ?_
    obtain ⟨segment, -, cut⟩ := chained.cut item member
    have points := cut.points
    have inpoint := cut.inpoint
    have outpoint := cut.outpoint
    exact none item.clipStartAt ⟨item, member, le_rfl, by omega⟩

/-- The plan that is made of the clips. -/
def planOf (env : PlaybackEnv) (cameraId : Uuid) (startAt endAt : Int) (final : ExportCursor) : ExportPlan :=
  { cameraId, requestedStartAt := startAt, requestedEndAt := endAt, items := final.items
    actualDurationMs := (final.items.map (durationMs env)).sum
    hasGaps := final.hasGaps || decide (final.cursor < endAt) }

theorem build_skip_of_swept (nonempty : startAt < endAt)
    (skips : clip env db startAt endAt "skip" (segmentsIn db cameraId startAt endAt) { cursor := startAt } = .ok final) :
    build env db cameraId startAt endAt "skip" =
      if final.items.isEmpty then .error mediaUnavailable else .ok (planOf env cameraId startAt endAt final) := by
  rw [build, if_neg (not_le.mpr nonempty), if_neg (by simp), skips]
  simp only [String.reduceEq, and_false, if_false]
  rfl

theorem build_fail_of_swept (nonempty : startAt < endAt)
    (skips : clip env db startAt endAt "skip" (segmentsIn db cameraId startAt endAt) { cursor := startAt } = .ok final)
    (fails : clip env db startAt endAt "fail" (segmentsIn db cameraId startAt endAt) { cursor := startAt } =
      if final.hasGaps then .error rangeHasGaps else .ok final) :
    build env db cameraId startAt endAt "fail" =
      if final.hasGaps || decide (final.cursor < endAt) then .error rangeHasGaps
      else build env db cameraId startAt endAt "skip" := by
  rw [build_skip_of_swept nonempty skips, build, if_neg (not_le.mpr nonempty), if_neg (by simp), fails]
  cases early : final.hasGaps with
  | true => rfl
  | false =>
    show (if final.cursor < endAt ∧ "fail" = "fail" then _ else _) = _
    simp only [and_true, Bool.false_or, decide_eq_true_eq]
    rfl

/-- With `skip` an export of a range covers exactly what is available of it, and says whether something is
missing; it is refused exactly when nothing is available.  With `fail` it is refused exactly when something
is missing, and is the same export otherwise. -/
theorem build_covers (env : PlaybackEnv) (db : Database) (cameraId : Uuid) {startAt endAt : Int} (nonempty : startAt < endAt) :
    (∀ plan, build env db cameraId startAt endAt "skip" = .ok plan → Covers env db cameraId startAt endAt plan) ∧
      ((∃ t, startAt ≤ t ∧ t < endAt ∧ Available env db cameraId t) →
        ∃ plan, build env db cameraId startAt endAt "skip" = .ok plan) ∧
      (build env db cameraId startAt endAt "skip" = .error mediaUnavailable ↔
        ¬∃ t, startAt ≤ t ∧ t < endAt ∧ Available env db cameraId t) ∧
      (build env db cameraId startAt endAt "fail" = .error rangeHasGaps ↔
        ∃ t, startAt ≤ t ∧ t < endAt ∧ ¬Available env db cameraId t) ∧
      ((¬∃ t, startAt ≤ t ∧ t < endAt ∧ ¬Available env db cameraId t) → ∃ plan,
        build env db cameraId startAt endAt "skip" = .ok plan ∧
          build env db cameraId startAt endAt "fail" = .ok plan) := by
  obtain ⟨final, skips, fails, chained, exported⟩ := @swept env db cameraId _ _ nonempty
  have gap : (final.hasGaps || decide (final.cursor < endAt)) = true ↔
      ∃ t, startAt ≤ t ∧ t < endAt ∧ ¬Available env db cameraId t := by
    rw [chained.leavesOut]
    exact exists_congr fun t => and_congr_right fun after => and_congr_right fun before =>
      not_congr (exported t after before)
  have union (t : Int) : Exported final.items t ↔ (startAt ≤ t ∧ t < endAt) ∧ Available env db cameraId t := by
    constructor
    · intro covered
      obtain ⟨item, member, covers⟩ := id covered
      have inside := chained.inside item member
      have within : startAt ≤ t ∧ t < endAt := ⟨inside.1.trans covers.1, (covers.2.trans_le inside.2).trans_le chained.cursor.2⟩
      exact ⟨within, (exported t within.1 within.2).mp covered⟩
    · rintro ⟨within, available⟩
      exact (exported t within.1 within.2).mpr available
  have empty : final.items.isEmpty = true ↔ ¬∃ t, startAt ≤ t ∧ t < endAt ∧ Available env db cameraId t := by
    rw [chained.isEmpty_iff, not_exists]
    exact forall_congr' fun t => not_congr ((union t).trans and_assoc)
  have skipped := build_skip_of_swept nonempty skips
  have failed := build_fail_of_swept nonempty skips fails
  refine ⟨fun plan built => ?_, fun available => ?_, ?_, ?_, fun complete => ?_⟩
  · rw [skipped] at built
    split at built
    · cases built
    · cases built
      refine ⟨fun item member => ?_, fun item member => ?_, chained.apart, union, gap⟩
      · obtain ⟨segment, inRange, cut⟩ := chained.cut item member
        rw [segmentsIn, List.mem_insertionSort, Table.mem_select, decide_eq_true_eq] at inRange
        exact ⟨segment, inRange.1, inRange.2.1, cut⟩
      · have inside := chained.inside item member
        exact ⟨inside.1, inside.2.trans chained.cursor.2⟩
  · rw [skipped, if_neg fun none => empty.mp none available]
    exact ⟨_, rfl⟩
  · rw [skipped, ← empty]
    split
    next none => exact iff_of_true rfl none
    next some => exact iff_of_false (by simp) some
  · rw [failed, ← gap]
    split
    next leavesOut => exact iff_of_true rfl leavesOut
    next covered =>
      refine iff_of_false ?_ covered
      rw [skipped]
      split
      · simp [mediaUnavailable, rangeHasGaps, apiError]
      · simp
  · have available : ∃ t, startAt ≤ t ∧ t < endAt ∧ Available env db cameraId t :=
      ⟨startAt, le_rfl, nonempty, not_not.mp fun missing => complete ⟨startAt, le_rfl, nonempty, missing⟩⟩
    rw [failed, if_neg fun leavesOut => complete (gap.mp leavesOut), skipped,
      if_neg fun none => empty.mp none available]
    exact ⟨_, rfl, rfl⟩

/-! ## A nested recording and a gap -/

def nestedDatabase : Database :=
  { storageTargets := .single { id := 5, type := .local, role := .recording, config := [("path", .str "/data")] }
    locations :=
      ⟨[{ id := 6, recordingSegmentId := 1, storageTargetId := 5, objectPath := "a.mp4", sizeBytes := 1 },
        { id := 7, recordingSegmentId := 2, storageTargetId := 5, objectPath := "b.mp4", sizeBytes := 1 },
        { id := 8, recordingSegmentId := 4, storageTargetId := 5, objectPath := "c.mp4", sizeBytes := 1 }], by decide⟩
    segments :=
      ⟨[{ id := 1, cameraId := 3, startedAt := 0, endedAt := 10, durationMs := 0
          timingStatus := .final, timingSource := .nextSegmentBoundary },
        { id := 2, cameraId := 3, startedAt := 2, endedAt := 4, durationMs := 0
          timingStatus := .final, timingSource := .nextSegmentBoundary },
        { id := 4, cameraId := 3, startedAt := 12, endedAt := 15, durationMs := 0
          timingStatus := .final, timingSource := .nextSegmentBoundary }], by decide⟩ }

theorem build_covers_nested : ∃ plan, build localFiles nestedDatabase 3 1 20 "skip" = .ok plan ∧
    plan.items.map (fun item => (item.clipStartAt, item.clipEndAt)) = [(1, 10), (12, 15)] ∧
    Covers localFiles nestedDatabase 3 1 20 plan :=
  ⟨_, rfl, rfl, (build_covers localFiles nestedDatabase 3 (by decide)).1 _ rfl⟩

end ZeroNvr.ExportCover
