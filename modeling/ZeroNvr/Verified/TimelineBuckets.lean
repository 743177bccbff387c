import ZeroNvr.Recordings.Timeline

/-! # The aggregate markers of a timeline

An event that is selected meets a bucket if and only if it meets the part of the
bucket that lies inside the window.  The buckets are counted from the second of
the start, which is rounded towards 1970: a window that starts earlier within the
last, broken second of a bucket begins one bucket late.
-/

namespace ZeroNvr.PlaybackTimelineService

open Lib

/-! ## Events and intervals -/

/-- A point lies inside the interval; what has a length, or no end yet, overlaps it. -/
def Meets (event : Event) (first last : Int) : Prop :=
  if event.endedAt.any fun ended => ended ≤ event.startedAt then first ≤ event.startedAt ∧ event.startedAt < last
  else event.startedAt < last ∧ ∀ ended, event.endedAt = some ended → first < ended

instance (event : Event) (first last : Int) : Decidable (Meets event first last) := by
  unfold Meets
  cases event.endedAt with
  | none => exact decidable_of_iff (event.startedAt < last) (by simp)
  | some ended =>
    exact decidable_of_iff (if ended ≤ event.startedAt then first ≤ event.startedAt ∧ event.startedAt < last
      else event.startedAt < last ∧ first < ended) (by simp)

/-- The events of a camera. -/
def cameraEvents (db : Database) (cameraId : Uuid) : List Event :=
  db.events.rows.filter fun event => event.cameraId = some cameraId

/-- The events of the camera that meet an interval. -/
def meeting (db : Database) (cameraId : Uuid) (interval : Int × Int) : List Event :=
  (cameraEvents db cameraId).filter fun event => Meets event interval.1 interval.2

theorem meets_cases (event : Event) (first last : Int) :
    (∃ ended, event.endedAt = some ended ∧ ended ≤ event.startedAt ∧
        (Meets event first last ↔ first ≤ event.startedAt ∧ event.startedAt < last)) ∨
      (∃ ended, event.endedAt = some ended ∧ event.startedAt < ended ∧
        (Meets event first last ↔ event.startedAt < last ∧ first < ended)) ∨
      event.endedAt = none ∧ (Meets event first last ↔ event.startedAt < last) := by
  rw [Meets]
  cases isEnd : event.endedAt with
  | none => exact .inr (.inr ⟨rfl, by simp⟩)
  | some ended =>
    by_cases isPoint : ended ≤ event.startedAt
    · exact .inl ⟨ended, rfl, isPoint, by simp [isPoint]⟩
    · exact .inr (.inl ⟨ended, rfl, not_le.mp isPoint, by simp [isPoint]⟩)

/-- The condition of the query. -/
theorem selected_iff (event : Event) (startAt endAt : Int) :
    (event.startedAt < endAt ∧ (startAt ≤ event.startedAt ∨ event.endedAt.all (fun ended => startAt < ended) = true)) ↔
      Meets event startAt endAt := by
  rcases meets_cases event startAt endAt with ⟨ended, isEnd, isPoint, meets⟩ | ⟨ended, isEnd, isLonger, meets⟩ | ⟨isOpen, meets⟩
  · rw [meets, isEnd, Option.all_some, decide_eq_true_iff]
    omega
  · rw [meets, isEnd, Option.all_some, decide_eq_true_iff]
    omega
  · rw [meets, isOpen, Option.all_none]
    tauto

/-- The query selects what meets the window. -/
theorem timelineEvents_perm (db : Database) (cameraId : Uuid) (startAt endAt : Int) :
    (timelineEvents db cameraId startAt endAt).Perm (meeting db cameraId (startAt, endAt)) := by
  have selected : (db.events.select fun event => event.cameraId = some cameraId ∧ event.startedAt < endAt ∧
      (startAt ≤ event.startedAt ∨ event.endedAt.all fun ended => startAt < ended)) =
        meeting db cameraId (startAt, endAt) := by
    rw [Table.select, meeting, cameraEvents, List.filter_filter]
    refine List.filter_congr fun event _ => ?_
    rw [← Bool.decide_and, decide_eq_decide, and_comm (a := Meets _ _ _), selected_iff]
  rw [timelineEvents, selected]
  exact List.perm_insertionSort _ _

theorem mem_timelineEvents_iff {db : Database} {cameraId : Uuid} {startAt endAt : Int} {event : Event} :
    event ∈ timelineEvents db cameraId startAt endAt ↔ event ∈ cameraEvents db cameraId ∧ Meets event startAt endAt := by
  rw [(timelineEvents_perm db cameraId startAt endAt).mem_iff, meeting, List.mem_filter, decide_eq_true_iff]

/-- Inside the window a bucket is met where its part inside the window is. -/
theorem inBucket_iff {event : Event} {startAt endAt bucketStart bucketEnd : Int} (isMet : Meets event startAt endAt)
    (inside : bucketStart < endAt) :
    inBucket endAt bucketStart bucketEnd event = true ↔ Meets event (max bucketStart startAt) (min bucketEnd endAt) := by
  rw [inBucket]
  rcases meets_cases event startAt endAt with ⟨ended, isEnd, isPoint, meets⟩ | ⟨ended, isEnd, isLonger, meets⟩ | ⟨isOpen, meets⟩
  · have inWindow := meets.mp isMet
    rw [if_pos (by simp [isEnd, isPoint]), decide_eq_true_iff, Meets, if_pos (by simp [isEnd, isPoint])]
    omega
  · have inWindow := meets.mp isMet
    have notPoint : ¬ended ≤ event.startedAt := not_le.mpr isLonger
    rw [if_neg (by simp [isEnd, notPoint]), decide_eq_true_iff, Meets, if_neg (by simp [isEnd, notPoint]), isEnd,
      Option.getD_some]
    simp only [Option.some.injEq, forall_eq']
    omega
  · have inWindow := meets.mp isMet
    rw [if_neg (by simp [isOpen]), decide_eq_true_iff, Meets, if_neg (by simp [isOpen]), isOpen, Option.getD_none]
    simp only [reduceCtorEq, false_imp_iff, implies_true, and_true]
    omega

/-- What meets a part of the window meets the window. -/
theorem Meets.mono {event : Event} {first last startAt endAt : Int} (isMet : Meets event first last) (later : startAt ≤ first)
    (earlier : last ≤ endAt) : Meets event startAt endAt := by
  rw [Meets] at isMet ⊢
  split
  · next isPoint =>
    rw [if_pos isPoint] at isMet
    exact ⟨later.trans isMet.1, isMet.2.trans_le earlier⟩
  · next isLonger =>
    rw [if_neg isLonger] at isMet
    exact ⟨isMet.1.trans_le earlier, fun ended isEnd => later.trans_lt (isMet.2 ended isEnd)⟩

/-! ## Buckets -/

/-- The second with which the first bucket begins. -/
def origin (startAt size : Int) : Int := startAt.tdiv 1000000 - startAt.tdiv 1000000 % size

theorem origin_eq (startAt size : Int) : origin startAt size = size * (startAt.tdiv 1000000 / size) := by
  rw [origin, Int.emod_def]
  omega

/-- The buckets that begin before the end of the window, from the first one on. -/
theorem mem_bucketEpochs {startAt endAt size epoch : Int} (positive : 0 < size) :
    epoch ∈ bucketEpochs startAt endAt size ↔ origin startAt size ≤ epoch ∧ size ∣ epoch ∧ seconds epoch < endAt := by
  have enough (n : Nat) :
      n < ((endAt - seconds (origin startAt size) + seconds size - 1) / seconds size).toNat ↔
        seconds (origin startAt size + n * size) < endAt := by
    have wide : 0 < seconds size := Int.mul_pos positive (by decide)
    rw [Int.lt_toNat, ← Int.add_one_le_iff, Int.le_ediv_iff_mul_le wide, add_mul, one_mul]
    have scaled : seconds (origin startAt size + n * size) = seconds (origin startAt size) + n * seconds size := by
      simp only [seconds]
      ring
    rw [scaled]
    omega
  rw [bucketEpochs, List.mem_map]
  constructor
  · rintro ⟨n, member, rfl⟩
    refine ⟨?_, ?_, (enough n).mp (List.mem_range.mp member)⟩
    · exact le_add_of_nonneg_right (Int.mul_nonneg (Int.natCast_nonneg n) positive.le)
    · have aligned : size ∣ origin startAt size := ⟨_, origin_eq startAt size⟩
      exact Int.dvd_add aligned (Int.dvd_mul_left _ size)
  · rintro ⟨notBefore, ⟨k, rfl⟩, inside⟩
    have isOrigin := origin_eq startAt size
    rw [isOrigin] at notBefore
    have nonneg : 0 ≤ k - startAt.tdiv 1000000 / size := Int.sub_nonneg.mpr (Int.le_of_mul_le_mul_left notBefore positive)
    have isSum : origin startAt size + ((k - startAt.tdiv 1000000 / size).toNat : Int) * size = size * k := by
      rw [Int.toNat_of_nonneg nonneg, isOrigin]
      ring
    exact ⟨(k - startAt.tdiv 1000000 / size).toNat, List.mem_range.mpr ((enough _).mpr (isSum ▸ inside)), isSum⟩

theorem bucketEpochs_pairwise {startAt endAt size : Int} (positive : 0 < size) :
    (bucketEpochs startAt endAt size).Pairwise fun a b => a + size ≤ b := by
  rw [bucketEpochs, List.pairwise_map]
  refine List.pairwise_lt_range.imp fun {a b} before => ?_
  have scaled : ((a : Int) + 1) * size ≤ b * size := Int.mul_le_mul_of_nonneg_right (by omega) positive.le
  rw [add_mul, one_mul] at scaled
  omega

/-- The start is in the first bucket, or in the one before it within a broken second before 1970. -/
theorem origin_bounds {startAt size : Int} (positive : 0 < size) :
    startAt < seconds (origin startAt size + size) ∧ seconds (origin startAt size - size) ≤ startAt := by
  have modulus := Int.emod_nonneg (startAt.tdiv 1000000) positive.ne'
  have below := Int.emod_lt_of_pos (startAt.tdiv 1000000) positive
  have truncated := Int.mul_tdiv_add_tmod startAt 1000000
  have remainder := Int.tmod_lt_of_pos startAt (by decide : (0 : Int) < 1000000)
  have remainder' := Int.lt_tmod_of_pos startAt (by decide : (0 : Int) < 1000000)
  simp only [origin, seconds]
  generalize startAt.tdiv 1000000 % size = offset at *
  omega

/-! ## One marker -/

/-- The part of the bucket that lies inside the window. -/
def clip (startAt endAt size k : Int) : Int × Int :=
  (max (seconds (k * size)) startAt, min (seconds ((k + 1) * size)) endAt)

theorem counts_sum (items : List String) : ((counts items).map Prod.snd).sum = items.length := by
  rw [counts, List.map_map, ← List.sum_map_count_dedup_eq_length items]
  exact ((List.perm_insertionSort _ _).map _).sum_eq

/-- What the loop finds in a bucket. -/
theorem matching_perm (db : Database) (cameraId : Uuid) {startAt endAt bucketStart bucketEnd : Int}
    (inside : bucketStart < endAt) :
    ((timelineEvents db cameraId startAt endAt).filter (inBucket endAt bucketStart bucketEnd)).Perm
      (meeting db cameraId (max bucketStart startAt, min bucketEnd endAt)) := by
  refine ((timelineEvents_perm db cameraId startAt endAt).filter _).trans (List.Perm.of_eq ?_)
  rw [meeting, meeting, List.filter_filter]
  refine List.filter_congr fun event _ => ?_
  rw [Bool.eq_iff_iff, Bool.and_eq_true, decide_eq_true_iff, decide_eq_true_iff]
  constructor
  · exact fun ⟨inBucket, isMet⟩ => (inBucket_iff isMet inside).mp inBucket
  · intro isMet
    have inWindow := isMet.mono (le_max_right _ _) (min_le_right _ _)
    exact ⟨(inBucket_iff inWindow inside).mpr isMet, inWindow⟩

/-- The marker of a bucket says what the bucket holds. -/
structure Marks (db : Database) (cameraId : Uuid) (interval : Int × Int) (marker : TimelineEventView) : Prop where
  startAt : marker.startAt = interval.1
  endAt : marker.endAt = some interval.2
  count : marker.count = (meeting db cameraId interval).length
  positive : 0 < marker.count
  sum : (marker.categoryCounts.map Prod.snd).sum = marker.count

theorem aggregateMarker_cases (db : Database) (cameraId : Uuid) (detailName : String) {startAt endAt size k : Int}
    (inside : seconds (k * size) < endAt) :
    (meeting db cameraId (clip startAt endAt size k) = [] ∧
      aggregateMarker detailName startAt endAt size (k * size) (timelineEvents db cameraId startAt endAt) = none) ∨
    ∃ marker, aggregateMarker detailName startAt endAt size (k * size) (timelineEvents db cameraId startAt endAt) =
      some marker ∧ Marks db cameraId (clip startAt endAt size k) marker := by
  have isEnd : seconds (k * size) + seconds size = seconds ((k + 1) * size) := by
    simp only [seconds]
    ring
  have matched := @matching_perm db cameraId startAt endAt _ (seconds ((k + 1) * size)) inside
  rw [aggregateMarker, isEnd]
  dsimp only
  split
  · next isEmpty =>
    rw [List.isEmpty_iff.mp isEmpty] at matched
    exact .inl ⟨List.nil_perm.mp matched, rfl⟩
  · next nonempty =>
    refine .inr ⟨_, rfl, ⟨rfl, rfl, matched.length_eq, ?_, ?_⟩⟩
    · exact List.length_pos_of_ne_nil fun isEmpty => nonempty (List.isEmpty_iff.mpr isEmpty)
    · exact (counts_sum _).trans (List.length_map _)

/-! ## All markers -/

structure Aggregated (db : Database) (cameraId : Uuid) (startAt endAt size : Int) (markers : List TimelineEventView) :
    Prop where
  inside : ∀ marker ∈ markers, ∃ last, marker.endAt = some last ∧ startAt ≤ marker.startAt ∧ marker.startAt < last ∧
    last ≤ endAt
  apart : markers.Pairwise fun a b => ∀ last, a.endAt = some last → last ≤ b.startAt
  marked : ∀ marker ∈ markers, ∃ k, Marks db cameraId (clip startAt endAt size k) marker
  complete : ∀ k, (clip startAt endAt size k).1 < (clip startAt endAt size k).2 →
    meeting db cameraId (clip startAt endAt size k) ≠ [] →
      ∃ marker ∈ markers, Marks db cameraId (clip startAt endAt size k) marker

/-- No event meets the part of the window before the first bucket. -/
def Unbroken (db : Database) (cameraId : Uuid) (startAt endAt size : Int) : Prop :=
  startAt < seconds (origin startAt size) → meeting db cameraId (startAt, min (seconds (origin startAt size)) endAt) = []

/-- From 1970 on there is no such part. -/
theorem unbroken_of_nonneg (db : Database) (cameraId : Uuid) {startAt : Int} (endAt : Int) {size : Int} (positive : 0 < size)
    (nonneg : 0 ≤ startAt) : Unbroken db cameraId startAt endAt size := by
  intro late
  have modulus := Int.emod_nonneg (startAt.tdiv 1000000) positive.ne'
  rw [origin, Int.tdiv_eq_ediv_of_nonneg nonneg] at late
  rw [Int.tdiv_eq_ediv_of_nonneg nonneg] at modulus
  simp only [seconds] at late
  generalize startAt / 1000000 % size = offset at *
  omega

/-- The markers of one detail. -/
def markersOf (db : Database) (cameraId : Uuid) (detailName : String) (startAt endAt size : Int) : List TimelineEventView :=
  (bucketEpochs startAt endAt size).filterMap fun cursor =>
    aggregateMarker detailName startAt endAt size cursor (timelineEvents db cameraId startAt endAt)

section Markers

variable {db : Database} {cameraId : Uuid} {detailName : String} {startAt endAt size : Int}

/-- A marker is that of one of the buckets that are enumerated. -/
theorem mem_markersOf (positive : 0 < size) {marker : TimelineEventView}
    (member : marker ∈ markersOf db cameraId detailName startAt endAt size) :
    ∃ k, origin startAt size ≤ k * size ∧ seconds (k * size) < endAt ∧
      Marks db cameraId (clip startAt endAt size k) marker := by
  obtain ⟨epoch, isEpoch, isMarker⟩ := List.mem_filterMap.mp member
  obtain ⟨notBefore, ⟨k, rfl⟩, inside⟩ := (mem_bucketEpochs positive).mp isEpoch
  rw [mul_comm] at notBefore inside isMarker
  refine ⟨k, notBefore, inside, ?_⟩
  rcases aggregateMarker_cases db cameraId detailName inside with ⟨_, isNone⟩ | ⟨other, isSome, marks⟩
  · rw [isNone] at isMarker
    cases isMarker
  · rw [isSome] at isMarker
    cases isMarker
    exact marks

theorem clip_nonempty (positive : 0 < size) (window : startAt < endAt) {k : Int} (notBefore : origin startAt size ≤ k * size)
    (inside : seconds (k * size) < endAt) : (clip startAt endAt size k).1 < (clip startAt endAt size k).2 := by
  have bounds := (@origin_bounds startAt size positive).1
  have next : (k + 1) * size = k * size + size := by ring
  rw [clip, next]
  simp only [seconds] at *
  omega

theorem markersOf_apart (positive : 0 < size) :
    (markersOf db cameraId detailName startAt endAt size).Pairwise fun a b => ∀ last, a.endAt = some last → last ≤ b.startAt := by
  rw [markersOf, List.pairwise_filterMap]
  refine (bucketEpochs_pairwise positive).imp fun {a b} before first isFirst second isSecond last isLast => ?_
  have shape {cursor : Int} {marker : TimelineEventView}
      (isMarker : aggregateMarker detailName startAt endAt size cursor (timelineEvents db cameraId startAt endAt) =
        some marker) :
      marker.startAt = max (seconds cursor) startAt ∧ marker.endAt = some (min (seconds cursor + seconds size) endAt) := by
    rw [aggregateMarker] at isMarker
    dsimp only at isMarker
    split at isMarker
    · cases isMarker
    · cases isMarker
      exact ⟨rfl, rfl⟩
  rw [(shape isFirst).2] at isLast
  rw [(shape isSecond).1, ← Option.some.inj isLast]
  simp only [seconds]
  omega

/-- The markers are right if and only if no event meets the part before the first bucket. -/
theorem aggregated_iff (positive : 0 < size) (window : startAt < endAt) :
    Aggregated db cameraId startAt endAt size (markersOf db cameraId detailName startAt endAt size) ↔
      Unbroken db cameraId startAt endAt size := by
  obtain ⟨inFirst, inPrevious⟩ := @origin_bounds startAt size positive
  have isOrigin := origin_eq startAt size
  constructor
  · intro aggregated late
    by_contra someMeets
    have isClip : clip startAt endAt size (startAt.tdiv 1000000 / size - 1) =
        (startAt, min (seconds (origin startAt size)) endAt) := by
      have first : (startAt.tdiv 1000000 / size - 1) * size = origin startAt size - size := by
        rw [isOrigin]
        ring
      have last : (startAt.tdiv 1000000 / size - 1 + 1) * size = origin startAt size := by
        rw [isOrigin]
        ring
      rw [clip, first, last, max_eq_right inPrevious]
    obtain ⟨marker, member, marks⟩ := aggregated.complete (startAt.tdiv 1000000 / size - 1)
      (by rw [isClip]; exact lt_min late window) (by rwa [isClip])
    obtain ⟨k, notBefore, _, same⟩ := mem_markersOf positive member
    have sameStart := marks.startAt.symm.trans same.startAt
    rw [isClip, clip] at sameStart
    simp only [seconds] at *
    omega
  · intro unbroken
    refine ⟨fun marker member => ?_, markersOf_apart positive, fun marker member => ?_, fun k nonempty someMeets => ?_⟩
    · obtain ⟨k, notBefore, inside, marks⟩ := mem_markersOf positive member
      refine ⟨_, marks.endAt, ?_, ?_, ?_⟩
      · rw [marks.startAt]
        exact le_max_right _ _
      · rw [marks.startAt]
        exact clip_nonempty positive window notBefore inside
      · exact min_le_right _ _
    · obtain ⟨k, _, _, marks⟩ := mem_markersOf positive member
      exact ⟨k, marks⟩
    · have inside : seconds (k * size) < endAt := (le_max_left _ _).trans_lt (nonempty.trans_le (min_le_right _ _))
      by_cases notBefore : origin startAt size ≤ k * size
      · rcases aggregateMarker_cases db cameraId detailName inside with ⟨noneMeets, _⟩ | ⟨marker, isSome, marks⟩
        · exact absurd noneMeets someMeets
        · refine ⟨marker, List.mem_filterMap.mpr ⟨k * size, ?_, isSome⟩, marks⟩
          exact (mem_bucketEpochs positive).mpr ⟨notBefore, Int.dvd_mul_left k size, inside⟩
      · -- the bucket lies before the first one
        have before : (k + 1) * size ≤ origin startAt size := by
          rw [isOrigin, mul_comm size] at notBefore ⊢
          have earlier : k < startAt.tdiv 1000000 / size := lt_of_mul_lt_mul_right (not_le.mp notBefore) positive.le
          exact Int.mul_le_mul_of_nonneg_right (Int.add_one_le_of_lt earlier) positive.le
        have scaled : seconds ((k + 1) * size) ≤ seconds (origin startAt size) :=
          Int.mul_le_mul_of_nonneg_right before (by decide)
        have late : startAt < seconds (origin startAt size) :=
          ((le_max_right _ _).trans_lt (nonempty.trans_le (min_le_left _ _))).trans_le scaled
        refine absurd (List.eq_nil_iff_forall_not_mem.mpr fun event isMeeting => ?_) someMeets
        obtain ⟨isEvent, meets⟩ := List.mem_filter.mp isMeeting
        have meetsBefore : Meets event startAt (min (seconds (origin startAt size)) endAt) :=
          (of_decide_eq_true meets).mono (le_max_right _ _) (min_le_min_right _ scaled)
        have isBefore : event ∈ meeting db cameraId (startAt, min (seconds (origin startAt size)) endAt) :=
          List.mem_filter.mpr ⟨isEvent, decide_eq_true meetsBefore⟩
        rw [unbroken late] at isBefore
        cases isBefore

/-! ## Every event once -/

/-- What meets the window meets a bucket. -/
theorem exists_clip {event : Event} (positive : 0 < size) (window : startAt < endAt) (isMet : Meets event startAt endAt) :
    ∃ k, (clip startAt endAt size k).1 < (clip startAt endAt size k).2 ∧
      Meets event (clip startAt endAt size k).1 (clip startAt endAt size k).2 := by
  have wide : 0 < seconds size := Int.mul_pos positive (by decide)
  -- the bucket of the first instant that the event and the window share
  set k := max event.startedAt startAt / seconds size with isK
  have lower : seconds (k * size) ≤ max event.startedAt startAt := by
    have := Int.ediv_mul_le (max event.startedAt startAt) wide.ne'
    simp only [seconds] at *
    rw [← isK] at this
    linarith
  have upper : max event.startedAt startAt < seconds ((k + 1) * size) := by
    have := Int.lt_ediv_add_one_mul_self (max event.startedAt startAt) wide
    simp only [seconds] at *
    rw [← isK] at this
    linarith
  refine ⟨k, ?_, ?_⟩
  · rw [clip]
    rcases meets_cases event startAt endAt with ⟨_, _, _, meets⟩ | ⟨_, _, _, meets⟩ | ⟨_, meets⟩
    · have inWindow := meets.mp isMet
      omega
    · have inWindow := meets.mp isMet
      omega
    · have inWindow := meets.mp isMet
      omega
  · rw [clip]
    dsimp only
    rcases meets_cases event startAt endAt with ⟨ended, isEnd, isPoint, meets⟩ | ⟨ended, isEnd, isLonger, meets⟩ | ⟨isOpen, meets⟩
    · have inWindow := meets.mp isMet
      rw [Meets, if_pos (by simp [isEnd, isPoint])]
      omega
    · have inWindow := meets.mp isMet
      have notPoint : ¬ended ≤ event.startedAt := not_le.mpr isLonger
      rw [Meets, if_neg (by simp [isEnd, notPoint]), isEnd]
      simp only [Option.some.injEq, forall_eq']
      omega
    · have inWindow := meets.mp isMet
      rw [Meets, if_neg (by simp [isOpen]), isOpen]
      simp only [reduceCtorEq, false_imp_iff, implies_true, and_true]
      omega

/-- A point is in one bucket. -/
theorem point_unique {event : Event} (positive : 0 < size)
    (isPoint : (event.endedAt.any fun ended => ended ≤ event.startedAt) = true) {k other : Int}
    (meets : Meets event (clip startAt endAt size k).1 (clip startAt endAt size k).2)
    (otherMeets : Meets event (clip startAt endAt size other).1 (clip startAt endAt size other).2) : k = other := by
  rw [Meets, if_pos isPoint, clip] at meets otherMeets
  dsimp only at meets otherMeets
  have below {a b : Int} (first : max (seconds (a * size)) startAt ≤ event.startedAt)
      (last : event.startedAt < min (seconds ((b + 1) * size)) endAt) : a ≤ b := by
    have between : seconds (a * size) < seconds ((b + 1) * size) :=
      ((le_max_left _ _).trans first).trans_lt (last.trans_le (min_le_left _ _))
    have unscaled : a * size < (b + 1) * size := lt_of_mul_lt_mul_right between (by decide)
    exact Int.lt_add_one_iff.mp (lt_of_mul_lt_mul_right unscaled positive.le)
  exact le_antisymm (below meets.1 otherMeets.2) (below otherMeets.1 meets.2)

/-- An event is counted in some marker if and only if it meets the window. -/
theorem represented_iff {event : Event} {markers : List TimelineEventView} (positive : 0 < size) (window : startAt < endAt)
    (aggregated : Aggregated db cameraId startAt endAt size markers) (isEvent : event ∈ cameraEvents db cameraId) :
    (∃ marker ∈ markers, ∃ last, marker.endAt = some last ∧ Meets event marker.startAt last) ↔
      Meets event startAt endAt := by
  constructor
  · rintro ⟨marker, member, last, isEnd, meets⟩
    obtain ⟨_, isLast, notBefore, _, notAfter⟩ := aggregated.inside marker member
    rw [isEnd] at isLast
    cases isLast
    exact meets.mono notBefore notAfter
  · intro isMet
    obtain ⟨k, nonempty, meets⟩ := exists_clip positive window isMet
    have someMeets : event ∈ meeting db cameraId (clip startAt endAt size k) :=
      List.mem_filter.mpr ⟨isEvent, decide_eq_true meets⟩
    obtain ⟨marker, member, marks⟩ := aggregated.complete k nonempty (List.ne_nil_of_mem someMeets)
    exact ⟨marker, member, _, marks.endAt, marks.startAt ▸ meets⟩

/-- The marker of an event tells it from the others. -/
theorem individual_iff {event : Event} (isEvent : event ∈ cameraEvents db cameraId) :
    individualEventMarker event ∈ eventMarkers (timelineEvents db cameraId startAt endAt) startAt endAt .minute ↔
      Meets event startAt endAt := by
  rw [eventMarkers, List.mem_map]
  constructor
  · rintro ⟨other, member, same⟩
    obtain ⟨otherEvent, meets⟩ := mem_timelineEvents_iff.mp member
    have sameId : other.id = event.id := Nat.repr_injective (congrArg TimelineEventView.id same)
    have isSame : other = event :=
      Table.eq_of_key_eq (List.mem_of_mem_filter otherEvent) (List.mem_of_mem_filter isEvent) sameId
    exact isSame ▸ meets
  · exact fun meets => ⟨event, mem_timelineEvents_iff.mpr ⟨isEvent, meets⟩, rfl⟩

end Markers

/-! ## The details -/

/-- What the markers of the three details say about a window. -/
structure Faithful (db : Database) (cameraId : Uuid) (startAt endAt : Int) : Prop where
  hour : Aggregated db cameraId startAt endAt 300
    (eventMarkers (timelineEvents db cameraId startAt endAt) startAt endAt .hour)
  day : Aggregated db cameraId startAt endAt 3600
    (eventMarkers (timelineEvents db cameraId startAt endAt) startAt endAt .day)
  points : ∀ event ∈ cameraEvents db cameraId, (event.endedAt.any fun ended => ended ≤ event.startedAt) = true →
    Meets event startAt endAt → ∀ size ∈ [(300 : Int), 3600],
      ∃! k, Meets event (clip startAt endAt size k).1 (clip startAt endAt size k).2
  details : ∀ event ∈ cameraEvents db cameraId, ∀ detail ∈ [TimelineDetailLevel.hour, .day],
    (individualEventMarker event ∈ eventMarkers (timelineEvents db cameraId startAt endAt) startAt endAt .minute ↔
      ∃ marker ∈ eventMarkers (timelineEvents db cameraId startAt endAt) startAt endAt detail,
        ∃ last, marker.endAt = some last ∧ Meets event marker.startAt last)

/-- The markers of a window are right if and only if no event meets the part before the first bucket. -/
theorem eventMarkers_faithful_iff {db : Database} {cameraId : Uuid} {startAt endAt : Int} (window : startAt < endAt) :
    Faithful db cameraId startAt endAt ↔
      Unbroken db cameraId startAt endAt 300 ∧ Unbroken db cameraId startAt endAt 3600 := by
  have hourIff := @aggregated_iff db cameraId "hour" startAt endAt 300 (by decide) window
  have dayIff := @aggregated_iff db cameraId "day" startAt endAt 3600 (by decide) window
  constructor
  · exact fun faithful => ⟨hourIff.mp faithful.hour, dayIff.mp faithful.day⟩
  · rintro ⟨hourUnbroken, dayUnbroken⟩
    refine ⟨hourIff.mpr hourUnbroken, dayIff.mpr dayUnbroken, fun event isEvent isPoint isMet size isSize => ?_,
      fun event isEvent detail isDetail => ?_⟩
    · have positive : 0 < size := by
        simp only [List.mem_cons, List.not_mem_nil, or_false] at isSize
        omega
      obtain ⟨k, _, meets⟩ := exists_clip positive window isMet
      exact ⟨k, meets, fun other otherMeets => point_unique positive isPoint otherMeets meets⟩
    · rw [individual_iff isEvent]
      simp only [List.mem_cons, List.not_mem_nil, or_false] at isDetail
      rcases isDetail with rfl | rfl
      · exact (represented_iff (by decide) window (hourIff.mpr hourUnbroken) isEvent).symm
      · exact (represented_iff (by decide) window (dayIff.mpr dayUnbroken) isEvent).symm

/-- A motion from a camera whose clock was never set. -/
def earlyMotion (startedAt : Int) : Database where
  events := ⟨[{ id := 1, source := "onvif", cameraId := some 1, category := "motion", startedAt, endedAt := some startedAt }],
    List.nodup_singleton _⟩

/-- A window from half a second after 1970 on. -/
theorem eventMarkers_faithful_iff_1970 :
    Faithful (earlyMotion 750000) 1 500000 600000000 ↔
      Unbroken (earlyMotion 750000) 1 500000 600000000 300 ∧ Unbroken (earlyMotion 750000) 1 500000 600000000 3600 :=
  eventMarkers_faithful_iff (by decide)

/-- A window from half a second before 1970 on has no bucket for the motion a quarter of a second later. -/
theorem eventMarkers_1969 :
    ¬∀ (db : Database) (cameraId : Uuid) (startAt endAt : Int), startAt < endAt → Faithful db cameraId startAt endAt := by
  intro claim
  have faithful := claim (earlyMotion (-250000)) 1 (-500000) 600000000 (by decide)
  have unbroken : Unbroken (earlyMotion (-250000)) 1 (-500000) 600000000 300 :=
    (@aggregated_iff _ _ "hour" _ _ 300 (by decide) (by decide)).mp faithful.hour
  have someMeets : meeting (earlyMotion (-250000)) 1 (-500000, 0) ≠ [] := by decide
  exact someMeets (unbroken (by decide))

end ZeroNvr.PlaybackTimelineService
