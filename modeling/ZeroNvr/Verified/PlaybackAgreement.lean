import ZeroNvr.Exports.Plan
import ZeroNvr.Lib.Sorting
import ZeroNvr.Verified.TimelineCover

/-! # Timeline, playback and export

Each of the three decides from the same rows what can be played.  At one instant
all of them come down to the segments that cover it: the timeline to the best
availability (`timeline_at`), playback to the newest segment with a usable copy
(`plan_at`), an export to the first segment with a file in order of time
(`build_exports`).  What they say is compared segment by segment.
-/

namespace ZeroNvr.PlaybackAgreement

open Lib PlaybackTimelineService

variable {zoneInfo : String → Result TimeZone} {paths : PathEnv} {env : PlaybackEnv} {db : Database}
  {cameraId : Uuid} {t : Int}

/-! ## The copies of a segment -/

section Copies

variable (env db) (segment : RecordingSegment)

/-- Some available copy satisfies the condition. -/
def HasCopy (p : RecordingLocation → Bool) : Prop :=
  ∃ location ∈ locations db segment, location.state = .available ∧ p location = true

/-- Some available copy has a path on a file system. -/
def HasFile : Prop :=
  HasCopy db segment fun location => (PlaybackResolverService.filesystemPath env db location).isSome

/-- Some available copy is on an rclone target. -/
def OnRclone : Prop := HasCopy db segment (PlaybackResolverService.onType db .rclone)

/-- Playback can do something with the segment. -/
def Usable : Prop := HasFile env db segment ∨ OnRclone db segment

def onTarget (type : StorageType) (role : StorageRole) (location : RecordingLocation) : Bool :=
  (db.storageTargets.get? location.storageTargetId).any fun target => target.type = type ∧ target.role = role

def Corrupt : Prop := upper segment.integrityStatus = "CORRUPT"

/-- An intact segment with an available copy on a local recording target. -/
def ShownLocal : Prop := ¬ Corrupt segment ∧ HasCopy db segment (onTarget db .local .recording)

/-- An intact segment whose available copies are on rclone archive targets. -/
def ShownRemote : Prop :=
  ¬ Corrupt segment ∧ ¬ HasCopy db segment (onTarget db .local .recording) ∧
    HasCopy db segment (onTarget db .rclone .archive)

end Copies

theorem hasCopy_any {segment : RecordingSegment} {p : RecordingLocation → Bool} :
    ((locations db segment).filter fun item => item.state = .available).any p = true ↔ HasCopy db segment p := by
  simp only [List.any_eq_true, List.mem_filter, decide_eq_true_eq, HasCopy, and_assoc]

/-- What the timeline makes of a segment. -/
theorem availability_cases (cached : RecordingSegment → Bool) (segment : RecordingSegment) :
    (Corrupt segment ∧ availability cached db segment = .corrupted) ∨
      (ShownLocal db segment ∧ availability cached db segment = .local) ∨
      (ShownRemote db segment ∧ cached segment = true ∧ availability cached db segment = .cachedRemote) ∨
      (ShownRemote db segment ∧ cached segment = false ∧ availability cached db segment = .remote) ∨
      (¬ Corrupt segment ∧ ¬ ShownLocal db segment ∧ ¬ ShownRemote db segment ∧
        (availability cached db segment = .missing ∨ availability cached db segment = .purged)) := by
  unfold availability
  dsimp only
  split
  next corrupt => exact .inl ⟨corrupt, rfl⟩
  next intact =>
    split
    next isLocal => exact .inr (.inl ⟨⟨intact, hasCopy_any.mp isLocal⟩, rfl⟩)
    next notLocal =>
      have noLocal : ¬ HasCopy db segment (onTarget db .local .recording) := fun copy =>
        notLocal (hasCopy_any.mpr copy)
      split
      next isRemote =>
        have shown : ShownRemote db segment := ⟨intact, noLocal, hasCopy_any.mp isRemote⟩
        cases isCached : cached segment with
        | true => exact .inr (.inr (.inl ⟨shown, rfl, rfl⟩))
        | false => exact .inr (.inr (.inr (.inl ⟨shown, rfl, rfl⟩)))
      next notRemote =>
        refine .inr (.inr (.inr (.inr ⟨intact, fun shown => noLocal shown.2,
          fun shown => notRemote (hasCopy_any.mpr shown.2.2), ?_⟩)))
        split
        · exact .inl rfl
        · split
          · exact .inr rfl
          · exact .inl rfl

theorem availability_corrupted (cached : RecordingSegment → Bool) (segment : RecordingSegment) :
    availability cached db segment = .corrupted ↔ Corrupt segment := by
  rcases availability_cases cached segment with ⟨corrupt, is⟩ | ⟨shown, is⟩ | ⟨shown, _, is⟩ | ⟨shown, _, is⟩ |
    ⟨intact, _, _, is | is⟩ <;> rw [is]
  · exact iff_of_true rfl corrupt
  all_goals refine iff_of_false (by decide) ?_
  · exact shown.1
  · exact shown.1
  · exact shown.1
  · exact intact
  · exact intact

theorem availability_remote (cached : RecordingSegment → Bool) (segment : RecordingSegment) :
    availability cached db segment = .remote ↔ ShownRemote db segment ∧ cached segment = false := by
  rcases availability_cases cached segment with ⟨corrupt, is⟩ | ⟨shown, is⟩ | ⟨shown, isCached, is⟩ |
    ⟨shown, isCached, is⟩ | ⟨_, _, notRemote, is | is⟩ <;> rw [is]
  · exact iff_of_false (by decide) fun remote => remote.1.1 corrupt
  · exact iff_of_false (by decide) fun remote => remote.1.2.1 shown.2
  · exact iff_of_false (by decide) fun remote => by rw [isCached] at remote; exact absurd remote.2 (by decide)
  · exact iff_of_true rfl ⟨shown, isCached⟩
  · exact iff_of_false (by decide) fun remote => notRemote remote.1
  · exact iff_of_false (by decide) fun remote => notRemote remote.1

theorem playable_availability (cached : RecordingSegment → Bool) (segment : RecordingSegment) :
    playable (availability cached db segment) = true ↔ ShownLocal db segment ∨ ShownRemote db segment := by
  rcases availability_cases cached segment with ⟨corrupt, is⟩ | ⟨shown, is⟩ | ⟨shown, _, is⟩ | ⟨shown, _, is⟩ |
    ⟨_, notLocal, notRemote, is | is⟩ <;> rw [is]
  · exact iff_of_false (by decide) fun shown => shown.elim (fun l => l.1 corrupt) fun r => r.1 corrupt
  · exact iff_of_true rfl (.inl shown)
  · exact iff_of_true rfl (.inr shown)
  · exact iff_of_true rfl (.inr shown)
  · exact iff_of_false (by decide) fun shown => shown.elim notLocal notRemote
  · exact iff_of_false (by decide) fun shown => shown.elim notLocal notRemote

/-- Nothing better than a remote copy that has to be restored. -/
theorem availability_le_remote (cached : RecordingSegment → Bool) (segment : RecordingSegment) :
    availabilityPriority (availability cached db segment) ≤ availabilityPriority .remote ↔
      ¬ ShownLocal db segment ∧ (ShownRemote db segment → cached segment = false) := by
  rcases availability_cases cached segment with ⟨corrupt, is⟩ | ⟨shown, is⟩ | ⟨shown, isCached, is⟩ |
    ⟨shown, isCached, is⟩ | ⟨_, notLocal, notRemote, is | is⟩ <;> rw [is]
  · exact iff_of_true (by decide) ⟨fun shown => shown.1 corrupt, fun shown => absurd corrupt shown.1⟩
  · exact iff_of_false (by decide) fun best => best.1 shown
  · exact iff_of_false (by decide) fun best => by simp [best.2 shown] at isCached
  · exact iff_of_true (by decide) ⟨fun isLocal => shown.2.1 isLocal.2, fun _ => isCached⟩
  · exact iff_of_true (by decide) ⟨notLocal, fun shown => absurd shown notRemote⟩
  · exact iff_of_true (by decide) ⟨notLocal, fun shown => absurd shown notRemote⟩

/-! ## Playback at an instant -/

theorem mem_availableLocations {segment : RecordingSegment} {location : RecordingLocation} :
    location ∈ PlaybackResolverService.availableLocations db segment ↔
      location ∈ locations db segment ∧ location.state = .available := by
  rw [PlaybackResolverService.availableLocations, List.mem_insertionSort, List.mem_filter, decide_eq_true_eq]

theorem mediaPath_isSome {segment : RecordingSegment} :
    (PlaybackResolverService.mediaPath env db segment).isSome = true ↔ HasFile env db segment := by
  simp only [PlaybackResolverService.mediaPath, List.findSome?_isSome_iff, mem_availableLocations, HasFile, HasCopy,
    and_assoc]

theorem any_onRclone {segment : RecordingSegment} :
    (PlaybackResolverService.availableLocations db segment).any (PlaybackResolverService.onType db .rclone) = true ↔
      OnRclone db segment := by
  simp only [List.any_eq_true, mem_availableLocations, OnRclone, HasCopy, and_assoc]

/-- What playback makes of a segment. -/
theorem candidatePlan_cases (segment : RecordingSegment) (offsetMs : Int) :
    ((HasFile env db segment ∨ OnRclone db segment ∧ (env.cachedFile segment).isSome = true) ∧
        ∃ plan, PlaybackResolverService.candidatePlan env db segment offsetMs = some (.playable plan) ∧
          plan.segmentId = segment.id) ∨
      (¬ HasFile env db segment ∧ OnRclone db segment ∧ env.cachedFile segment = none ∧
        ∃ plan, PlaybackResolverService.candidatePlan env db segment offsetMs = some (.pending plan)) ∨
      (¬ Usable env db segment ∧ PlaybackResolverService.candidatePlan env db segment offsetMs = none) := by
  unfold PlaybackResolverService.candidatePlan
  dsimp only
  split
  next path found =>
    have hasFile : HasFile env db segment := mediaPath_isSome.mp (by rw [found]; rfl)
    exact .inl ⟨.inl hasFile, _, rfl, rfl⟩
  next notFound =>
    have noFile : ¬ HasFile env db segment := fun hasFile => by
      have isSome := mediaPath_isSome.mpr hasFile
      rw [notFound] at isSome
      cases isSome
    split
    next isRemote =>
      have remote := any_onRclone.mp isRemote
      cases isCached : env.cachedFile segment with
      | some cached => exact .inl ⟨.inr ⟨remote, rfl⟩, _, rfl, rfl⟩
      | none => exact .inr (.inl ⟨noFile, remote, rfl, _, rfl⟩)
    next notRemote =>
      refine .inr (.inr ⟨fun usable => ?_, rfl⟩)
      exact usable.elim noFile fun remote => notRemote (any_onRclone.mpr remote)

/-- The order in which playback tries the segments at an instant. -/
def NewerFirst (left right : RecordingSegment) : Prop :=
  right.startedAt < left.startedAt ∨ (left.startedAt = right.startedAt ∧ right.id ≤ left.id)

instance : DecidableRel NewerFirst := fun _ _ => inferInstanceAs (Decidable (_ ∨ _))

instance : IsTrans RecordingSegment NewerFirst := ⟨fun a b c first second => by
  rcases first with later | ⟨same, le⟩ <;> rcases second with later' | ⟨same', le'⟩
  · exact .inl (later'.trans later)
  · exact .inl (same' ▸ later)
  · exact .inl (same ▸ later')
  · exact .inr ⟨same.trans same', Nat.le_trans le' le⟩⟩

instance : Std.Total NewerFirst := ⟨fun a b => by
  simp only [NewerFirst]
  rcases lt_trichotomy a.startedAt b.startedAt with before | same | after
  · exact .inr (.inl before)
  · rcases Nat.le_total a.id b.id with le | le
    · exact .inr (.inr ⟨same.symm, le⟩)
    · exact .inl (.inr ⟨same, le⟩)
  · exact .inl (.inl after)⟩

/-- The covering segment with a usable copy that comes first in the order of playback. -/
structure Newest (env : PlaybackEnv) (db : Database) (cameraId : Uuid) (t : Int) (segment : RecordingSegment) :
    Prop where
  covers : SegmentCovers db cameraId t segment
  usable : Usable env db segment
  first : ∀ other, SegmentCovers db cameraId t other → Usable env db other → NewerFirst segment other

theorem mem_segmentsAt {segment : RecordingSegment} :
    segment ∈ PlaybackResolverService.segmentsAt db cameraId t ↔ SegmentCovers db cameraId t segment := by
  rw [PlaybackResolverService.segmentsAt, List.mem_insertionSort, Table.mem_select, decide_eq_true_eq, SegmentCovers]

theorem Newest.unique {segment other : RecordingSegment} (newest : Newest env db cameraId t segment)
    (isNewest : Newest env db cameraId t other) : segment = other := by
  have before := newest.first other isNewest.covers isNewest.usable
  have after := isNewest.first segment newest.covers newest.usable
  have sameId : segment.id = other.id := by
    rcases before with later | ⟨_, le⟩ <;> rcases after with later' | ⟨_, le'⟩
    · omega
    · omega
    · omega
    · exact Nat.le_antisymm le' le
  exact Table.eq_of_key_eq newest.covers.1 isNewest.covers.1 sameId

/-- The plan of an instant is the plan of the newest segment with a usable copy, or a gap. -/
theorem plan_at {found : PlaybackPlan}
    (planned : PlaybackResolverService.plan env db zoneInfo paths cameraId t = .ok found) :
    (∃ segment, Newest env db cameraId t segment ∧
      (((HasFile env db segment ∨ (env.cachedFile segment).isSome = true) ∧
          ∃ plan, found = .playable plan ∧ plan.segmentId = segment.id) ∨
        (¬ HasFile env db segment ∧ env.cachedFile segment = none ∧ ∃ plan, found = .pending plan))) ∨
      ((∀ segment, SegmentCovers db cameraId t segment → ¬ Usable env db segment) ∧ ∃ plan, found = .gap plan) := by
  unfold PlaybackResolverService.plan at planned
  dsimp only at planned
  split at planned
  next candidate isFound =>
    cases planned
    obtain ⟨earlier, segment, later, isList, isPlan, noneEarlier⟩ := List.findSome?_eq_some_iff.mp isFound
    have sorted : (PlaybackResolverService.segmentsAt db cameraId t).Pairwise NewerFirst :=
      List.pairwise_insertionSort NewerFirst _
    rw [isList] at sorted
    obtain ⟨_, fromSegment, _⟩ := List.pairwise_append.mp sorted
    have member : segment ∈ PlaybackResolverService.segmentsAt db cameraId t := by
      rw [isList]
      exact List.mem_append_right _ List.mem_cons_self
    have isFirst : ∀ other, SegmentCovers db cameraId t other → Usable env db other → NewerFirst segment other := by
      intro other covers usable
      have inList := mem_segmentsAt.mpr covers
      rw [isList] at inList
      rcases List.mem_append.mp inList with isEarlier | isLater
      · have isNone := noneEarlier other isEarlier
        rcases candidatePlan_cases other (PlaybackResolverService.offsetMs env t other) with
          ⟨_, _, is, _⟩ | ⟨_, _, _, _, is⟩ | ⟨notUsable, _⟩
        · rw [is] at isNone
          cases isNone
        · rw [is] at isNone
          cases isNone
        · exact absurd usable notUsable
      · rcases List.mem_cons.mp isLater with rfl | isAfter
        · exact .inr ⟨rfl, le_rfl⟩
        · exact (List.pairwise_cons.mp fromSegment).1 other isAfter
    rcases candidatePlan_cases segment (PlaybackResolverService.offsetMs env t segment) with
      ⟨playable, plan, is, ofSegment⟩ | ⟨noFile, remote, notCached, plan, is⟩ | ⟨_, is⟩
    · rw [is] at isPlan
      cases isPlan
      exact .inl ⟨segment, ⟨mem_segmentsAt.mp member, playable.imp_right And.left, isFirst⟩,
        .inl ⟨playable.imp_right And.right, plan, rfl, ofSegment⟩⟩
    · rw [is] at isPlan
      cases isPlan
      exact .inl ⟨segment, ⟨mem_segmentsAt.mp member, .inr remote, isFirst⟩, .inr ⟨noFile, notCached, plan, rfl⟩⟩
    · rw [is] at isPlan
      cases isPlan
  next notFound =>
    refine .inr ⟨fun segment covers usable => ?_, ?_⟩
    · have isNone := List.findSome?_eq_none_iff.mp notFound segment (mem_segmentsAt.mpr covers)
      rcases candidatePlan_cases segment (PlaybackResolverService.offsetMs env t segment) with
        ⟨_, _, is, _⟩ | ⟨_, _, _, _, is⟩ | ⟨notUsable, _⟩
      · rw [is] at isNone
        cases isNone
      · rw [is] at isNone
        cases isNone
      · exact notUsable usable
    · split at planned
      · rw [bind_eq_ok] at planned
        obtain ⟨reason, _, planned⟩ := planned
        cases planned
        exact ⟨_, rfl⟩
      · cases planned
        exact ⟨_, rfl⟩

/-! ## The clips of an export -/

section Export

open ExportPlanResolver

variable {startAt endAt : Int} {gapPolicy : String} {processed rest : List RecordingSegment} {state : ExportCursor}
  {segment : RecordingSegment}

/-- The segment covers the instant and has a file. -/
def hit (env : PlaybackEnv) (db : Database) (t : Int) (segment : RecordingSegment) : Bool :=
  (ExportPlanResolver.path env db segment).isSome && (segment.startedAt ≤ t && t < segment.endedAt)

theorem hit_iff : hit env db t segment = true ↔
    (ExportPlanResolver.path env db segment).isSome = true ∧ segment.startedAt ≤ t ∧ t < segment.endedAt := by
  simp only [hit, Bool.and_eq_true, decide_eq_true_eq]

def ClipCovers (item : ExportPlanItem) (t : Int) : Prop := item.clipStartAt ≤ t ∧ t < item.clipEndAt

/-- The clips taken so far: the cursor is at the end of one that has a file, every clip ends before
    it, and an instant of the range is in a clip of the first segment that hits it. -/
structure ClippedTo (env : PlaybackEnv) (db : Database) (startAt endAt : Int) (processed : List RecordingSegment)
    (state : ExportCursor) : Prop where
  reached : state.cursor = startAt ∨ ∃ segment ∈ processed,
    (ExportPlanResolver.path env db segment).isSome = true ∧ state.cursor ≤ segment.endedAt
  start : startAt ≤ state.cursor
  inside : ∀ item ∈ state.items, startAt ≤ item.clipStartAt ∧ item.clipEndAt ≤ endAt ∧ item.clipEndAt ≤ state.cursor
  clips : ∀ t, startAt ≤ t → t < endAt → ∀ id,
    (∃ item ∈ state.items, ClipCovers item t ∧ item.segmentId = id) ↔
      ∃ segment, processed.find? (hit env db t) = some segment ∧ segment.id = id

/-- Before the cursor is where an earlier segment hits. -/
theorem ClippedTo.before_cursor (clipped : ClippedTo env db startAt endAt processed state)
    (sorted : ∀ earlier ∈ processed, earlier.startedAt ≤ segment.startedAt) (inside : startAt ≤ t ∧ t < endAt)
    (started : segment.startedAt ≤ t) :
    t < state.cursor ↔ (processed.find? (hit env db t)).isSome = true := by
  constructor
  · intro before
    rcases clipped.reached with atStart | ⟨earlier, member, hasFile, notAfter⟩
    · omega
    · have startedBefore := sorted earlier member
      refine List.find?_isSome.mpr ⟨earlier, member, hit_iff.mpr ⟨hasFile, ?_, ?_⟩⟩ <;> omega
  · intro isSome
    obtain ⟨earlier, found⟩ := Option.isSome_iff_exists.mp isSome
    obtain ⟨item, member, covers, _⟩ := (clipped.clips t inside.1 inside.2 earlier.id).mpr ⟨earlier, found, rfl⟩
    exact covers.2.trans_le (clipped.inside item member).2.2

/-- A segment whose instants in the range lie before the cursor changes nothing. -/
theorem ClippedTo.skip (clipped : ClippedTo env db startAt endAt processed state)
    (sorted : ∀ earlier ∈ processed, earlier.startedAt ≤ segment.startedAt)
    (passed : ∀ t, startAt ≤ t → t < endAt → hit env db t segment = true → t < state.cursor) :
    ClippedTo env db startAt endAt (processed ++ [segment]) state := by
  refine ⟨?_, clipped.start, clipped.inside, fun t afterStart beforeEnd id => ?_⟩
  · rcases clipped.reached with atStart | ⟨earlier, member, hasFile, notAfter⟩
    · exact .inl atStart
    · exact .inr ⟨earlier, List.mem_append_left _ member, hasFile, notAfter⟩
  · rw [clipped.clips t afterStart beforeEnd id, List.find?_append]
    cases found : processed.find? (hit env db t) with
    | some earlier => rfl
    | none =>
      cases hits : hit env db t segment with
      | false => simp [hits]
      | true =>
        have earlier := (clipped.before_cursor sorted ⟨afterStart, beforeEnd⟩ (hit_iff.mp hits).2.1).mp
          (passed t afterStart beforeEnd hits)
        rw [found] at earlier
        cases earlier

theorem ClippedTo.skipAll (clipped : ClippedTo env db startAt endAt processed state)
    (sorted : (processed ++ rest).Pairwise fun left right => left.startedAt ≤ right.startedAt)
    (done : endAt ≤ state.cursor) : ClippedTo env db startAt endAt (processed ++ rest) state := by
  induction rest generalizing processed with
  | nil => rwa [List.append_nil]
  | cons segment rest ih =>
    have later := (List.pairwise_append.mp sorted).2.2
    rw [List.append_cons] at sorted ⊢
    refine ih (clipped.skip (fun earlier member => later earlier member segment List.mem_cons_self) ?_) sorted
    exact fun t _ beforeEnd _ => beforeEnd.trans_le done

/-- A segment that reaches past the cursor contributes the clip from there on. -/
theorem ClippedTo.take (clipped : ClippedTo env db startAt endAt processed state)
    (sorted : ∀ earlier ∈ processed, earlier.startedAt ≤ segment.startedAt) {filePath : String}
    (hasFile : ExportPlanResolver.path env db segment = some filePath)
    (nonempty : max (max state.cursor startAt) segment.startedAt < min endAt segment.endedAt) (hasGaps : Bool) :
    ClippedTo env db startAt endAt (processed ++ [segment])
      { cursor := max state.cursor (min endAt segment.endedAt)
        items := state.items ++ [item segment filePath (max (max state.cursor startAt) segment.startedAt)
          (min endAt segment.endedAt)]
        hasGaps } := by
  have start := clipped.start
  have isSome : (ExportPlanResolver.path env db segment).isSome = true := by
    rw [hasFile]
    rfl
  refine ⟨.inr ⟨segment, List.mem_append_right _ (List.mem_singleton_self _), isSome, ?_⟩, ?_, ?_,
    fun t afterStart beforeEnd id => ?_⟩
  · dsimp only
    omega
  · dsimp only
    omega
  · intro taken member
    dsimp only at member ⊢
    rcases List.mem_append.mp member with earlier | isNew
    · have := clipped.inside taken earlier
      omega
    · rw [List.mem_singleton.mp isNew]
      simp only [item]
      omega
  · have split : (∃ taken ∈ state.items ++ [item segment filePath (max (max state.cursor startAt) segment.startedAt)
          (min endAt segment.endedAt)], ClipCovers taken t ∧ taken.segmentId = id) ↔
        (∃ taken ∈ state.items, ClipCovers taken t ∧ taken.segmentId = id) ∨
          ((max (max state.cursor startAt) segment.startedAt ≤ t ∧ t < min endAt segment.endedAt) ∧
            segment.id = id) := by
      simp only [List.mem_append, List.mem_singleton, or_and_right, exists_or, exists_eq_left,
        ClipCovers, item]
    dsimp only
    rw [split, clipped.clips t afterStart beforeEnd id, List.find?_append]
    cases found : processed.find? (hit env db t) with
    | some earlier =>
      have covered : ¬ (max (max state.cursor startAt) segment.startedAt ≤ t ∧ t < min endAt segment.endedAt) := by
        rintro ⟨afterClip, _⟩
        have before := (clipped.before_cursor sorted ⟨afterStart, beforeEnd⟩ (by omega)).mpr (by rw [found]; rfl)
        omega
      rw [or_iff_left fun inClip => covered inClip.1, Option.some_or]
    | none =>
      have hits : hit env db t segment = true ↔
          max (max state.cursor startAt) segment.startedAt ≤ t ∧ t < min endAt segment.endedAt := by
        rw [hit_iff]
        constructor
        · rintro ⟨_, started, notEnded⟩
          have notBefore : ¬ t < state.cursor := fun before => by
            have earlier := (clipped.before_cursor sorted ⟨afterStart, beforeEnd⟩ started).mp before
            rw [found] at earlier
            cases earlier
          omega
        · rintro ⟨afterClip, beforeClip⟩
          exact ⟨isSome, by omega, by omega⟩
      rw [← hits]
      cases isHit : hit env db t segment <;> simp [isHit]

theorem clip_clipped {final : ExportCursor}
    (sorted : (processed ++ rest).Pairwise fun left right => left.startedAt ≤ right.startedAt)
    (clipped : ClippedTo env db startAt endAt processed state)
    (done : clip env db startAt endAt gapPolicy rest state = .ok final) :
    ClippedTo env db startAt endAt (processed ++ rest) final := by
  induction rest generalizing processed state with
  | nil =>
    cases done
    rwa [List.append_nil]
  | cons segment rest ih =>
    have earlierStart : ∀ earlier ∈ processed, earlier.startedAt ≤ segment.startedAt := fun earlier member =>
      (List.pairwise_append.mp sorted).2.2 earlier member segment List.mem_cons_self
    rw [List.append_cons] at sorted ⊢
    unfold ExportPlanResolver.clip at done
    split at done
    next passed =>
      refine ih sorted (clipped.skip earlierStart fun t _ _ hits => ?_) done
      exact (hit_iff.mp hits).2.2.trans_le passed
    next ahead =>
      dsimp only at done
      split at done
      next noFile =>
        refine ih sorted (clipped.skip earlierStart fun t _ _ hits => ?_) done
        have hasFile := (hit_iff.mp hits).1
        rw [noFile] at hasFile
        cases hasFile
      next filePath hasFile =>
        split at done
        next empty =>
          refine ih sorted (clipped.skip earlierStart fun t afterStart beforeEnd hits => ?_) done
          have covers := (hit_iff.mp hits).2
          omega
        next nonempty =>
          split at done
          · cases done
          · have taken := clipped.take earlierStart hasFile (not_le.mp nonempty)
              (state.hasGaps || decide (state.cursor < max (max state.cursor startAt) segment.startedAt))
            split at done
            next atEnd =>
              cases done
              exact taken.skipAll sorted atEnd
            next => exact ih sorted taken done

instance : IsTrans RecordingSegment segmentBefore := ⟨fun a b c first second => by
  rcases first with before | ⟨same, rest⟩ <;> rcases second with before' | ⟨same', rest'⟩
  · exact .inl (before.trans before')
  · exact .inl (same' ▸ before)
  · exact .inl (same ▸ before')
  · refine .inr ⟨same.trans same', ?_⟩
    rcases rest with before | ⟨sameEnd, le⟩ <;> rcases rest' with before' | ⟨sameEnd', le'⟩
    · exact .inl (before.trans before')
    · exact .inl (sameEnd' ▸ before)
    · exact .inl (sameEnd ▸ before')
    · exact .inr ⟨sameEnd.trans sameEnd', Nat.le_trans le le'⟩⟩

instance : Std.Total segmentBefore := ⟨fun a b => by
  rcases lt_trichotomy a.startedAt b.startedAt with before | same | after
  · exact .inl (.inl before)
  · rcases lt_trichotomy a.endedAt b.endedAt with before | sameEnd | after
    · exact .inl (.inr ⟨same, .inl before⟩)
    · rcases Nat.le_total a.id b.id with le | le
      · exact .inl (.inr ⟨same, .inr ⟨sameEnd, le⟩⟩)
      · exact .inr (.inr ⟨same.symm, .inr ⟨sameEnd.symm, le⟩⟩)
    · exact .inr (.inr ⟨same.symm, .inl after⟩)
  · exact .inr (.inl after)⟩

/-- The covering segment with a file that comes first in order of time. -/
structure Oldest (env : PlaybackEnv) (db : Database) (cameraId : Uuid) (t : Int) (segment : RecordingSegment) :
    Prop where
  covers : SegmentCovers db cameraId t segment
  hasFile : HasFile env db segment
  first : ∀ other, SegmentCovers db cameraId t other → HasFile env db other → segmentBefore segment other

theorem Oldest.unique {segment other : RecordingSegment} (oldest : Oldest env db cameraId t segment)
    (isOldest : Oldest env db cameraId t other) : segment = other := by
  have before := oldest.first other isOldest.covers isOldest.hasFile
  have after := isOldest.first segment oldest.covers oldest.hasFile
  have sameId : segment.id = other.id := by
    rcases before with before | ⟨_, before | ⟨_, le⟩⟩ <;> rcases after with after | ⟨_, after | ⟨_, le'⟩⟩
    all_goals first | omega | exact Nat.le_antisymm le le'
  exact Table.eq_of_key_eq oldest.covers.1 isOldest.covers.1 sameId

theorem mem_segmentsIn_hit (inside : startAt ≤ t ∧ t < endAt) :
    segment ∈ segmentsIn db cameraId startAt endAt ∧ hit env db t segment = true ↔
      SegmentCovers db cameraId t segment ∧ HasFile env db segment := by
  rw [segmentsIn, List.mem_insertionSort, Table.mem_select, decide_eq_true_eq, hit_iff, ExportPlanResolver.path,
    mediaPath_isSome, SegmentCovers]
  constructor
  · rintro ⟨⟨member, ofCamera, _⟩, hasFile, covers⟩
    exact ⟨⟨member, ofCamera, covers⟩, hasFile⟩
  · rintro ⟨⟨member, ofCamera, covers⟩, hasFile⟩
    exact ⟨⟨member, ofCamera, by omega, by omega⟩, hasFile, covers⟩

theorem segmentsIn_sorted : (segmentsIn db cameraId startAt endAt).Pairwise segmentBefore :=
  List.pairwise_insertionSort segmentBefore _

/-- The first hit of the range is the oldest covering segment with a file. -/
theorem find?_hit (inside : startAt ≤ t ∧ t < endAt) :
    (segmentsIn db cameraId startAt endAt).find? (hit env db t) = some segment ↔
      Oldest env db cameraId t segment := by
  have isOldest : ∀ found, (segmentsIn db cameraId startAt endAt).find? (hit env db t) = some found →
      Oldest env db cameraId t found := by
    intro found isFound
    obtain ⟨hits, earlier, later, isList, missEarlier⟩ := List.find?_eq_some_iff_append.mp isFound
    have sorted := @segmentsIn_sorted db cameraId startAt endAt
    have member : found ∈ segmentsIn db cameraId startAt endAt := List.mem_of_find?_eq_some isFound
    obtain ⟨covers, hasFile⟩ := (mem_segmentsIn_hit inside).mp ⟨member, hits⟩
    refine ⟨covers, hasFile, fun other otherCovers otherFile => ?_⟩
    obtain ⟨inList, otherHits⟩ := (mem_segmentsIn_hit inside).mpr ⟨otherCovers, otherFile⟩
    rw [isList] at inList sorted
    rcases List.mem_append.mp inList with isEarlier | isLater
    · have misses := missEarlier other isEarlier
      simp [otherHits] at misses
    · rcases List.mem_cons.mp isLater with rfl | isAfter
      · exact .inr ⟨rfl, .inr ⟨rfl, le_rfl⟩⟩
      · exact (List.pairwise_cons.mp (List.pairwise_append.mp sorted).2.1).1 other isAfter
  refine ⟨isOldest segment, fun oldest => ?_⟩
  obtain ⟨member, hits⟩ := (mem_segmentsIn_hit inside).mpr ⟨oldest.covers, oldest.hasFile⟩
  obtain ⟨found, isFound⟩ := Option.isSome_iff_exists.mp (List.find?_isSome.mpr ⟨segment, member, hits⟩)
  rw [isFound, oldest.unique (isOldest found isFound)]

theorem clipped_all {final : ExportCursor}
    (done : clip env db startAt endAt gapPolicy (segmentsIn db cameraId startAt endAt) { cursor := startAt } =
      .ok final) :
    ClippedTo env db startAt endAt (segmentsIn db cameraId startAt endAt) final := by
  have start : ClippedTo env db startAt endAt [] { cursor := startAt } := by
    refine ⟨.inl rfl, le_rfl, fun _ member => absurd member List.not_mem_nil, fun _ _ _ _ => ?_⟩
    simp
  refine @clip_clipped _ _ _ _ _ [] _ _ _ ?_ start done
  exact segmentsIn_sorted.imp fun before => before.elim le_of_lt fun same => same.1.le

/-- An export that is built covers an instant with a clip of the oldest segment that has a file
    there. -/
theorem build_exports {exported : ExportPlan}
    (built : ExportPlanResolver.build env db cameraId startAt endAt gapPolicy = .ok exported) :
    (∀ item ∈ exported.items, startAt ≤ item.clipStartAt ∧ item.clipEndAt ≤ endAt) ∧
      ∀ t, startAt ≤ t → t < endAt → ∀ id,
        (∃ item ∈ exported.items, ClipCovers item t ∧ item.segmentId = id) ↔
          ∃ segment, Oldest env db cameraId t segment ∧ segment.id = id := by
  unfold ExportPlanResolver.build at built
  split at built
  · cases built
  · split at built
    · cases built
    · rw [bind_eq_ok] at built
      obtain ⟨final, done, built⟩ := built
      have clipped := clipped_all done
      split at built
      · cases built
      · split at built
        · cases built
        · cases built
          refine ⟨fun item member => ?_, fun t afterStart beforeEnd id => ?_⟩
          · have inside := clipped.inside item member
            exact ⟨inside.1, inside.2.1⟩
          · rw [clipped.clips t afterStart beforeEnd id]
            simp only [find?_hit ⟨afterStart, beforeEnd⟩]

theorem clip_skip (rest : List RecordingSegment) (state : ExportCursor) :
    ∃ final, clip env db startAt endAt "skip" rest state = .ok final := by
  induction rest generalizing state with
  | nil => exact ⟨state, rfl⟩
  | cons segment rest ih =>
    unfold ExportPlanResolver.clip
    split
    · exact ih state
    · split
      · exact ih state
      · dsimp only
        split
        · exact ih state
        · rw [if_neg fun fails => absurd fails.2 (by decide)]
          split
          · exact ⟨_, rfl⟩
          · exact ih _

/-- Where a covering segment has a file, the microsecond from there on can be exported. -/
theorem build_skip (covers : SegmentCovers db cameraId t segment) (hasFile : HasFile env db segment) :
    ∃ exported, ExportPlanResolver.build env db cameraId t (t + 1) "skip" = .ok exported ∧
      ∃ item ∈ exported.items, ClipCovers item t := by
  have inside : t ≤ t ∧ t < t + 1 := ⟨le_rfl, by omega⟩
  obtain ⟨final, done⟩ := @clip_skip env db t (t + 1) (segmentsIn db cameraId t (t + 1)) { cursor := t }
  have clipped := clipped_all done
  obtain ⟨member, hits⟩ := (mem_segmentsIn_hit inside).mpr ⟨covers, hasFile⟩
  obtain ⟨found, isFound⟩ := Option.isSome_iff_exists.mp (List.find?_isSome.mpr ⟨segment, member, hits⟩)
  obtain ⟨item, inItems, clipCovers, _⟩ := (clipped.clips t inside.1 inside.2 found.id).mpr ⟨found, isFound, rfl⟩
  have nonempty : ¬ final.items.isEmpty = true := fun empty => by
    rw [List.isEmpty_iff.mp empty] at inItems
    cases inItems
  have built : ExportPlanResolver.build env db cameraId t (t + 1) "skip" = .ok
      { cameraId, requestedStartAt := t, requestedEndAt := t + 1, items := final.items
        actualDurationMs := (final.items.map (durationMs env)).sum
        hasGaps := final.hasGaps || decide (final.cursor < t + 1) } := by
    unfold ExportPlanResolver.build
    rw [if_neg (by omega), if_neg (by decide), done]
    dsimp only [bind, Except.bind]
    rw [if_neg fun fails => absurd fails.2 (by decide), if_neg nonempty]
  exact ⟨_, built, item, inItems, clipCovers⟩

end Export

/-! ## Agreement at an instant -/

/-- The cache as the timeline sees it. -/
def cached (env : PlaybackEnv) (segment : RecordingSegment) : Bool := (env.cachedFile segment).isSome

/-- Timeline, playback and export say the same about an instant: playback finds a gap exactly where
    the timeline shows one, asks for a restore only where the timeline shows a remote recording, plays
    whatever an export contains; and a corrupted segment is neither played nor exported. -/
structure Agrees (zoneInfo : String → Result TimeZone) (paths : PathEnv) (env : PlaybackEnv) (db : Database)
    (cameraId : Uuid) (t : Int) : Prop where
  gap_iff : ∀ startAt endAt detail view found, startAt ≤ t → t < endAt →
    build zoneInfo paths (cached env) db cameraId startAt endAt detail = .ok view →
    PlaybackResolverService.plan env db zoneInfo paths cameraId t = .ok found →
    ((∃ gap, found = .gap gap) ↔ ∃ gap ∈ view.gaps, gap.Contains t)
  pending_remote : ∀ startAt endAt detail view pending, startAt ≤ t → t < endAt →
    build zoneInfo paths (cached env) db cameraId startAt endAt detail = .ok view →
    PlaybackResolverService.plan env db zoneInfo paths cameraId t = .ok (.pending pending) →
    Labelled view.recordingRanges t .remote
  exported_plays : ∀ startAt endAt gapPolicy exported,
    ExportPlanResolver.build env db cameraId startAt endAt gapPolicy = .ok exported →
    ∀ item ∈ exported.items, ClipCovers item t → ∃ playable,
      PlaybackResolverService.plan env db zoneInfo paths cameraId t = .ok (.playable playable)
  corrupted_unplayed : ∀ segment, SegmentCovers db cameraId t segment →
    availability (cached env) db segment = .corrupted → ∀ playable,
    PlaybackResolverService.plan env db zoneInfo paths cameraId t = .ok (.playable playable) →
    playable.segmentId ≠ segment.id
  corrupted_unexported : ∀ segment, SegmentCovers db cameraId t segment →
    availability (cached env) db segment = .corrupted → ∀ startAt endAt gapPolicy exported,
    ExportPlanResolver.build env db cameraId startAt endAt gapPolicy = .ok exported →
    ∀ item ∈ exported.items, ClipCovers item t → item.segmentId ≠ segment.id

/-- What the rows have to be like for that. -/
structure SameCopies (env : PlaybackEnv) (db : Database) (cameraId : Uuid) (t : Int) : Prop where
  usable_iff : (∃ segment, SegmentCovers db cameraId t segment ∧ Usable env db segment) ↔
    ∃ segment, SegmentCovers db cameraId t segment ∧ (ShownLocal db segment ∨ ShownRemote db segment)
  restored : ∀ segment, Newest env db cameraId t segment → ¬ HasFile env db segment →
    env.cachedFile segment = none →
    (∃ other, SegmentCovers db cameraId t other ∧ ShownRemote db other ∧ env.cachedFile other = none) ∧
      ∀ other, SegmentCovers db cameraId t other → ¬ HasFile env db other ∧ ¬ ShownLocal db other ∧
        (ShownRemote db other → env.cachedFile other = none)
  played_intact : ∀ segment, Newest env db cameraId t segment →
    HasFile env db segment ∨ (env.cachedFile segment).isSome = true → ¬ Corrupt segment
  exported_intact : ∀ segment, Oldest env db cameraId t segment → ¬ Corrupt segment

theorem timeline_gap {startAt endAt : Int} {view : PlaybackTimelineView}
    (exact_ : ExactCover (cached env) db cameraId startAt endAt view) (inside : startAt ≤ t ∧ t < endAt) :
    (∃ gap ∈ view.gaps, gap.Contains t) ↔
      ¬ ∃ segment, SegmentCovers db cameraId t segment ∧ (ShownLocal db segment ∨ ShownRemote db segment) := by
  rw [exact_.gap_iff t inside.1 inside.2]
  simp only [playable_availability]

theorem timeline_remote {startAt endAt : Int} {view : PlaybackTimelineView}
    (exact_ : ExactCover (cached env) db cameraId startAt endAt view) (inside : startAt ≤ t ∧ t < endAt) :
    Labelled view.recordingRanges t .remote ↔
      (∃ segment, SegmentCovers db cameraId t segment ∧ ShownRemote db segment ∧ cached env segment = false) ∧
        ∀ segment, SegmentCovers db cameraId t segment →
          ¬ ShownLocal db segment ∧ (ShownRemote db segment → cached env segment = false) := by
  simp only [← availability_remote, ← availability_le_remote (cached env)]
  constructor
  · rintro ⟨range, member, contains, isRemote⟩
    obtain ⟨attained, greatest⟩ := exact_.range_best t inside.1 inside.2 range member contains
    rw [isRemote] at attained greatest
    exact ⟨attained, greatest⟩
  · rintro ⟨⟨segment, covers, isRemote⟩, greatest⟩
    obtain ⟨range, member, contains⟩ := (exact_.range_iff t inside.1 inside.2).mpr ⟨segment, covers⟩
    obtain ⟨⟨best, bestCovers, isBest⟩, above⟩ := exact_.range_best t inside.1 inside.2 range member contains
    refine ⟨range, member, contains, ?_⟩
    have notBelow := above segment covers
    have notAbove := greatest best bestCovers
    rw [isRemote] at notBelow
    rw [isBest] at notAbove
    have samePriority := le_antisymm notAbove notBelow
    cases label : range.label <;> rw [label] at samePriority <;> first | rfl | exact absurd samePriority (by decide)

theorem plan_gap {found : PlaybackPlan}
    (planned : PlaybackResolverService.plan env db zoneInfo paths cameraId t = .ok found) :
    (∃ gap, found = .gap gap) ↔ ¬ ∃ segment, SegmentCovers db cameraId t segment ∧ Usable env db segment := by
  rcases plan_at planned with ⟨segment, newest, isPlan⟩ | ⟨none, isGap⟩
  · refine iff_of_false ?_ (not_not.mpr ⟨segment, newest.covers, newest.usable⟩)
    rintro ⟨gap, rfl⟩
    rcases isPlan with ⟨_, _, is, _⟩ | ⟨_, _, _, is⟩ <;> cases is
  · exact iff_of_true isGap fun ⟨segment, covers, usable⟩ => none segment covers usable

/-- A usable covering segment is all that playback needs to return. -/
theorem plan_usable (zoneInfo : String → Result TimeZone) (paths : PathEnv) {segment : RecordingSegment}
    (covers : SegmentCovers db cameraId t segment) (usable : Usable env db segment) :
    ∃ found newest, PlaybackResolverService.plan env db zoneInfo paths cameraId t = .ok found ∧
      Newest env db cameraId t newest := by
  have planned : ∃ found, PlaybackResolverService.plan env db zoneInfo paths cameraId t = .ok found := by
    unfold PlaybackResolverService.plan
    dsimp only
    split
    · exact ⟨_, rfl⟩
    next notFound =>
      exfalso
      have isNone := List.findSome?_eq_none_iff.mp notFound segment (mem_segmentsAt.mpr covers)
      rcases candidatePlan_cases segment (PlaybackResolverService.offsetMs env t segment) with
        ⟨_, _, is, _⟩ | ⟨_, _, _, _, is⟩ | ⟨notUsable, _⟩
      · rw [is] at isNone
        cases isNone
      · rw [is] at isNone
        cases isNone
      · exact notUsable usable
  obtain ⟨found, planned⟩ := planned
  rcases plan_at planned with ⟨newest, isNewest, _⟩ | ⟨none, _⟩
  · exact ⟨found, newest, planned, isNewest⟩
  · exact absurd usable (none segment covers)

/-- The plan of an instant whose newest usable segment is known. -/
theorem plan_newest {segment : RecordingSegment} (newest : Newest env db cameraId t segment) :
    ((HasFile env db segment ∨ (env.cachedFile segment).isSome = true) ∧ ∃ playable,
        PlaybackResolverService.plan env db zoneInfo paths cameraId t = .ok (.playable playable) ∧
          playable.segmentId = segment.id) ∨
      (¬ HasFile env db segment ∧ env.cachedFile segment = none ∧ ∃ pending,
        PlaybackResolverService.plan env db zoneInfo paths cameraId t = .ok (.pending pending)) := by
  obtain ⟨found, _, planned, _⟩ := plan_usable zoneInfo paths newest.covers newest.usable
  rcases plan_at planned with ⟨other, isNewest, isPlan⟩ | ⟨none, _⟩
  · obtain rfl := newest.unique isNewest
    rcases isPlan with ⟨playable, plan, rfl, ofSegment⟩ | ⟨noFile, notCached, plan, rfl⟩
    · exact .inl ⟨playable, plan, planned, ofSegment⟩
    · exact .inr ⟨noFile, notCached, plan, planned⟩
  · exact absurd newest.usable (none segment newest.covers)

theorem plan_ok (valid : ScheduleValid zoneInfo db cameraId) :
    ∃ found, PlaybackResolverService.plan env db zoneInfo paths cameraId t = .ok found := by
  unfold PlaybackResolverService.plan
  dsimp only
  split
  · exact ⟨_, rfl⟩
  · split
    · obtain ⟨reason, found⟩ := emptyReason_ok valid t (t + milliseconds 1)
        (gapEvidenceEvents paths db cameraId t (t + milliseconds 1))
      unfold emptyReason at found ⊢
      rw [Option.or_self] at found
      rw [Option.none_or, found]
      exact ⟨_, rfl⟩
    · exact ⟨_, rfl⟩

/-- The instants of a clip lie in the range, and its segment is the oldest one with a file. -/
theorem exported_oldest {startAt endAt : Int} {gapPolicy : String} {exported : ExportPlan}
    (built : ExportPlanResolver.build env db cameraId startAt endAt gapPolicy = .ok exported)
    {item : ExportPlanItem} (member : item ∈ exported.items) (covers : ClipCovers item t) :
    ∃ segment, Oldest env db cameraId t segment ∧ segment.id = item.segmentId := by
  obtain ⟨inside, clips⟩ := build_exports built
  have bounds := inside item member
  have within := covers
  simp only [ClipCovers] at within
  exact (clips t (by omega) (by omega) item.segmentId).mp ⟨item, member, covers, rfl⟩

/-- The segment that an export of the microsecond takes. -/
theorem Oldest.exported {segment : RecordingSegment} (oldest : Oldest env db cameraId t segment) :
    ∃ exported, ExportPlanResolver.build env db cameraId t (t + 1) "skip" = .ok exported ∧
      ∃ item ∈ exported.items, ClipCovers item t ∧ item.segmentId = segment.id := by
  obtain ⟨exported, built, item, member, covers⟩ := build_skip oldest.covers oldest.hasFile
  obtain ⟨other, isOldest, isItem⟩ := exported_oldest built member covers
  exact ⟨exported, built, item, member, covers, by rw [← isItem, oldest.unique isOldest]⟩

theorem SameCopies.agrees (same : SameCopies env db cameraId t) : Agrees zoneInfo paths env db cameraId t := by
  refine ⟨?_, ?_, ?_, ?_, ?_⟩
  · intro startAt endAt detail view found start stop built planned
    obtain ⟨_, exact_⟩ := build_exactCover zoneInfo paths (cached env) db cameraId startAt endAt detail
      (lt_of_le_of_lt start stop)
    rw [plan_gap planned, timeline_gap (exact_ view built) ⟨start, stop⟩, same.usable_iff]
  · intro startAt endAt detail view pending start stop built planned
    obtain ⟨_, exact_⟩ := build_exactCover zoneInfo paths (cached env) db cameraId startAt endAt detail
      (lt_of_le_of_lt start stop)
    rw [timeline_remote (exact_ view built) ⟨start, stop⟩]
    rcases plan_at planned with ⟨segment, newest, ⟨_, _, is, _⟩ | ⟨noFile, notCached, _⟩⟩ | ⟨_, _, is⟩
    · cases is
    · obtain ⟨⟨other, covers, shown, isCold⟩, best⟩ := same.restored segment newest noFile notCached
      refine ⟨⟨other, covers, shown, by rw [cached, isCold]; rfl⟩, fun one oneCovers => ?_⟩
      obtain ⟨_, notLocal, isCold'⟩ := best one oneCovers
      exact ⟨notLocal, fun remote => by rw [cached, isCold' remote]; rfl⟩
    · cases is
  · intro startAt endAt gapPolicy exported built item member covers
    obtain ⟨oldest, isOldest, _⟩ := exported_oldest built member covers
    obtain ⟨_, newest, _, isNewest⟩ := plan_usable zoneInfo paths isOldest.covers (.inl isOldest.hasFile)
    rcases @plan_newest zoneInfo paths _ _ _ _ _ isNewest with
      ⟨_, playable, planned, _⟩ | ⟨noFile, notCached, _⟩
    · exact ⟨playable, planned⟩
    · exact absurd isOldest.hasFile ((same.restored newest isNewest noFile notCached).2 oldest isOldest.covers).1
  · intro segment covers corrupted playable planned same'
    rcases plan_at planned with ⟨newest, isNewest, ⟨isPlayable, _, is, ofNewest⟩ | ⟨_, _, _, is⟩⟩ | ⟨_, _, is⟩
    · cases is
      obtain rfl := Table.eq_of_key_eq isNewest.covers.1 covers.1 (ofNewest.symm.trans same')
      exact same.played_intact newest isNewest isPlayable ((availability_corrupted _ _).mp corrupted)
    · cases is
    · cases is
  · intro segment covers corrupted startAt endAt gapPolicy exported built item member clipCovers same'
    obtain ⟨oldest, isOldest, isItem⟩ := exported_oldest built member clipCovers
    obtain rfl := Table.eq_of_key_eq isOldest.covers.1 covers.1 (isItem.trans same')
    exact same.exported_intact oldest isOldest ((availability_corrupted _ _).mp corrupted)

theorem Agrees.sameCopies (valid : ScheduleValid zoneInfo db cameraId)
    (agrees : Agrees zoneInfo paths env db cameraId t) : SameCopies env db cameraId t := by
  have inside : t ≤ t ∧ t < t + 1 := ⟨le_rfl, by omega⟩
  obtain ⟨view, built⟩ := @build_ok zoneInfo paths (cached env) db cameraId valid t (t + 1) .minute
  have exact_ := (build_exactCover zoneInfo paths (cached env) db cameraId t (t + 1) .minute inside.2).2 view built
  refine ⟨?_, ?_, ?_, ?_⟩
  · obtain ⟨found, planned⟩ := @plan_ok zoneInfo paths env db cameraId t valid
    have sameGap := agrees.gap_iff t (t + 1) .minute view found inside.1 inside.2 built planned
    rw [plan_gap planned, timeline_gap exact_ inside] at sameGap
    exact not_iff_not.mp sameGap
  · intro segment newest noFile notCached
    rcases @plan_newest zoneInfo paths _ _ _ _ _ newest with ⟨isPlayable, _⟩ | ⟨_, _, pending, planned⟩
    · rcases isPlayable with hasFile | isCached
      · exact absurd hasFile noFile
      · rw [notCached] at isCached
        cases isCached
    · have isRemote := agrees.pending_remote t (t + 1) .minute view pending inside.1 inside.2 built planned
      obtain ⟨⟨other, covers, shown, isCold⟩, best⟩ := (timeline_remote exact_ inside).mp isRemote
      refine ⟨⟨other, covers, shown, Option.isSome_eq_false_iff.mp isCold |> Option.isNone_iff_eq_none.mp⟩,
        fun one oneCovers => ⟨fun hasFile => ?_, (best one oneCovers).1, fun remote => ?_⟩⟩
      · obtain ⟨exported, builtExport, item, member, clipCovers⟩ := build_skip oneCovers hasFile
        obtain ⟨playable, plays⟩ := agrees.exported_plays t (t + 1) "skip" exported builtExport item member clipCovers
        rw [planned] at plays
        cases plays
      · exact Option.isSome_eq_false_iff.mp ((best one oneCovers).2 remote) |> Option.isNone_iff_eq_none.mp
  · intro segment newest isPlayable corrupt
    rcases @plan_newest zoneInfo paths _ _ _ _ _ newest with ⟨_, playable, planned, ofSegment⟩ | ⟨noFile, notCached, _⟩
    · exact agrees.corrupted_unplayed segment newest.covers ((availability_corrupted _ _).mpr corrupt) playable planned
        ofSegment
    · rcases isPlayable with hasFile | isCached
      · exact noFile hasFile
      · rw [notCached] at isCached
        cases isCached
  · intro segment oldest corrupt
    obtain ⟨exported, builtExport, item, member, clipCovers, ofSegment⟩ := oldest.exported
    exact agrees.corrupted_unexported segment oldest.covers ((availability_corrupted _ _).mpr corrupt) t (t + 1) "skip"
      exported builtExport item member clipCovers ofSegment

/-- Timeline, playback and export agree about an instant exactly when the copies of the segments that
    cover it are the same to all of them. -/
theorem agrees_iff (zoneInfo : String → Result TimeZone) (paths : PathEnv) (env : PlaybackEnv) (db : Database)
    (cameraId : Uuid) (t : Int) (valid : ScheduleValid zoneInfo db cameraId) :
    Agrees zoneInfo paths env db cameraId t ↔ SameCopies env db cameraId t :=
  ⟨Agrees.sameCopies valid, SameCopies.agrees⟩

/-! ## A corrupted recording -/

/-- Every local target has an absolute path. -/
def LocalPathsAbsolute (env : PlaybackEnv) (db : Database) : Prop :=
  ∀ target ∈ db.storageTargets, target.type = .local → ∃ rawRoot root,
    Dict.get target.config "path" = some (.str rawRoot) ∧ strip rawRoot ≠ "" ∧ env.resolveRoot rawRoot = some root

def localFiles : PlaybackEnv :=
  { resolveRoot := fun path => if path.toList.head? = some '/' then some path else none
    resolveWithin := fun root path => some (root ++ "/" ++ path)
    cachedFile := fun _ => none
    roundMs := fun micros => micros / 1000 }

/-- Ten seconds on a local recording target whose check has failed. -/
def corruptDatabase : Database :=
  { storageTargets := .single { id := 5, type := .local, role := .recording, config := [("path", .str "/data")] }
    locations := .single { id := 6, recordingSegmentId := 1, storageTargetId := 5, objectPath := "a.mp4", sizeBytes := 1 }
    segments := ⟨[{ id := 1, cameraId := 3, startedAt := 0, endedAt := 10000000, durationMs := 10000
                    timingStatus := .final, timingSource := .nextSegmentBoundary
                    integrityStatus := "CORRUPT" }], by decide⟩ }

theorem corrupt_scheduleValid : ScheduleValid RecordingPolicyService.utcOnly corruptDatabase 3 :=
  fun _ found => by cases found

theorem agrees_iff_corrupt :
    Agrees RecordingPolicyService.utcOnly posixPaths localFiles corruptDatabase 3 5000000 ↔
      SameCopies localFiles corruptDatabase 3 5000000 :=
  agrees_iff RecordingPolicyService.utcOnly posixPaths localFiles corruptDatabase 3 5000000 corrupt_scheduleValid

/-- The timeline reports the recording as corrupted, and playback plays it. -/
theorem corrupted_plays :
    ¬ ∀ (zoneInfo : String → Result TimeZone) (paths : PathEnv) (env : PlaybackEnv) (db : Database)
      (cameraId : Uuid) (t : Int), ScheduleValid zoneInfo db cameraId → LocalPathsAbsolute env db →
      Agrees zoneInfo paths env db cameraId t := by
  intro allAgree
  have absolute : LocalPathsAbsolute localFiles corruptDatabase := by
    intro target member _
    obtain rfl := List.mem_singleton.mp member
    exact ⟨"/data", "/data", rfl, by decide, by decide⟩
  have agrees := allAgree RecordingPolicyService.utcOnly posixPaths localFiles corruptDatabase 3 5000000
    corrupt_scheduleValid absolute
  have planned : PlaybackResolverService.plan localFiles corruptDatabase RecordingPolicyService.utcOnly posixPaths 3
      5000000 = .ok (.playable
        { segmentId := 1, segmentStartAt := 0, offsetMs := 5000, filePath := "/data/a.mp4", codec := none }) := by
    decide
  obtain ⟨segment, covers, corrupted, isFirst⟩ : ∃ segment, SegmentCovers corruptDatabase 3 5000000 segment ∧
      availability (cached localFiles) corruptDatabase segment = .corrupted ∧ segment.id = 1 :=
    ⟨_, ⟨List.mem_singleton_self _, rfl, by decide, by decide⟩, by decide, rfl⟩
  exact agrees.corrupted_unplayed segment covers corrupted _ planned isFirst.symm

end ZeroNvr.PlaybackAgreement
