import ZeroNvr.Verified.FileSegments

/-! # The times of prebuffer fragments

The tracker ends the newest fragment of a stream where the next one of its
generation starts, and the catalog ends the segment that the generation
remembers.  The two are of one file while hooks come in order; a late hook, or one
of another generation in between, parts them.
-/

namespace ZeroNvr.PrebufferTimings

open Lib FileSegments RecordingCatalogService PrebufferFragmentTracker

/-! ## The queue -/

section Queue

variable {queue : List PrebufferFragment} {fragment : PrebufferFragment}

/-- The fragment after the next one has arrived. -/
def moved (queue : List PrebufferFragment) (next fragment : PrebufferFragment) : PrebufferFragment :=
  if queue.getLast?.map PrebufferFragment.filePath = some fragment.filePath ∧ normalizes fragment next then
    fragment.endingAt next.startedAt
  else fragment

theorem moved_filePath (next fragment : PrebufferFragment) : (moved queue next fragment).filePath = fragment.filePath := by
  unfold moved
  split <;> rfl

theorem moved_continuityId (next fragment : PrebufferFragment) :
    (moved queue next fragment).continuityId = fragment.continuityId := by
  unfold moved
  split <;> rfl

theorem eq_of_filePath {one other : PrebufferFragment} (nodup : (queue.map PrebufferFragment.filePath).Nodup)
    (isOne : one ∈ queue) (isOther : other ∈ queue) (same : one.filePath = other.filePath) : one = other :=
  List.inj_on_of_nodup_map nodup isOne isOther same

/-- Only the last fragment is moved. -/
theorem normalized_eq_map (nodup : (queue.map PrebufferFragment.filePath).Nodup) :
    normalized queue fragment = queue.map (moved queue fragment) := by
  rcases List.eq_nil_or_concat queue with rfl | ⟨front, last, rfl⟩
  · rfl
  rw [List.concat_eq_append] at nodup ⊢
  have isFront (other : PrebufferFragment) (member : other ∈ front) : moved (front ++ [last]) fragment other = other := by
    refine if_neg fun moves => ?_
    rw [List.getLast?_concat, Option.map_some, Option.some.injEq] at moves
    rw [List.map_append, List.nodup_append] at nodup
    exact nodup.2.2 _ (List.mem_map_of_mem member) last.filePath (by simp) moves.1.symm
  rw [normalized, List.getLast?_concat]
  dsimp only
  rw [List.map_append, List.map_congr_left isFront, List.map_id', List.map_singleton, moved, List.getLast?_concat]
  simp only [Option.map_some, true_and, List.dropLast_concat]
  split <;> rfl

theorem mem_push {kept : List PrebufferFragment} {other : PrebufferFragment} (member : other ∈ push kept fragment) :
    other = fragment ∨ other ∈ kept := by
  rcases List.mem_append.mp member with old | new
  · refine .inr ?_
    split at old
    · exact old
    · exact List.mem_of_mem_drop old
  · exact .inl (List.mem_singleton.mp new)

theorem push_sublist (kept : List PrebufferFragment) : (push kept fragment).Sublist (kept ++ [fragment]) := by
  unfold push
  split
  · exact List.Sublist.refl _
  · exact (List.drop_sublist 1 kept).append_right [fragment]

/-- The window after a fragment of a new file. -/
def nextWindow (queue : List PrebufferFragment) (fragment : PrebufferFragment) : List PrebufferFragment :=
  push (queue.map (moved queue fragment)) fragment

theorem mem_nextWindow {other : PrebufferFragment} (member : other ∈ nextWindow queue fragment) :
    other = fragment ∨ ∃ old ∈ queue, other = moved queue fragment old := by
  rcases mem_push member with isNew | kept
  · exact .inl isNew
  · obtain ⟨old, isOld, rfl⟩ := List.mem_map.mp kept
    exact .inr ⟨old, isOld, rfl⟩

theorem nextWindow_nodup (nodup : (queue.map PrebufferFragment.filePath).Nodup)
    (isNew : ∀ old ∈ queue, old.filePath ≠ fragment.filePath) :
    ((nextWindow queue fragment).map PrebufferFragment.filePath).Nodup := by
  refine ((push_sublist _).map PrebufferFragment.filePath).nodup ?_
  have samePaths : (queue.map (moved queue fragment)).map PrebufferFragment.filePath = queue.map PrebufferFragment.filePath := by
    rw [List.map_map]
    exact List.map_congr_left fun old _ => moved_filePath fragment old
  rw [List.map_append, samePaths, List.map_singleton, List.nodup_append]
  refine ⟨nodup, List.nodup_singleton _, ?_⟩
  rintro path isOld other isFragment rfl
  obtain ⟨old, member, rfl⟩ := List.mem_map.mp isOld
  exact isNew old member (List.mem_singleton.mp isFragment)

theorem nextWindow_getLast? : (nextWindow queue fragment).getLast? = some fragment := List.getLast?_concat

/-- The files of a window whose range has changed. -/
def retimings (before after : List PrebufferFragment) : List String :=
  (before.filter fun fragment => after.any fun kept => kept.filePath = fragment.filePath ∧
    (kept.startedAt ≠ fragment.startedAt ∨ kept.endedAt ≠ fragment.endedAt)).map PrebufferFragment.filePath

theorem retimings_nodup (nodup : (queue.map PrebufferFragment.filePath).Nodup) (after : List PrebufferFragment) :
    (retimings queue after).Nodup :=
  (List.filter_sublist.map PrebufferFragment.filePath).nodup nodup

theorem retimings_self (nodup : (queue.map PrebufferFragment.filePath).Nodup) : retimings queue queue = [] := by
  rw [retimings, List.map_eq_nil_iff, List.filter_eq_nil_iff]
  intro fragment member changed
  obtain ⟨kept, isKept, differs⟩ := List.any_eq_true.mp changed
  obtain ⟨samePath, differs⟩ := of_decide_eq_true differs
  cases eq_of_filePath nodup isKept member samePath
  rcases differs with differs | differs <;> exact differs rfl

/-- A fragment whose range changes was the newest one. -/
theorem mem_retimings (nodup : (queue.map PrebufferFragment.filePath).Nodup)
    (isNew : ∀ old ∈ queue, old.filePath ≠ fragment.filePath) {path : String}
    (member : path ∈ retimings queue (nextWindow queue fragment)) :
    ∃ last ∈ queue, queue.getLast? = some last ∧ path = last.filePath := by
  obtain ⟨old, kept, rfl⟩ := List.mem_map.mp member
  obtain ⟨isOld, changed⟩ := List.mem_filter.mp kept
  obtain ⟨next, isNext, differs⟩ := List.any_eq_true.mp changed
  obtain ⟨samePath, differs⟩ := of_decide_eq_true differs
  rcases mem_nextWindow isNext with rfl | ⟨other, isOther, rfl⟩
  · exact absurd samePath.symm (isNew old isOld)
  rw [moved_filePath] at samePath
  cases eq_of_filePath nodup isOther isOld samePath
  rw [moved] at differs
  split at differs
  next moves =>
    obtain ⟨last, isLast, isPath⟩ := Option.map_eq_some_iff.mp moves.1
    exact ⟨last, List.mem_of_getLast? isLast, isLast, isPath.symm⟩
  next => rcases differs with differs | differs <;> exact absurd rfl differs

theorem observe_known {tracker : PrebufferFragmentTracker}
    (isKnown : ∃ existing ∈ tracker.items fragment.identity, existing.filePath = fragment.filePath) :
    (tracker.observe fragment).1 = tracker := by
  unfold observe
  dsimp only
  split
  · rfl
  next notFound =>
    obtain ⟨existing, member, same⟩ := isKnown
    exact absurd (decide_eq_true same) (List.find?_eq_none.mp notFound existing member)

theorem observe_new {tracker : PrebufferFragmentTracker}
    (nodup : ((tracker.items fragment.identity).map PrebufferFragment.filePath).Nodup)
    (isNew : ∀ existing ∈ tracker.items fragment.identity, existing.filePath ≠ fragment.filePath) :
    (tracker.observe fragment).1.items fragment.identity = nextWindow (tracker.items fragment.identity) fragment := by
  unfold observe
  dsimp only
  split
  next existing found =>
    have same : existing.filePath = fragment.filePath := by simpa using List.find?_some found
    exact absurd same (isNew existing (List.mem_of_find?_eq_some found))
  next =>
    dsimp only
    rw [Function.update_self, normalized_eq_map nodup]
    rfl

end Queue

/-! ## Generations -/

section Generations

variable {tracker : ZlmContinuityTracker} {identity : ZlmStreamIdentity}

/-- The generation is registered, or the one closed last. -/
def Tracked (tracker : ZlmContinuityTracker) (identity : ZlmStreamIdentity) (state : ContinuityState) : Prop :=
  tracker.active identity = some state ∨ tracker.closed identity = some state

def Distinct (tracker : ZlmContinuityTracker) (identity : ZlmStreamIdentity) : Prop :=
  ∀ active closed, tracker.active identity = some active → tracker.closed identity = some closed →
    active.continuityId ≠ closed.continuityId

/-- The state of a generation after one of its segments was reported. -/
def reporting (state : ContinuityState) (segment : RecordingSegment) : ContinuityState :=
  (ZlmContinuityTracker.remember state segment.id segment.startedAt).getD state

theorem reporting_cases (state : ContinuityState) (segment : RecordingSegment) :
    (∃ last, state.lastSegmentStartedAt = some last ∧ segment.startedAt < last ∧ reporting state segment = state) ∨
      (∀ last, state.lastSegmentStartedAt = some last → last ≤ segment.startedAt) ∧
        reporting state segment = state.remembering segment.id segment.startedAt := by
  unfold reporting ZlmContinuityTracker.remember
  split
  next later =>
    obtain ⟨last, isLast, before⟩ := Option.any_eq_true _ _ |>.mp later
    exact .inl ⟨last, isLast, of_decide_eq_true before, rfl⟩
  next notLater =>
    refine .inr ⟨fun last isLast => Int.not_lt.mp fun before => notLater ?_, rfl⟩
    rw [isLast]
    exact decide_eq_true before

theorem reporting_continuityId (state : ContinuityState) (segment : RecordingSegment) :
    (reporting state segment).continuityId = state.continuityId := by
  rcases reporting_cases state segment with ⟨_, _, _, same⟩ | ⟨_, same⟩ <;> rw [same]
  rfl

/-- A hook is resolved to a generation that is tracked. -/
theorem resolved_tracked {startedAt : Int} {resolved : ZlmContinuityResolution}
    (isResolved : tracker.resolveRecord identity startedAt = some resolved) :
    ∃ state, Tracked tracker identity state ∧ resolved.continuityId = state.continuityId ∧
      resolved.previousSegmentId = state.lastSegmentId := by
  rcases ZlmContinuityTracker.resolveRecord_cases isResolved with ⟨closed, isClosed, _, rfl⟩ | ⟨active, isActive, _, rfl⟩
  · exact ⟨closed, .inr isClosed, rfl, rfl⟩
  · exact ⟨active, .inl isActive, rfl, rfl⟩

/-- The generation with the given id is told, the other one stays. -/
theorem rememberSegment_lookup {continuityId : Uuid} {segment : RecordingSegment} (distinct : Distinct tracker identity) :
    (tracker.rememberSegment identity continuityId segment.id segment.startedAt).1.active identity =
        (tracker.active identity).map (fun state =>
          if state.continuityId = continuityId then reporting state segment else state) ∧
      (tracker.rememberSegment identity continuityId segment.id segment.startedAt).1.closed identity =
        (tracker.closed identity).map fun state =>
          if state.continuityId = continuityId then reporting state segment else state := by
  unfold ZlmContinuityTracker.rememberSegment
  dsimp only
  split
  next active isActive =>
    obtain ⟨found, isId⟩ := Option.filter_eq_some_iff.mp isActive
    have isId := of_decide_eq_true isId
    have closedStays : tracker.closed identity = (tracker.closed identity).map fun state =>
        if state.continuityId = continuityId then reporting state segment else state := by
      cases isClosed : tracker.closed identity with
      | none => rfl
      | some closed => rw [Option.map_some, if_neg fun same => distinct active closed found isClosed (isId.trans same.symm)]
    split
    next notRemembered =>
      refine ⟨?_, closedStays⟩
      rw [found, Option.map_some, if_pos isId, reporting, notRemembered, Option.getD_none]
    next state remembered =>
      refine ⟨?_, closedStays⟩
      dsimp only
      rw [Function.update_self, found, Option.map_some, if_pos isId, reporting, remembered, Option.getD_some]
  next notActive =>
    have activeStays : tracker.active identity = (tracker.active identity).map fun state =>
        if state.continuityId = continuityId then reporting state segment else state := by
      cases isActive : tracker.active identity with
      | none => rfl
      | some active =>
        have differs := Option.filter_eq_none_iff.mp notActive active isActive
        rw [Option.map_some, if_neg fun same => differs (decide_eq_true same)]
    split
    next closed isClosed =>
      obtain ⟨found, isId⟩ := Option.filter_eq_some_iff.mp isClosed
      have isId := of_decide_eq_true isId
      split
      next notRemembered =>
        refine ⟨activeStays, ?_⟩
        rw [found, Option.map_some, if_pos isId, reporting, notRemembered, Option.getD_none]
      next state remembered =>
        refine ⟨activeStays, ?_⟩
        dsimp only
        rw [Function.update_self, found, Option.map_some, if_pos isId, reporting, remembered, Option.getD_some]
    next notClosed =>
      refine ⟨activeStays, ?_⟩
      cases isClosed : tracker.closed identity with
      | none => rfl
      | some closed =>
        have differs := Option.filter_eq_none_iff.mp notClosed closed isClosed
        rw [Option.map_some, if_neg fun same => differs (decide_eq_true same)]

end Generations

/-! ## Runs of hooks -/

/-- The tracker, and the catalog that the same hooks would have filled; with them the generations issued, the
    fragments as they were reported, and the files whose range has changed, once for each change. -/
structure PrebufferWorld where
  db : Database
  continuity : ZlmContinuityTracker := {}
  fragments : PrebufferFragmentTracker := {}
  issued : List Uuid := []
  observed : List PrebufferFragment := []
  retimed : List String := []

inductive PrebufferAction where
  | registered | unregistered | reset
  | recordMp4 (body : ZlmRecordMp4Hook)

section Steps

variable (env : CatalogEnv) (uuid4 : Supply Uuid) (identity : ZlmStreamIdentity)

namespace PrebufferWorld

variable (world : PrebufferWorld)

def window : List PrebufferFragment := world.fragments.items identity

/-- The segment of a file of the stream. -/
def segmentOf (filePath : String) : Option RecordingSegment := catalogSegment env world.db identity.stream filePath

def boundaryAt (body : ZlmRecordMp4Hook) : Int := env.fromTimestamp body.startTime

def resolution (body : ZlmRecordMp4Hook) : Option ZlmContinuityResolution :=
  world.continuity.resolveRecord identity (boundaryAt env body)

def generation (body : ZlmRecordMp4Hook) : Option Uuid :=
  (world.resolution env identity body).map ZlmContinuityResolution.continuityId

def previousId (body : ZlmRecordMp4Hook) : Option Uuid :=
  (world.resolution env identity body).bind ZlmContinuityResolution.previousSegmentId

/-- The fragment that `observe` is told of. -/
def fragmentOf (profile : CameraStreamProfile) (body : ZlmRecordMp4Hook) : PrebufferFragment :=
  reported env profile.cameraId profile.id (world.generation env identity body) identity
    body.filePath body.startTime body.timeLen body.fileSize

def register (at_ : Int) : PrebufferWorld :=
  { world with
    continuity := (world.continuity.registered identity at_ (uuid4.next world.issued)).1
    issued := uuid4.next world.issued :: world.issued }

/-- The tracker has observed the fragment, and the catalog has ended with the segment. -/
def record (fragment : PrebufferFragment) (db : Database) (resolution : Option ZlmContinuityResolution)
    (segment : RecordingSegment) : PrebufferWorld :=
  let fragments := (world.fragments.observe fragment).1
  { world with
    db
    continuity := BoundaryGenerations.remembering world.continuity identity segment resolution
    fragments
    observed := if (world.window identity).any fun existing => existing.filePath = fragment.filePath then world.observed
      else world.observed ++ [fragment]
    retimed := world.retimed ++ retimings (world.window identity) (fragments.items identity) }

end PrebufferWorld

/-- A stream is registered or unregistered, the server restarts, or a file of the stream is finalized. -/
inductive HookStep : PrebufferWorld → PrebufferAction → PrebufferWorld → Prop
  | registered (world : PrebufferWorld) (at_ : Int) : HookStep world .registered (world.register uuid4 identity at_)
  | unregistered (world : PrebufferWorld) (at_ : Int) :
    HookStep world .unregistered { world with continuity := (world.continuity.unregistered identity at_).1 }
  | reset (world : PrebufferWorld) : HookStep world .reset { world with continuity := ZlmContinuityTracker.reset }
  | recordMp4 {world : PrebufferWorld} {body : ZlmRecordMp4Hook} {profile : CameraStreamProfile} {db : Database}
      {result : CatalogIngestResult} {segment : RecordingSegment} (isStream : ZlmHooks.identityOf body = identity)
      (isProfileId : profileIdFromStream env body.stream = .ok profile.id)
      (isProfile : world.db.streamProfiles.get? profile.id = some profile)
      (ingested : ingestFinalized env uuid4 world.db (ZlmHooks.evidenceOf body) (world.previousId env identity body) =
        .ok (db, result))
      (isSegment : result.segment = some segment) :
    HookStep world (.recordMp4 body) (world.record identity (world.fragmentOf env identity profile body) db
      (world.resolution env identity body) segment)

/-- The hook of a known file finds it in the window.  The hook of a new one finds the newest fragment and the
    remembered segment to be of one file, where either starts before it and is of its generation; and it does not
    start inside a fragment of its generation that was moved later. -/
structure MeetsHook (world : PrebufferWorld) (body : ZlmRecordMp4Hook) : Prop where
  known : (world.segmentOf env identity body.filePath).isSome = true →
    ∃ fragment ∈ world.window identity, fragment.filePath = body.filePath
  newest : world.segmentOf env identity body.filePath = none → ∀ last, (world.window identity).getLast? = some last →
    last.continuityId.isSome = true → last.continuityId = world.generation env identity body →
    last.startedAt < PrebufferWorld.boundaryAt env body →
    ∃ segment, world.segmentOf env identity last.filePath = some segment ∧ world.previousId env identity body = some segment.id
  remembered : world.segmentOf env identity body.filePath = none → ∀ fragment ∈ world.window identity, ∀ segment,
    world.segmentOf env identity fragment.filePath = some segment → world.previousId env identity body = some segment.id →
    segment.timingStatus = .provisional → segment.startedAt < PrebufferWorld.boundaryAt env body →
    (world.window identity).getLast? = some fragment ∧ fragment.continuityId = world.generation env identity body
  apart : world.segmentOf env identity body.filePath = none → ∀ fragment ∈ world.window identity, ∀ raw ∈ world.observed,
    raw.filePath = fragment.filePath → fragment.continuityId.isSome = true →
    fragment.continuityId = world.generation env identity body → raw.startedAt < PrebufferWorld.boundaryAt env body →
    raw.endedAt < fragment.endedAt → fragment.endedAt ≤ PrebufferWorld.boundaryAt env body

/-- A step whose hook, if it is one, meets the condition. -/
def MeetingStep (world : PrebufferWorld) (action : PrebufferAction) (world' : PrebufferWorld) : Prop :=
  HookStep env uuid4 identity world action world' ∧ ∀ body, action = .recordMp4 body → MeetsHook env identity world body

/-- The tracker and the catalog hold the same range of every file in the window; no fragment is stretched past the
    start of a later one of its generation; and no range has changed twice. -/
structure Normalized (world : PrebufferWorld) : Prop where
  agrees : ∀ fragment ∈ world.window identity, ∃ segment, world.segmentOf env identity fragment.filePath = some segment ∧
    segment.startedAt = fragment.startedAt ∧ segment.endedAt = fragment.endedAt
  notStretched : ∀ fragment ∈ world.window identity, ∀ raw ∈ world.observed, raw.filePath = fragment.filePath →
    ∀ later ∈ world.observed, fragment.continuityId.isSome = true → later.continuityId = fragment.continuityId →
    raw.startedAt < later.startedAt → raw.endedAt < fragment.endedAt → fragment.endedAt ≤ later.startedAt
  retimedOnce : world.retimed.Nodup

end Steps

/-! ## What a run keeps -/

section Invariant

variable {env : CatalogEnv} {uuid4 : Supply Uuid} {identity : ZlmStreamIdentity} {world world' : PrebufferWorld}

/-- The segment of a fragment has its range and its length. -/
structure Held (env : CatalogEnv) (identity : ZlmStreamIdentity) (world : PrebufferWorld) (fragment : PrebufferFragment)
    (segment : RecordingSegment) : Prop where
  found : world.segmentOf env identity fragment.filePath = some segment
  startedAt : segment.startedAt = fragment.startedAt
  endedAt : segment.endedAt = fragment.endedAt
  durationMs : segment.durationMs = fragment.durationMs
  profile : ∀ profileId, profileIdFromStream env identity.stream = .ok profileId → segment.streamProfileId = some profileId

/-- What a tracked generation knows: no fragment of it starts after the last start, which is that of the last segment
    while that is provisional. -/
structure Remembers (world : PrebufferWorld) (state : ContinuityState) : Prop where
  issued : state.continuityId ∈ world.issued
  latest : ∀ raw ∈ world.observed, raw.continuityId = some state.continuityId →
    ∃ last, state.lastSegmentStartedAt = some last ∧ raw.startedAt ≤ last
  stored : ∀ id, state.lastSegmentId = some id → (world.db.segments.get? id).isSome = true
  start : ∀ segment, world.db.segments.get? segment.id = some segment → state.lastSegmentId = some segment.id →
    segment.timingStatus = .provisional → state.lastSegmentStartedAt = some segment.startedAt

structure Orderly (env : CatalogEnv) (identity : ZlmStreamIdentity) (world : PrebufferWorld) : Prop where
  catalogued : Catalogued world.db
  nodup : ((world.window identity).map PrebufferFragment.filePath).Nodup
  held : ∀ fragment ∈ world.window identity, ∃ segment, Held env identity world fragment segment
  newest : ∀ last, (world.window identity).getLast? = some last → last.filePath ∉ world.retimed ∧
    ∀ segment, world.segmentOf env identity last.filePath = some segment → segment.timingStatus = .provisional
  raw : ∀ fragment ∈ world.window identity, ∀ segment, world.segmentOf env identity fragment.filePath = some segment →
    segment.timingStatus = .provisional → ∀ raw ∈ world.observed, raw.filePath = fragment.filePath →
    fragment.startedAt = raw.startedAt
  notStretched : ∀ fragment ∈ world.window identity, ∀ raw ∈ world.observed, raw.filePath = fragment.filePath →
    ∀ later ∈ world.observed, fragment.continuityId.isSome = true → later.continuityId = fragment.continuityId →
    raw.startedAt < later.startedAt → raw.endedAt < fragment.endedAt → fragment.endedAt ≤ later.startedAt
  retimedOnce : world.retimed.Nodup
  retimed : ∀ path ∈ world.retimed, (world.segmentOf env identity path).isSome = true
  observed : ∀ raw ∈ world.observed, (world.segmentOf env identity raw.filePath).isSome = true ∧
    ∀ continuityId, raw.continuityId = some continuityId → continuityId ∈ world.issued
  states : ∀ state, Tracked world.continuity identity state → Remembers world state
  distinct : Distinct world.continuity identity

theorem Orderly.normalized (orderly : Orderly env identity world) : Normalized env identity world := by
  refine ⟨fun fragment member => ?_, orderly.notStretched, orderly.retimedOnce⟩
  obtain ⟨segment, held⟩ := orderly.held fragment member
  exact ⟨segment, held.found, held.startedAt, held.endedAt⟩

theorem orderly_start {db : Database} (noLocations : db.locations = Table.empty) :
    Orderly env identity { db } where
  catalogued := by
    refine ⟨fun location member => ?_, fun one isOne => ?_⟩
    · rw [noLocations] at member
      exact absurd member (Table.not_mem_empty location)
    · rw [noLocations] at isOne
      exact absurd isOne (Table.not_mem_empty one)
  nodup := List.nodup_nil
  held _ member := nomatch member
  newest _ isLast := nomatch isLast
  raw _ member := nomatch member
  notStretched _ member := nomatch member
  retimedOnce := List.nodup_nil
  retimed _ member := nomatch member
  observed _ member := nomatch member
  states _ tracked := tracked.elim nofun nofun
  distinct _ _ isActive := nomatch isActive

/-! ## Registrations -/

/-- A step that touches only the generations. -/
theorem Orderly.generations (orderly : Orderly env identity world) (continuity : ZlmContinuityTracker) (issued : List Uuid)
    (more : ∀ id ∈ world.issued, id ∈ issued)
    (states : ∀ state, Tracked continuity identity state → Remembers { world with continuity, issued } state)
    (distinct : Distinct continuity identity) : Orderly env identity { world with continuity, issued } where
  catalogued := orderly.catalogued
  nodup := orderly.nodup
  held fragment member := by
    obtain ⟨segment, held⟩ := orderly.held fragment member
    exact ⟨segment, held.found, held.startedAt, held.endedAt, held.durationMs, held.profile⟩
  newest := orderly.newest
  raw := orderly.raw
  notStretched := orderly.notStretched
  retimedOnce := orderly.retimedOnce
  retimed := orderly.retimed
  observed raw member := ⟨(orderly.observed raw member).1, fun id isId => more id ((orderly.observed raw member).2 id isId)⟩
  states := states
  distinct := distinct

theorem Remembers.generations {state : ContinuityState} (remembers : Remembers world state) {continuity : ZlmContinuityTracker}
    {issued : List Uuid} (more : ∀ id ∈ world.issued, id ∈ issued) : Remembers { world with continuity, issued } state :=
  ⟨more _ remembers.issued, remembers.latest, remembers.stored, remembers.start⟩

theorem Orderly.register (orderly : Orderly env identity world) (at_ : Int) :
    Orderly env identity (world.register uuid4 identity at_) := by
  have more : ∀ id ∈ world.issued, id ∈ uuid4.next world.issued :: world.issued := fun _ => List.mem_cons_of_mem _
  unfold PrebufferWorld.register
  rcases @ZlmContinuityTracker.registered_cases world.continuity identity at_ (uuid4.next world.issued) with
    same | ⟨notActive, isActive⟩
  · rw [same]
    exact orderly.generations world.continuity _ more (fun state tracked => (orderly.states state tracked).generations more) orderly.distinct
  · rw [isActive]
    have fresh : uuid4.next world.issued ∉ world.issued := uuid4.fresh world.issued
    refine orderly.generations (world.continuity.withActive identity _) _ more (fun state tracked => ?_) fun active closed isNew isClosed => ?_
    · rcases tracked with tracked | tracked
      · rw [ZlmContinuityTracker.withActive_active, if_pos rfl] at tracked
        cases tracked
        refine ⟨List.mem_cons_self, fun raw member isNew => ?_, nofun, fun _ _ isLast => (nomatch isLast)⟩
        exact absurd ((orderly.observed raw member).2 _ isNew) fresh
      · exact (orderly.states state (.inr tracked)).generations more
    · rw [ZlmContinuityTracker.withActive_active, if_pos rfl] at isNew
      cases isNew
      intro same
      have isIssued := (orderly.states closed (.inr isClosed)).issued
      rw [← same] at isIssued
      exact fresh isIssued

theorem Orderly.unregister (orderly : Orderly env identity world) (at_ : Int) :
    Orderly env identity { world with continuity := (world.continuity.unregistered identity at_).1 } := by
  rcases @ZlmContinuityTracker.unregistered_cases world.continuity identity at_ with
    ⟨_, same⟩ | ⟨state, isActive, active, closed⟩
  · rw [same]
    exact orderly
  · refine orderly.generations (world.continuity.unregistered identity at_).1 world.issued (fun _ => id)
      (fun other tracked => ?_) fun other _ isOther => ?_
    · rcases tracked with tracked | tracked
      · rw [active, if_pos rfl] at tracked
        cases tracked
      · rw [closed, if_pos rfl] at tracked
        cases tracked
        have remembers := orderly.states state (.inl isActive)
        exact ⟨remembers.issued, remembers.latest, remembers.stored, remembers.start⟩
    · rw [active, if_pos rfl] at isOther
      cases isOther

theorem Orderly.reset (orderly : Orderly env identity world) :
    Orderly env identity { world with continuity := ZlmContinuityTracker.reset } :=
  orderly.generations ZlmContinuityTracker.reset world.issued (fun _ => id) (fun _ tracked => tracked.elim nofun nofun) fun _ _ isActive => nomatch isActive

/-! ## Record hooks -/

/-- What the generations are after a report: one that does not hold the segment stays. -/
theorem tracked_remembering {resolution : Option ZlmContinuityResolution} {segment : RecordingSegment}
    (distinct : Distinct world.continuity identity) {state : ContinuityState}
    (tracked : Tracked (BoundaryGenerations.remembering world.continuity identity segment resolution) identity state) :
    (Tracked world.continuity identity state ∧
        ∀ resolved, resolution = some resolved → state.continuityId ≠ resolved.continuityId) ∨
      ∃ old resolved, Tracked world.continuity identity old ∧ resolution = some resolved ∧
        old.continuityId = resolved.continuityId ∧ state = reporting old segment := by
  cases resolution with
  | none => exact .inl ⟨tracked, nofun⟩
  | some resolved =>
    obtain ⟨active, closed⟩ := @rememberSegment_lookup _ _ resolved.continuityId segment distinct
    have told {old : ContinuityState} (isOld : Tracked world.continuity identity old)
        (isState : (if old.continuityId = resolved.continuityId then reporting old segment else old) = state) :
        (Tracked world.continuity identity state ∧
            ∀ other, some resolved = some other → state.continuityId ≠ other.continuityId) ∨
          ∃ old other, Tracked world.continuity identity old ∧ some resolved = some other ∧
            old.continuityId = other.continuityId ∧ state = reporting old segment := by
      split at isState
      next same => exact .inr ⟨old, resolved, isOld, rfl, same, isState.symm⟩
      next differs =>
        subst isState
        exact .inl ⟨isOld, fun other isOther => Option.some.inj isOther ▸ differs⟩
    rcases tracked with tracked | tracked
    · obtain ⟨old, isOld, isState⟩ := Option.map_eq_some_iff.mp (active.symm.trans tracked)
      exact told (.inl isOld) isState
    · obtain ⟨old, isOld, isState⟩ := Option.map_eq_some_iff.mp (closed.symm.trans tracked)
      exact told (.inr isOld) isState

theorem distinct_remembering (distinct : Distinct world.continuity identity) (resolution : Option ZlmContinuityResolution)
    (segment : RecordingSegment) :
    Distinct (BoundaryGenerations.remembering world.continuity identity segment resolution) identity := by
  cases resolution with
  | none => exact distinct
  | some resolved =>
    obtain ⟨active, closed⟩ := @rememberSegment_lookup _ _ resolved.continuityId segment distinct
    have sameId (state : ContinuityState) :
        (if state.continuityId = resolved.continuityId then reporting state segment else state).continuityId =
          state.continuityId := by
      split
      · exact reporting_continuityId state segment
      · rfl
    intro one other isOne isOther
    obtain ⟨oldOne, wasOne, rfl⟩ := Option.map_eq_some_iff.mp (active.symm.trans isOne)
    obtain ⟨oldOther, wasOther, rfl⟩ := Option.map_eq_some_iff.mp (closed.symm.trans isOther)
    rw [sameId, sameId]
    exact distinct oldOne oldOther wasOne wasOther

/-- The generation that a segment of its own was reported to. -/
theorem Remembers.reporting {state : ContinuityState} (remembers : Remembers world state) {segment : RecordingSegment}
    (isRow : world.db.segments.get? segment.id = some segment) : Remembers world (reporting state segment) := by
  rcases reporting_cases state segment with ⟨_, _, _, same⟩ | ⟨noLater, same⟩
  · rw [same]
    exact remembers
  rw [same]
  refine ⟨remembers.issued, fun raw member isId => ?_, fun id isId => ?_, fun other isOther isLast _ => ?_⟩
  · obtain ⟨last, isLast, before⟩ := remembers.latest raw member isId
    exact ⟨segment.startedAt, rfl, before.trans (noLater last isLast)⟩
  · cases isId
    rw [isRow]
    rfl
  · have sameId : segment.id = other.id := Option.some.inj isLast
    rw [← sameId, isRow] at isOther
    cases isOther
    rfl

/-- The hook of a known file changes what its generation remembers, and nothing else. -/
theorem Orderly.recordKnown (orderly : Orderly env identity world) {fragment : PrebufferFragment}
    {resolution : Option ZlmContinuityResolution} {segment : RecordingSegment} (isStream : fragment.identity = identity)
    (isKnown : ∃ existing ∈ world.window identity, existing.filePath = fragment.filePath)
    (found : world.segmentOf env identity fragment.filePath = some segment) :
    Orderly env identity (world.record identity fragment world.db resolution segment) := by
  have sameFragments : (world.fragments.observe fragment).1 = world.fragments := observe_known (isStream ▸ isKnown)
  have seen : ((world.window identity).any fun existing => existing.filePath = fragment.filePath) = true := by
    obtain ⟨existing, member, same⟩ := isKnown
    exact List.any_eq_true.mpr ⟨existing, member, decide_eq_true same⟩
  have unchanged : world.record identity fragment world.db resolution segment =
      { world with continuity := BoundaryGenerations.remembering world.continuity identity segment resolution } := by
    unfold PrebufferWorld.record
    rw [sameFragments, seen]
    have noRetimings : retimings (world.window identity) (world.fragments.items identity) = [] := retimings_self orderly.nodup
    simp only [noRetimings, List.append_nil, if_true]
  rw [unchanged]
  refine orderly.generations (BoundaryGenerations.remembering world.continuity identity segment resolution) world.issued
    (fun _ => id) (fun state tracked => ?_) (distinct_remembering orderly.distinct resolution segment)
  rcases tracked_remembering orderly.distinct tracked with ⟨isOld, _⟩ | ⟨old, _, isOld, _, _, rfl⟩
  · exact (orderly.states state isOld).generations fun _ => id
  · exact ((orderly.states old isOld).reporting (get?_of_catalogSegment found)).generations fun _ => id

/-! ## A new file -/

section NewFile

variable {body : ZlmRecordMp4Hook} {profile : CameraStreamProfile} {db : Database} {segment : RecordingSegment}

/-- The catalog has added the segment of a hook, as its fragment says. -/
structure Adds (env : CatalogEnv) (identity : ZlmStreamIdentity) (world : PrebufferWorld) (body : ZlmRecordMp4Hook)
    (profile : CameraStreamProfile) (db : Database) (segment : RecordingSegment) : Prop where
  added : FileAdded env world.db db identity.stream body.filePath profile.id (world.previousId env identity body)
    (PrebufferWorld.boundaryAt env body) segment
  isProfileId : profileIdFromStream env identity.stream = .ok profile.id
  startedAt : segment.startedAt = PrebufferWorld.boundaryAt env body
  endedAt : segment.endedAt = (world.fragmentOf env identity profile body).endedAt
  durationMs : segment.durationMs = (world.fragmentOf env identity profile body).durationMs
  profile : segment.streamProfileId = some profile.id
  provisional : segment.timingStatus = .provisional

/-- The world after the hook. -/
def afterHook (env : CatalogEnv) (identity : ZlmStreamIdentity) (world : PrebufferWorld) (body : ZlmRecordMp4Hook)
    (profile : CameraStreamProfile) (db : Database) (segment : RecordingSegment) : PrebufferWorld :=
  world.record identity (world.fragmentOf env identity profile body) db (world.resolution env identity body) segment

theorem Orderly.unseen (orderly : Orderly env identity world) (adds : Adds env identity world body profile db segment) :
    ∀ existing ∈ world.window identity, existing.filePath ≠ body.filePath := by
  intro existing member same
  obtain ⟨other, held⟩ := orderly.held existing member
  have found := held.found
  rw [same, PrebufferWorld.segmentOf, adds.added.absent] at found
  cases found

theorem Orderly.window_afterHook (orderly : Orderly env identity world) (adds : Adds env identity world body profile db segment) :
    (afterHook env identity world body profile db segment).window identity =
      nextWindow (world.window identity) (world.fragmentOf env identity profile body) :=
  observe_new orderly.nodup (orderly.unseen adds)

theorem Orderly.observed_afterHook (orderly : Orderly env identity world)
    (adds : Adds env identity world body profile db segment) :
    (afterHook env identity world body profile db segment).observed =
      world.observed ++ [world.fragmentOf env identity profile body] := by
  refine if_neg fun seen => ?_
  obtain ⟨existing, member, same⟩ := List.any_eq_true.mp seen
  exact orderly.unseen adds existing member (of_decide_eq_true same)

theorem Adds.segmentOf (adds : Adds env identity world body profile db segment) {path : String} (differs : path ≠ body.filePath) :
    (afterHook env identity world body profile db segment).segmentOf env identity path =
      (world.segmentOf env identity path).map
        (settle profile.id (world.previousId env identity body) (PrebufferWorld.boundaryAt env body)) :=
  adds.added.others path differs

/-- The catalog forgets no file. -/
theorem Adds.keeps (adds : Adds env identity world body profile db segment) {path : String}
    (seen : (world.segmentOf env identity path).isSome = true) :
    ((afterHook env identity world body profile db segment).segmentOf env identity path).isSome = true := by
  by_cases isNew : path = body.filePath
  · rw [isNew, PrebufferWorld.segmentOf, adds.added.absent] at seen
    cases seen
  · rw [adds.segmentOf isNew, Option.isSome_map]
    exact seen

/-- The boundary of the hook settles the segment of exactly the fragment that the tracker moves. -/
theorem Orderly.settles_iff (orderly : Orderly env identity world) (meets : MeetsHook env identity world body)
    (adds : Adds env identity world body profile db segment) {fragment : PrebufferFragment}
    (member : fragment ∈ world.window identity) {old : RecordingSegment} (held : Held env identity world fragment old) :
    (world.previousId env identity body = some old.id ∧ old.streamProfileId = some profile.id ∧
        finalizable (PrebufferWorld.boundaryAt env body) old = true) ↔
      ((world.window identity).getLast?.map PrebufferFragment.filePath = some fragment.filePath ∧
        normalizes fragment (world.fragmentOf env identity profile body) = true) := by
  have shorter : PrebufferWorld.boundaryAt env body - milliseconds fragment.durationMs < PrebufferWorld.boundaryAt env body := by
    have := fragment.positive
    unfold milliseconds
    omega
  constructor
  · rintro ⟨isPrevious, _, possible⟩
    obtain ⟨provisional, before, _⟩ := of_decide_eq_true possible
    obtain ⟨isLast, isGeneration⟩ := meets.remembered adds.added.absent fragment member old held.found isPrevious provisional before
    obtain ⟨resolved, isResolved, _⟩ := Option.bind_eq_some_iff.mp isPrevious
    refine ⟨by rw [isLast, Option.map_some], decide_eq_true ⟨?_, isGeneration, held.startedAt ▸ before, shorter⟩⟩
    rw [isGeneration, PrebufferWorld.generation, isResolved]
    rfl
  · rintro ⟨isLast, moves⟩
    obtain ⟨last, lastFound, samePath⟩ := Option.map_eq_some_iff.mp isLast
    have isFragment : last = fragment := eq_of_filePath orderly.nodup (List.mem_of_getLast? lastFound) member samePath
    rw [isFragment] at lastFound
    obtain ⟨inGeneration, isGeneration, before, _⟩ := of_decide_eq_true moves
    obtain ⟨found, isFound, isPrevious⟩ := meets.newest adds.added.absent fragment lastFound inGeneration isGeneration before
    have isOld : old = found := Option.some.inj (held.found.symm.trans isFound)
    rw [← isOld] at isPrevious
    refine ⟨isPrevious, held.profile _ adds.isProfileId,
      decide_eq_true ⟨(orderly.newest fragment lastFound).2 old held.found, ?_, ?_⟩⟩
    · rw [held.startedAt]
      exact before
    · rw [held.durationMs]
      exact shorter

/-- Tracker and catalog hold the same range of a fragment after the hook of another file. -/
theorem Orderly.held_moved (orderly : Orderly env identity world) (meets : MeetsHook env identity world body)
    (adds : Adds env identity world body profile db segment) {fragment : PrebufferFragment}
    (member : fragment ∈ world.window identity) {old : RecordingSegment} (held : Held env identity world fragment old) :
    Held env identity (afterHook env identity world body profile db segment)
      (moved (world.window identity) (world.fragmentOf env identity profile body) fragment)
      (settle profile.id (world.previousId env identity body) (PrebufferWorld.boundaryAt env body) old) := by
  have found : (afterHook env identity world body profile db segment).segmentOf env identity
      (moved (world.window identity) (world.fragmentOf env identity profile body) fragment).filePath =
      some (settle profile.id (world.previousId env identity body) (PrebufferWorld.boundaryAt env body) old) := by
    rw [moved_filePath, adds.segmentOf (orderly.unseen adds fragment member), held.found, Option.map_some]
  have profileKept (profileId : Uuid) (isProfileId : profileIdFromStream env identity.stream = .ok profileId) :
      (settle profile.id (world.previousId env identity body) (PrebufferWorld.boundaryAt env body) old).streamProfileId =
        some profileId := by
    rw [settle_streamProfileId]
    exact held.profile profileId isProfileId
  have alike := orderly.settles_iff meets adds member held
  by_cases moves : (world.window identity).getLast?.map PrebufferFragment.filePath = some fragment.filePath ∧
      normalizes fragment (world.fragmentOf env identity profile body) = true
  · refine ⟨found, ?_, ?_, ?_, profileKept⟩ <;> rw [settle, if_pos (alike.mpr moves), moved, if_pos moves]
    · change _ - milliseconds (old.durationMs : Int) = _ - milliseconds (fragment.durationMs : Int)
      rw [held.durationMs]
      rfl
    · rfl
    · exact held.durationMs
  · refine ⟨found, ?_, ?_, ?_, profileKept⟩ <;> rw [settle, if_neg fun settles => moves (alike.mp settles), moved, if_neg moves]
    · exact held.startedAt
    · exact held.endedAt
    · exact held.durationMs

theorem Adds.held_new (adds : Adds env identity world body profile db segment) :
    Held env identity (afterHook env identity world body profile db segment) (world.fragmentOf env identity profile body)
      segment where
  found := adds.added.added
  startedAt := adds.startedAt
  endedAt := adds.endedAt
  durationMs := adds.durationMs
  profile profileId isProfileId := by
    cases adds.isProfileId.symm.trans isProfileId
    exact adds.profile

/-- A generation that the hook was not resolved to keeps what it remembers. -/
theorem Orderly.remembers_other (orderly : Orderly env identity world) (adds : Adds env identity world body profile db segment)
    {state : ContinuityState} (remembers : Remembers world state)
    (other : world.generation env identity body ≠ some state.continuityId ∨ ∃ last, state.lastSegmentStartedAt = some last ∧
      PrebufferWorld.boundaryAt env body ≤ last) :
    Remembers (afterHook env identity world body profile db segment) state := by
  refine ⟨remembers.issued, fun raw member isId => ?_, fun id isId => ?_, fun row isRow isLast provisional => ?_⟩
  · rw [orderly.observed_afterHook adds] at member
    rcases List.mem_append.mp member with old | new
    · exact remembers.latest raw old isId
    · rw [List.mem_singleton.mp new] at isId ⊢
      rcases other with other | ⟨last, isLast, before⟩
      · exact absurd isId other
      · exact ⟨last, isLast, before⟩
  · have isRow := remembers.stored id isId
    change (db.segments.get? id).isSome = true
    rw [adds.added.segments]
    split
    · rfl
    · rw [Option.isSome_map]
      exact isRow
  · have isRow : db.segments.get? row.id = some row := isRow
    rw [adds.added.segments] at isRow
    split at isRow
    next isNew =>
      have stored := remembers.stored _ isLast
      rw [← isNew, adds.added.isNew] at stored
      cases stored
    next =>
      obtain ⟨old, wasRow, rfl⟩ := Option.map_eq_some_iff.mp isRow
      have unsettled := settle_of_provisional provisional
      rw [unsettled] at isLast provisional wasRow ⊢
      exact remembers.start old wasRow isLast provisional

/-- The generation that the hook was resolved to remembers its segment, or a later one. -/
theorem Orderly.remembers_reporting (orderly : Orderly env identity world)
    (adds : Adds env identity world body profile db segment) {state : ContinuityState} (remembers : Remembers world state) :
    Remembers (afterHook env identity world body profile db segment) (reporting state segment) := by
  rcases reporting_cases state segment with ⟨last, isLast, before, same⟩ | ⟨noLater, same⟩
  · rw [same]
    exact orderly.remembers_other adds remembers (.inr ⟨last, isLast, adds.startedAt ▸ before.le⟩)
  rw [same]
  have stored : (afterHook env identity world body profile db segment).db.segments.get? segment.id = some segment := by
    refine (adds.added.segments segment.id).trans (if_pos rfl)
  refine ⟨remembers.issued, fun raw member isId => ?_, fun id isId => ?_, fun row isRow isLast _ => ?_⟩
  · rw [orderly.observed_afterHook adds] at member
    refine ⟨segment.startedAt, rfl, ?_⟩
    rcases List.mem_append.mp member with old | new
    · obtain ⟨last, isLast, before⟩ := remembers.latest raw old isId
      exact before.trans (noLater last isLast)
    · rw [List.mem_singleton.mp new, adds.startedAt]
      exact le_rfl
  · cases isId
    rw [stored]
    rfl
  · have sameId : segment.id = row.id := Option.some.inj isLast
    rw [← sameId, stored] at isRow
    cases isRow
    rfl

theorem Orderly.states_afterHook (orderly : Orderly env identity world) (adds : Adds env identity world body profile db segment)
    (state : ContinuityState)
    (tracked : Tracked (afterHook env identity world body profile db segment).continuity identity state) :
    Remembers (afterHook env identity world body profile db segment) state := by
  rcases tracked_remembering orderly.distinct tracked with ⟨isOld, differs⟩ | ⟨old, _, isOld, _, _, rfl⟩
  · refine orderly.remembers_other adds (orderly.states state isOld) (.inl fun isGeneration => ?_)
    obtain ⟨resolved, isResolved, sameId⟩ := Option.map_eq_some_iff.mp isGeneration
    exact differs resolved isResolved sameId.symm
  · exact orderly.remembers_reporting adds (orderly.states old isOld)

/-- A fragment that the hook moves starts no earlier than the others of its generation. -/
theorem Orderly.moved_latest (orderly : Orderly env identity world) (meets : MeetsHook env identity world body)
    (adds : Adds env identity world body profile db segment) {fragment raw later : PrebufferFragment}
    (member : fragment ∈ world.window identity)
    (moves : (world.window identity).getLast?.map PrebufferFragment.filePath = some fragment.filePath ∧
      normalizes fragment (world.fragmentOf env identity profile body) = true)
    (isRaw : raw ∈ world.observed) (samePath : raw.filePath = fragment.filePath) (isLater : later ∈ world.observed)
    (sameGeneration : later.continuityId = fragment.continuityId) : later.startedAt ≤ raw.startedAt := by
  obtain ⟨old, held⟩ := orderly.held fragment member
  obtain ⟨isPrevious, _, possible⟩ := (orderly.settles_iff meets adds member held).mpr moves
  have provisional := (of_decide_eq_true possible).1
  obtain ⟨resolved, isResolved, isLast⟩ := Option.bind_eq_some_iff.mp isPrevious
  obtain ⟨state, tracked, sameId, sameLast⟩ := resolved_tracked isResolved
  have remembers := orderly.states state tracked
  have isStart := remembers.start old (get?_of_catalogSegment held.found) (sameLast.symm.trans isLast) provisional
  have isGeneration : fragment.continuityId = some state.continuityId := by
    rw [(of_decide_eq_true moves.2).2.1, ← sameId]
    exact congrArg (Option.map ZlmContinuityResolution.continuityId) isResolved
  obtain ⟨last, isLastStart, before⟩ := remembers.latest later isLater (sameGeneration.trans isGeneration)
  rw [isStart] at isLastStart
  cases isLastStart
  rw [← orderly.raw fragment member old held.found provisional raw isRaw samePath, ← held.startedAt]
  exact before

theorem Orderly.notStretched_afterHook (orderly : Orderly env identity world) (meets : MeetsHook env identity world body)
    (adds : Adds env identity world body profile db segment) :
    ∀ fragment ∈ (afterHook env identity world body profile db segment).window identity,
      ∀ raw ∈ (afterHook env identity world body profile db segment).observed, raw.filePath = fragment.filePath →
      ∀ later ∈ (afterHook env identity world body profile db segment).observed, fragment.continuityId.isSome = true →
      later.continuityId = fragment.continuityId → raw.startedAt < later.startedAt → raw.endedAt < fragment.endedAt →
      fragment.endedAt ≤ later.startedAt := by
  intro fragment member raw isRaw samePath later isLater inGeneration sameGeneration before stretched
  rw [orderly.window_afterHook adds] at member
  rw [orderly.observed_afterHook adds] at isRaw isLater
  have newRaw (isNew : raw.filePath = body.filePath) : raw = world.fragmentOf env identity profile body := by
    rcases List.mem_append.mp isRaw with old | new
    · have seen := (orderly.observed raw old).1
      rw [isNew, PrebufferWorld.segmentOf, adds.added.absent] at seen
      cases seen
    · exact List.mem_singleton.mp new
  rcases mem_nextWindow member with rfl | ⟨old, isOld, rfl⟩
  · rw [newRaw samePath] at stretched
    exact absurd stretched (lt_irrefl _)
  rw [moved_filePath] at samePath
  rw [moved_continuityId] at inGeneration sameGeneration
  have oldRaw : raw ∈ world.observed := by
    rcases List.mem_append.mp isRaw with seen | new
    · exact seen
    · rw [List.mem_singleton.mp new] at samePath
      exact absurd samePath.symm (orderly.unseen adds old isOld)
  rw [moved] at stretched ⊢
  split at stretched
  next moves =>
    rw [if_pos moves]
    rcases List.mem_append.mp isLater with seen | new
    · have atMost := orderly.moved_latest meets adds isOld moves oldRaw samePath seen sameGeneration
      exact absurd before (not_lt.mpr atMost)
    · rw [List.mem_singleton.mp new]
      exact le_rfl
  next stays =>
    rw [if_neg stays]
    rcases List.mem_append.mp isLater with seen | new
    · exact orderly.notStretched old isOld raw oldRaw samePath later seen inGeneration sameGeneration before stretched
    · rw [List.mem_singleton.mp new] at before sameGeneration ⊢
      exact meets.apart adds.added.absent old isOld raw oldRaw samePath inGeneration sameGeneration.symm before stretched

theorem Orderly.recordNew (orderly : Orderly env identity world) (meets : MeetsHook env identity world body)
    (adds : Adds env identity world body profile db segment) :
    Orderly env identity (afterHook env identity world body profile db segment) where
  catalogued := adds.added.catalogued
  nodup := by
    rw [orderly.window_afterHook adds]
    exact nextWindow_nodup orderly.nodup (orderly.unseen adds)
  held fragment member := by
    rw [orderly.window_afterHook adds] at member
    rcases mem_nextWindow member with rfl | ⟨old, isOld, rfl⟩
    · exact ⟨segment, adds.held_new⟩
    · obtain ⟨row, held⟩ := orderly.held old isOld
      exact ⟨_, orderly.held_moved meets adds isOld held⟩
  newest last isLast := by
    rw [orderly.window_afterHook adds, nextWindow_getLast?] at isLast
    cases isLast
    refine ⟨fun retimed => ?_, fun row isRow => ?_⟩
    · rcases List.mem_append.mp retimed with before | now
      · have seen := orderly.retimed _ before
        rw [PrebufferWorld.segmentOf] at seen
        have absent : catalogSegment env world.db identity.stream (world.fragmentOf env identity profile body).filePath = none :=
          adds.added.absent
        rw [absent] at seen
        cases seen
      · have now : (world.fragmentOf env identity profile body).filePath ∈ retimings (world.window identity)
            ((afterHook env identity world body profile db segment).window identity) := now
        rw [orderly.window_afterHook adds] at now
        obtain ⟨last, member, _, same⟩ := mem_retimings orderly.nodup (orderly.unseen adds) now
        exact orderly.unseen adds last member same.symm
    · cases adds.held_new.found.symm.trans isRow
      exact adds.provisional
  raw fragment member row isRow provisional raw isRaw samePath := by
    rw [orderly.window_afterHook adds] at member
    rw [orderly.observed_afterHook adds] at isRaw
    rcases mem_nextWindow member with rfl | ⟨old, isOld, rfl⟩
    · rcases List.mem_append.mp isRaw with seen | new
      · have wasSeen := (orderly.observed raw seen).1
        rw [samePath, PrebufferWorld.segmentOf] at wasSeen
        have absent : catalogSegment env world.db identity.stream (world.fragmentOf env identity profile body).filePath = none :=
          adds.added.absent
        rw [absent] at wasSeen
        cases wasSeen
      · rw [List.mem_singleton.mp new]
    · obtain ⟨oldRow, held⟩ := orderly.held old isOld
      have heldMoved := orderly.held_moved meets adds isOld held
      have isSettled : settle profile.id (world.previousId env identity body) (PrebufferWorld.boundaryAt env body) oldRow = row :=
        Option.some.inj (heldMoved.found.symm.trans isRow)
      subst isSettled
      have unsettled := settle_of_provisional provisional
      rw [moved_filePath] at samePath
      rw [← heldMoved.startedAt, unsettled, held.startedAt]
      rw [unsettled] at provisional
      rcases List.mem_append.mp isRaw with seen | new
      · exact orderly.raw old isOld oldRow held.found provisional raw seen samePath
      · rw [List.mem_singleton.mp new] at samePath
        exact absurd samePath.symm (orderly.unseen adds old isOld)
  notStretched := orderly.notStretched_afterHook meets adds
  retimedOnce := by
    refine List.nodup_append.mpr ⟨orderly.retimedOnce, retimings_nodup orderly.nodup _, ?_⟩
    rintro path before other now rfl
    have now : path ∈ retimings (world.window identity)
        ((afterHook env identity world body profile db segment).window identity) := now
    rw [orderly.window_afterHook adds] at now
    obtain ⟨last, _, isLast, rfl⟩ := mem_retimings orderly.nodup (orderly.unseen adds) now
    exact (orderly.newest last isLast).1 before
  retimed path member := by
    have seen : (world.segmentOf env identity path).isSome = true := by
      rcases List.mem_append.mp member with before | now
      · exact orderly.retimed path before
      · have now : path ∈ retimings (world.window identity)
            ((afterHook env identity world body profile db segment).window identity) := now
        rw [orderly.window_afterHook adds] at now
        obtain ⟨last, isOld, _, rfl⟩ := mem_retimings orderly.nodup (orderly.unseen adds) now
        obtain ⟨row, held⟩ := orderly.held last isOld
        rw [held.found]
        rfl
    exact adds.keeps seen
  observed raw member := by
    rw [orderly.observed_afterHook adds] at member
    rcases List.mem_append.mp member with seen | new
    · exact ⟨adds.keeps (orderly.observed raw seen).1, (orderly.observed raw seen).2⟩
    · rw [List.mem_singleton.mp new]
      refine ⟨by rw [adds.held_new.found]; rfl, fun id isId => ?_⟩
      obtain ⟨resolved, isResolved, rfl⟩ := Option.map_eq_some_iff.mp isId
      obtain ⟨state, tracked, sameId, _⟩ := resolved_tracked isResolved
      rw [sameId]
      exact (orderly.states state tracked).issued
  states := orderly.states_afterHook adds
  distinct := distinct_remembering orderly.distinct _ _

end NewFile

theorem Orderly.step (orderly : Orderly env identity world) {action : PrebufferAction} (onePath : OnePath env.paths)
    (step : MeetingStep env uuid4 identity world action world') : Orderly env identity world' := by
  obtain ⟨step, meets⟩ := step
  cases step with
  | registered at_ => exact orderly.register at_
  | unregistered at_ => exact orderly.unregister at_
  | reset => exact orderly.reset
  | @recordMp4 body profile db result segment isStream isProfileId isProfile ingested isSegment =>
    subst isStream
    have meets := meets body rfl
    rcases ingestFinalized_segment onePath orderly.catalogued ingested isSegment with
      ⟨rfl, found⟩ | ⟨other, reasons, id, isOtherId, isOther, rfl, added⟩
    · exact orderly.recordKnown rfl (meets.known (by rw [PrebufferWorld.segmentOf]; exact Option.isSome_of_eq_some found)) found
    · have sameProfileId : other.id = profile.id := Except.ok.inj (isOtherId.symm.trans isProfileId)
      rw [sameProfileId, isProfile] at isOther
      cases isOther
      exact orderly.recordNew meets ⟨added, isProfileId, rfl, rfl, rfl, rfl, rfl⟩

end Invariant

/-- Where every hook finds the newest fragment and the remembered segment to be of one file, and the file of a repeated
    one in the window, the tracker and the catalog normalize time alike. -/
theorem prebuffer_normalized {env : CatalogEnv} {uuid4 : Supply Uuid} {identity : ZlmStreamIdentity} {db : Database}
    {actions : List PrebufferAction} {world : PrebufferWorld} (onePath : OnePath env.paths)
    (noLocations : db.locations = Table.empty) (run : Run (MeetingStep env uuid4 identity) { db } actions world) :
    Normalized env identity world := by
  have orderly : Orderly env identity world :=
    @Run.invariant _ _ _ (Orderly env identity) (fun _ _ _ orderly step => orderly.step onePath step) _ _ _ run
      (orderly_start noLocations)
  exact orderly.normalized

/-! Two files in order, and then one that is late. -/

open IngestionTiming (plainPrebuffer plainStart recordHook firstHook secondHook hookLength_positive)

def plainStream : ZlmStreamIdentity := { vhost := "", app := "zero-nvr", stream := "profile-1" }

def plainProfile : CameraStreamProfile := { id := 1, cameraId := 1 }

/-- The world after a hook that the catalog accepts. -/
def delivered (world : PrebufferWorld) (body : ZlmRecordMp4Hook) : PrebufferWorld :=
  match ingestFinalized plainPrebuffer.catalog .counting world.db (ZlmHooks.evidenceOf body)
      (world.previousId plainPrebuffer.catalog plainStream body) with
  | .ok (db, { segment := some segment, .. }) =>
    afterHook plainPrebuffer.catalog plainStream world body plainProfile db segment
  | _ => world

def registeredWorld : PrebufferWorld := PrebufferWorld.register .counting plainStream { db := plainStart } 0
def firstWorld : PrebufferWorld := delivered registeredWorld firstHook
def secondWorld : PrebufferWorld := delivered firstWorld secondHook

def lateHook : ZlmRecordMp4Hook := recordHook 5 "late.mp4" hookLength_positive
def thirdHook : ZlmRecordMp4Hook := recordHook 22 "third.mp4" (by norm_num)

def lateWorld : PrebufferWorld := delivered secondWorld lateHook
def thirdWorld : PrebufferWorld := delivered lateWorld thirdHook

def firstFragment : PrebufferFragment :=
  registeredWorld.fragmentOf plainPrebuffer.catalog plainStream plainProfile firstHook

theorem plainPrebuffer_onePath : OnePath plainPrebuffer.catalog.paths := by
  intro root one other path isOne isOther
  change (if root = "/recordings" then some one else none) = some path at isOne
  change (if root = "/recordings" then some other else none) = some path at isOther
  split at isOne
  next isRoot =>
    rw [if_pos isRoot] at isOther
    exact Option.some.inj (isOne.trans isOther.symm)
  next => cases isOne

theorem registeredStep : HookStep plainPrebuffer.catalog .counting plainStream { db := plainStart } .registered registeredWorld :=
  .registered _ 0

theorem firstStep : HookStep plainPrebuffer.catalog .counting plainStream registeredWorld (.recordMp4 firstHook) firstWorld :=
  @HookStep.recordMp4 _ _ _ _ _ plainProfile _ _ _ rfl rfl rfl rfl rfl

theorem secondStep : HookStep plainPrebuffer.catalog .counting plainStream firstWorld (.recordMp4 secondHook) secondWorld :=
  @HookStep.recordMp4 _ _ _ _ _ plainProfile _ _ _ rfl rfl rfl rfl rfl

theorem prebuffer_normalized_two_files :
    Normalized plainPrebuffer.catalog plainStream secondWorld ∧ secondWorld.retimed = ["first.mp4"] := by
  have firstMeets : MeetsHook plainPrebuffer.catalog plainStream registeredWorld firstHook :=
    ⟨fun isKnown => (nomatch isKnown), fun _ _ isLast => (nomatch isLast), fun _ _ member => (nomatch member),
      fun _ _ member => (nomatch member)⟩
  have window : firstWorld.window plainStream = [firstFragment] := rfl
  have observed : firstWorld.observed = [firstFragment] := rfl
  have unknown : (firstWorld.segmentOf plainPrebuffer.catalog plainStream secondHook.filePath).isSome = false := by
    decide +kernel
  have secondMeets : MeetsHook plainPrebuffer.catalog plainStream firstWorld secondHook := by
    refine ⟨fun isKnown => absurd isKnown (by rw [unknown]; decide), fun _ last isLast _ _ _ => ?_, fun _ fragment member _ _ _ _ _ => ?_,
      fun _ fragment member raw isRaw _ _ _ _ stretched => ?_⟩
    · cases isLast
      exact ⟨_, rfl, rfl⟩
    · rw [window, List.mem_singleton] at member
      rw [member]
      exact ⟨rfl, rfl⟩
    · rw [window, List.mem_singleton] at member
      rw [observed, List.mem_singleton] at isRaw
      rw [member, isRaw] at stretched
      exact absurd stretched (lt_irrefl _)
  have run : Run (MeetingStep plainPrebuffer.catalog .counting plainStream) { db := plainStart }
      [.registered, .recordMp4 firstHook, .recordMp4 secondHook] secondWorld := by
    refine .next ⟨registeredStep, nofun⟩ (.next ⟨firstStep, ?_⟩ (.next ⟨secondStep, ?_⟩ (.done _)))
    · rintro body ⟨⟩
      exact firstMeets
    · rintro body ⟨⟩
      exact secondMeets
  exact ⟨prebuffer_normalized plainPrebuffer_onePath rfl run, rfl⟩

/-- The late file, of an older start than the second, is moved to the start of the third; the catalog leaves it. -/
theorem late_hook_parts : ∃ actions world, Run (HookStep plainPrebuffer.catalog .counting plainStream)
    { db := plainStart } actions world ∧ ¬Normalized plainPrebuffer.catalog plainStream world := by
  have late : HookStep plainPrebuffer.catalog .counting plainStream secondWorld (.recordMp4 lateHook) lateWorld :=
    @HookStep.recordMp4 _ _ _ _ _ plainProfile _ _ _ rfl rfl rfl rfl rfl
  have third : HookStep plainPrebuffer.catalog .counting plainStream lateWorld (.recordMp4 thirdHook) thirdWorld :=
    @HookStep.recordMp4 _ _ _ _ _ plainProfile _ _ _ rfl rfl rfl rfl rfl
  have run : Run (HookStep plainPrebuffer.catalog .counting plainStream) { db := plainStart }
      [.registered, .recordMp4 firstHook, .recordMp4 secondHook, .recordMp4 lateHook, .recordMp4 thirdHook] thirdWorld :=
    .next registeredStep (.next firstStep (.next secondStep (.next late (.next third (.done _)))))
  refine ⟨_, thirdWorld, run, fun normalized => ?_⟩
  have moved : ((thirdWorld.window plainStream).any fun fragment => fragment.filePath = "late.mp4" ∧
      fragment.startedAt = 17000000) = true := by decide +kernel
  have stays : (thirdWorld.segmentOf plainPrebuffer.catalog plainStream "late.mp4").map RecordingSegment.startedAt =
      some 5000000 := by decide +kernel
  obtain ⟨fragment, member, isFragment⟩ := List.any_eq_true.mp moved
  obtain ⟨isLate, tracked⟩ := of_decide_eq_true isFragment
  obtain ⟨segment, found, started, _⟩ := normalized.agrees fragment member
  rw [isLate] at found
  rw [found, Option.map_some, started, tracked] at stays
  cases stays

end ZeroNvr.PrebufferTimings
