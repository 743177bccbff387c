import ZeroNvr.Verified.IngestionTiming

/-! # Boundaries and generations

A segment ends where the next one of its generation starts.  The tracker matches a
late hook to the generation it keeps as the last closed one without a look at when
that one began, so a file of an older generation can come before one of a newer.
-/

namespace ZeroNvr.BoundaryGenerations

open Lib IngestionTiming RecordingCatalogService

variable {env : PrebufferEnv} {uuid4 : Supply Uuid} {db db' : Database}

/-! ## Where the segments of a record hook come from -/

/-- A segment that was there, one that now ends at the boundary, or the new one. -/
inductive RowOrigin (db : Database) (previousId : Option Uuid) (boundaryAt : Int) (new : Option RecordingSegment)
    (row : RecordingSegment) : Prop
  | kept {old : RecordingSegment} : old ∈ db.segments → SameTiming old row →
      RowOrigin db previousId boundaryAt new row
  | finalized {old : RecordingSegment} : old ∈ db.segments → previousId = some old.id →
      old.timingStatus = .provisional → old.startedAt < boundaryAt →
      SameTiming (old.endingAt boundaryAt .nextSegmentBoundary) row → new.isSome = true →
      RowOrigin db previousId boundaryAt new row
  | created {segment : RecordingSegment} : new = some segment → SameTiming segment row →
      RowOrigin db previousId boundaryAt new row

/-- The segment a record hook reports, and whether it is new. -/
structure Recorded (db db' : Database) (previousId : Option Uuid) (boundaryAt : Int) (new : Option RecordingSegment) :
    Prop where
  rows : ∀ row ∈ db'.segments, RowOrigin db previousId boundaryAt new row
  persists : ∀ old ∈ db.segments, ∃ row ∈ db'.segments, row.id = old.id
  created : ∀ segment, new = some segment → (∃ row ∈ db'.segments, SameTiming segment row) ∧
    segment.timingStatus = .provisional ∧ segment.timingSource = .hookRaw ∧ segment.startedAt = boundaryAt ∧
    ∀ old ∈ db.segments, old.id ≠ segment.id

theorem Recorded.unchanged (db : Database) (previousId : Option Uuid) (boundaryAt : Int) :
    Recorded db db previousId boundaryAt none :=
  ⟨fun row member => .kept member (.refl row), fun old member => ⟨old, member, rfl⟩, fun _ isNew => by cases isNew⟩

theorem RowOrigin.sameTiming {previousId : Option Uuid} {boundaryAt : Int} {new : Option RecordingSegment}
    {row other : RecordingSegment} (origin : RowOrigin db previousId boundaryAt new row) (same : SameTiming row other) :
    RowOrigin db previousId boundaryAt new other := by
  cases origin with
  | kept member kept => exact .kept member (kept.trans same)
  | finalized member isPrevious provisional before ending isNew =>
    exact .finalized member isPrevious provisional before (ending.trans same) isNew
  | created isNew created => exact .created isNew (created.trans same)

/-- A change of the rows that keeps every time. -/
structure Retouched (db db' : Database) : Prop where
  rows : ∀ row ∈ db'.segments, ∃ old ∈ db.segments, SameTiming old row
  persists : ∀ old ∈ db.segments, ∃ row ∈ db'.segments, SameTiming old row

theorem Retouched.refl (db : Database) : Retouched db db :=
  ⟨fun row member => ⟨row, member, .refl row⟩, fun row member => ⟨row, member, .refl row⟩⟩

theorem Recorded.retouched {db'' : Database} {previousId : Option Uuid} {boundaryAt : Int}
    {new : Option RecordingSegment} (recorded : Recorded db db' previousId boundaryAt new)
    (retouched : Retouched db' db'') : Recorded db db'' previousId boundaryAt new := by
  refine ⟨fun row member => ?_, fun old member => ?_, fun segment isNew => ?_⟩
  · obtain ⟨middle, middleMember, same⟩ := retouched.rows row member
    exact (recorded.rows middle middleMember).sameTiming same
  · obtain ⟨middle, middleMember, sameId⟩ := recorded.persists old member
    obtain ⟨row, rowMember, same⟩ := retouched.persists middle middleMember
    exact ⟨row, rowMember, same.id.trans sameId⟩
  · obtain ⟨⟨middle, middleMember, first⟩, facts⟩ := recorded.created segment isNew
    obtain ⟨row, rowMember, second⟩ := retouched.persists middle middleMember
    exact ⟨⟨row, rowMember, first.trans second⟩, facts⟩

theorem modifySegment_retouched {id : Uuid} {f : RecordingSegment → RecordingSegment}
    {keeps : ∀ row, (f row).id = row.id} (same : ∀ row, SameTiming row (f row)) :
    Retouched db (db.modifySegment id f keeps) := by
  have kept (old : RecordingSegment) : SameTiming old (if old.id = id then f old else old) := by
    split
    · exact same old
    · exact .refl old
  refine ⟨fun row member => ?_, fun old member => ⟨_, mem_modifySegment.mpr ⟨old, member, rfl⟩, kept old⟩⟩
  obtain ⟨old, oldMember, rfl⟩ := mem_modifySegment.mp member
  exact ⟨old, oldMember, kept old⟩

theorem Retouched.trans {db'' : Database} (first : Retouched db db') (second : Retouched db' db'') :
    Retouched db db'' := by
  refine ⟨fun row member => ?_, fun old member => ?_⟩
  · obtain ⟨middle, middleMember, toRow⟩ := second.rows row member
    obtain ⟨old, oldMember, toMiddle⟩ := first.rows middle middleMember
    exact ⟨old, oldMember, toMiddle.trans toRow⟩
  · obtain ⟨middle, middleMember, toMiddle⟩ := first.persists old member
    obtain ⟨row, rowMember, toRow⟩ := second.persists middle middleMember
    exact ⟨row, rowMember, toMiddle.trans toRow⟩

theorem markSourceLossTail_retouched (previousSegmentId : Option Uuid) (segmentId : Uuid) :
    Retouched db (markSourceLossTail db previousSegmentId segmentId) := by
  unfold markSourceLossTail
  cases db.segments.get? segmentId with
  | none => exact .refl db
  | some segment =>
    dsimp only
    refine Retouched.trans ?_ (modifySegment_retouched fun row => ⟨rfl, rfl, rfl, rfl, rfl, rfl⟩)
    cases previousSegmentId with
    | none => exact .refl db
    | some previousId =>
      dsimp only
      split
      · exact modifySegment_retouched noLongerTail_same
      · exact .refl db

/-- The rows after the previous segment has met its boundary. -/
theorem finalizePrevious_rows {profileId : Uuid} {previousId : Option Uuid} {boundaryAt : Int} :
    let finalized := match previousId with
      | some previousId => finalizePreviousFromBoundary db profileId previousId boundaryAt
      | none => db
    (∀ row ∈ finalized.segments, row ∈ db.segments ∨ ∃ old ∈ db.segments, previousId = some old.id ∧
      old.timingStatus = .provisional ∧ old.startedAt < boundaryAt ∧
      row = old.endingAt boundaryAt .nextSegmentBoundary) ∧
    ∀ old ∈ db.segments, ∃ row ∈ finalized.segments, row.id = old.id := by
  have unchanged : (∀ row ∈ db.segments, row ∈ db.segments ∨ ∃ old ∈ db.segments, previousId = some old.id ∧
      old.timingStatus = .provisional ∧ old.startedAt < boundaryAt ∧
      row = old.endingAt boundaryAt .nextSegmentBoundary) ∧
      ∀ old ∈ db.segments, ∃ row ∈ db.segments, row.id = old.id :=
    ⟨fun row member => .inl member, fun old member => ⟨old, member, rfl⟩⟩
  cases previousId with
  | none => exact unchanged
  | some previousId =>
    dsimp only
    unfold finalizePreviousFromBoundary
    cases found : db.segments.get? previousId with
    | none => exact unchanged
    | some previous =>
      dsimp only
      split
      next possible =>
        obtain ⟨_, finalizable⟩ := possible
        obtain ⟨provisional, before, _⟩ := of_decide_eq_true finalizable
        refine ⟨fun row member => ?_, fun old member => ⟨_, mem_modifySegment.mpr ⟨old, member, rfl⟩, ?_⟩⟩
        · obtain ⟨old, oldMember, rfl⟩ := mem_modifySegment.mp member
          split
          next same =>
            have isPrevious : old = previous := Table.eq_of_key_eq oldMember (Table.mem_of_get? found) same
            have isId : previous.id = previousId := Table.key_of_get? found
            refine .inr ⟨previous, Table.mem_of_get? found, by rw [isId], provisional, before, by rw [isPrevious]⟩
          next => exact .inl oldMember
        · split <;> rfl
      next => exact unchanged

theorem insertRecording_segments {segment : RecordingSegment} {targetId : Uuid} {objectPath : String}
    {verifiedAt lastAttemptAt : Option Int}
    (inserted : db.insertRecording uuid4 segment targetId objectPath verifiedAt lastAttemptAt = .ok db') :
    db.segments.insert? segment = some db'.segments := by
  unfold Database.insertRecording Database.insertSegment Database.insertLocation at inserted
  rw [bind_eq_ok] at inserted
  obtain ⟨stored, isStored, inserted⟩ := inserted
  have grown : db.segments.insert? segment = some stored.segments := by
    split at isStored
    · cases isStored
    split at isStored
    · cases isStored
    split at isStored
    next isGrown =>
      cases isStored
      exact isGrown
    next => cases isStored
  have same : db'.segments = stored.segments := by
    split at inserted
    · cases inserted
    split at inserted
    · cases inserted
    split at inserted
    · cases inserted
      rfl
    · cases inserted
  rw [same, grown]

theorem ingestNew_recorded {env : CatalogEnv} {evidence : FinalizedRecordingEvidence} {profile : CameraStreamProfile}
    {targetId : Uuid} {objectPath : String} {previousId : Option Uuid} {result : CatalogIngestResult}
    (ingested : ingestNew env uuid4 db evidence profile targetId objectPath previousId = .ok (db', result)) :
    ∃ segment, result.segment = some segment ∧
      Recorded db db' previousId (env.fromTimestamp evidence.startTimeEpoch) (some segment) := by
  unfold ingestNew at ingested
  dsimp only at ingested
  rw [bind_eq_ok] at ingested
  obtain ⟨reasons, _, ingested⟩ := ingested
  rw [bind_eq_ok] at ingested
  obtain ⟨stored, isStored, ingested⟩ := ingested
  cases ingested
  obtain ⟨rows, persists⟩ := @finalizePrevious_rows db profile.id previousId (env.fromTimestamp evidence.startTimeEpoch)
  have grown := insertRecording_segments isStored
  refine ⟨_, rfl, fun row member => ?_, fun old member => ?_, fun segment isNew => ?_⟩
  · rcases (Table.mem_insert? grown).mp member with old | rfl
    · rcases rows row old with oldMember | ⟨old, oldMember, isPrevious, provisional, before, rfl⟩
      · exact .kept oldMember (.refl row)
      · exact .finalized oldMember isPrevious provisional before (.refl _) rfl
    · exact .created rfl (.refl _)
  · obtain ⟨row, rowMember, same⟩ := persists old member
    exact ⟨row, (Table.mem_insert? grown).mpr (.inl rowMember), same⟩
  · cases isNew
    refine ⟨⟨_, (Table.mem_insert? grown).mpr (.inr rfl), .refl _⟩, rfl, rfl, rfl, fun old member same => ?_⟩
    obtain ⟨row, rowMember, sameId⟩ := persists old member
    exact Table.insert?_fresh grown row rowMember (sameId.trans same)

/-! ## A record hook -/

/-- The segment of a file that the catalog knows. -/
def catalogued (env : CatalogEnv) (db : Database) (evidence : FinalizedRecordingEvidence) : Option RecordingSegment := do
  let profileId ← (profileIdFromStream env evidence.stream).toOption
  let profile ← db.streamProfiles.get? profileId
  let target ← (RecordingStorageResolver.localTargetForCamera env.paths db profile.cameraId).toOption
  let objectPath ← (RecordingStorageResolver.relativeObjectPath env.paths target.root evidence.filePath).toOption
  let location ← db.locationAt target.target.id objectPath
  db.segments.get? location.recordingSegmentId

/-- A file is ignored, known, or new. -/
theorem ingestFinalized_cases {env : CatalogEnv} {evidence : FinalizedRecordingEvidence} {previousId : Option Uuid}
    {result : CatalogIngestResult}
    (ingested : ingestFinalized env uuid4 db evidence previousId = .ok (db', result)) :
    (db' = db ∧ result.segment = none) ∨
      (∃ existing, db' = db ∧ result.segment = some existing ∧ catalogued env db evidence = some existing) ∨
      ∃ segment, result.segment = some segment ∧
        Recorded db db' previousId (env.fromTimestamp evidence.startTimeEpoch) (some segment) := by
  unfold ingestFinalized at ingested
  split at ingested
  · cases ingested
    exact .inl ⟨rfl, rfl⟩
  split at ingested
  · cases ingested
  split at ingested
  · cases ingested
  rw [bind_eq_ok] at ingested
  obtain ⟨profileId, isProfileId, ingested⟩ := ingested
  split at ingested
  · cases ingested
  next profile isProfile =>
    rw [bind_eq_ok] at ingested
    obtain ⟨target, isTarget, ingested⟩ := ingested
    split at ingested
    · split at ingested
      · cases ingested
        exact .inl ⟨rfl, rfl⟩
      · cases ingested
    next objectPath isPath =>
      split at ingested
      next location isLocation =>
        rw [bind_eq_ok] at ingested
        obtain ⟨known, isKnown, ingested⟩ := ingested
        cases ingested
        unfold RecordingCatalogService.known at isKnown
        split at isKnown
        · cases isKnown
        next existing isExisting =>
          split at isKnown
          · cases isKnown
          · cases isKnown
            refine .inr (.inl ⟨existing, rfl, rfl, ?_⟩)
            simp [catalogued, isProfileId, isProfile, isTarget, isPath, isLocation, isExisting, Except.toOption]
      next => exact .inr (.inr (ingestNew_recorded ingested))

theorem catalogued_member {env : CatalogEnv} {evidence : FinalizedRecordingEvidence} {existing : RecordingSegment}
    (isKnown : catalogued env db evidence = some existing) : existing ∈ db.segments := by
  unfold catalogued at isKnown
  simp only [Option.bind_eq_bind, Option.bind_eq_some_iff] at isKnown
  obtain ⟨_, _, _, _, _, _, _, _, _, _, found⟩ := isKnown
  exact Table.mem_of_get? found

/-- The segment is remembered by the generation its hook is matched to, if any. -/
def remembering (tracker : ZlmContinuityTracker) (identity : ZlmStreamIdentity) (segment : RecordingSegment) :
    Option ZlmContinuityResolution → ZlmContinuityTracker
  | none => tracker
  | some resolved => (tracker.rememberSegment identity resolved.continuityId segment.id segment.startedAt).1

/-- What a record hook reports to the tracker: the segment of its file, new or known. -/
structure Reported (env : PrebufferEnv) (state state' : HookState) (body : ZlmRecordMp4Hook)
    (resolution : Option ZlmContinuityResolution) (new : Option RecordingSegment) (segment : RecordingSegment) :
    Prop where
  recorded : Recorded state.db state'.db (resolution.bind ZlmContinuityResolution.previousSegmentId)
    (env.catalog.fromTimestamp body.startTime) new
  source : new = some segment ∨
    (new = none ∧ catalogued env.catalog state.db (ZlmHooks.evidenceOf body) = some segment)
  tracker : state'.continuity = remembering state.continuity (ZlmHooks.identityOf body) segment resolution

theorem rememberTail_retouched (tracker : ZlmContinuityTracker) (identity : ZlmStreamIdentity)
    (resolution : ZlmContinuityResolution) (segment : RecordingSegment) :
    Retouched db (ZlmHooks.rememberTail db tracker identity resolution segment).1 := by
  unfold ZlmHooks.rememberTail
  generalize tracker.rememberSegment identity resolution.continuityId segment.id segment.startedAt = remembered
  dsimp only
  split
  · exact markSourceLossTail_retouched _ _
  · exact .refl db

/-- The end of the transaction, with the segment it has found or made. -/
theorem reported_of_remembered {state : HookState} {body : ZlmRecordMp4Hook} {stored : Database}
    {tracker' : ZlmContinuityTracker} {resolution : Option ZlmContinuityResolution} {new : Option RecordingSegment}
    {segment : RecordingSegment}
    (recorded : Recorded state.db stored (resolution.bind ZlmContinuityResolution.previousSegmentId)
      (env.catalog.fromTimestamp body.startTime) new)
    (source : new = some segment ∨
      (new = none ∧ catalogued env.catalog state.db (ZlmHooks.evidenceOf body) = some segment))
    (remembered : (match resolution, some segment with
      | some resolution, some segment =>
        (.ok (ZlmHooks.rememberTail stored state.continuity (ZlmHooks.identityOf body) resolution segment) :
          Result (Database × ZlmContinuityTracker))
      | _, _ => .ok (stored, state.continuity)) = .ok (db', tracker')) :
    Reported env state { state with db := db', continuity := tracker' } body resolution new segment := by
  cases resolution with
  | none =>
    cases remembered
    exact ⟨recorded, source, rfl⟩
  | some resolved =>
    have both := Except.ok.inj remembered
    have isDb : (ZlmHooks.rememberTail stored state.continuity (ZlmHooks.identityOf body) resolved segment).1 = db' :=
      congrArg Prod.fst both
    refine ⟨?_, source, (congrArg Prod.snd both).symm⟩
    dsimp only
    rw [← isDb]
    exact recorded.retouched (rememberTail_retouched _ _ _ _)

/-- A record hook leaves catalog and tracker, or reports a segment to the generation it is matched to. -/
theorem recordMp4_cases {state state' : HookState} {body : ZlmRecordMp4Hook}
    (done : ZlmHooks.recordMp4 env uuid4 state body = .ok state') :
    (state'.db = state.db ∧ state'.continuity = state.continuity) ∨
      ∃ new segment, Reported env state state' body (state.continuity.resolveRecord (ZlmHooks.identityOf body)
        (env.catalog.fromTimestamp body.startTime)) new segment := by
  unfold ZlmHooks.recordMp4 at done
  dsimp only at done
  split at done
  · left
    unfold ZlmHooks.observePrebuffer at done
    split at done
    · cases done
      exact ⟨rfl, rfl⟩
    · rw [bind_eq_ok] at done
      obtain ⟨profileId, _, done⟩ := done
      split at done
      · cases done
      · split at done
        · cases done
          exact ⟨rfl, rfl⟩
        · cases done
          exact ⟨rfl, rfl⟩
  · rw [bind_eq_ok] at done
    obtain ⟨⟨db', continuity'⟩, ingested, done⟩ := done
    cases done
    unfold ZlmHooks.ingestResolved at ingested
    rw [bind_eq_ok] at ingested
    obtain ⟨⟨stored, result⟩, isStored, ingested⟩ := ingested
    generalize state.continuity.resolveRecord (ZlmHooks.identityOf body)
      (env.catalog.fromTimestamp body.startTime) = resolution at *
    dsimp only at ingested
    rcases ingestFinalized_cases isStored with ⟨rfl, ignored⟩ | ⟨existing, rfl, isExisting, isKnown⟩ |
      ⟨segment, isSegment, recorded⟩
    · left
      rw [ignored] at ingested
      cases resolution <;> cases ingested <;> exact ⟨rfl, rfl⟩
    · rw [isExisting] at ingested
      exact .inr ⟨none, existing, reported_of_remembered (.unchanged _ _ _) (.inr ⟨rfl, isKnown⟩) ingested⟩
    · rw [isSegment] at ingested
      exact .inr ⟨some segment, segment, reported_of_remembered recorded (.inl rfl) ingested⟩

/-! ## Runs of hooks -/

/-- The hooks, and what has happened: the time, the generations issued, the unregistrations of each
    stream, and the stream and start under which each segment was first reported. -/
structure ContinuityWorld where
  hooks : HookState
  clock : Int
  issued : List Uuid := []
  unregisters : List (ZlmStreamIdentity × Int) := []
  raw : Uuid → Option (ZlmStreamIdentity × Int) := fun _ => none

inductive ContinuityAction where
  | streamChanged (body : ZlmStreamChangedHook)
  | reset
  | recordMp4 (body : ZlmRecordMp4Hook)
  | rejected (body : ZlmRecordMp4Hook)
  | elsewhere

def unregistersSource (body : ZlmStreamChangedHook) : Bool :=
  lower body.schema = "rtsp" ∧ body.app = "zero-nvr" ∧ ¬ body.regist

namespace ContinuityWorld

def streamChanged (uuid4 : Supply Uuid) (world : ContinuityWorld) (body : ZlmStreamChangedHook) (now : Int) :
    ContinuityWorld :=
  { world with
    hooks := { world.hooks with
      continuity := ZlmHooks.streamChanged world.hooks.continuity body now (uuid4.next world.issued) }
    clock := now
    issued := uuid4.next world.issued :: world.issued
    unregisters :=
      if unregistersSource body then (⟨body.vhost, body.app, body.stream⟩, now) :: world.unregisters
      else world.unregisters }

def rawStart (env : PrebufferEnv) (body : ZlmRecordMp4Hook) : Int := env.catalog.fromTimestamp body.startTime

def recorded (env : PrebufferEnv) (world : ContinuityWorld) (hooks : HookState) (body : ZlmRecordMp4Hook) (now : Int) :
    ContinuityWorld :=
  { world with
    hooks
    clock := now
    raw := fun id =>
      if (world.hooks.db.segments.get? id).isNone ∧ (hooks.db.segments.get? id).isSome then
        some (ZlmHooks.identityOf body, rawStart env body)
      else world.raw id }

end ContinuityWorld

open ContinuityWorld

/-- Hooks come one after the other, at times that go on; a hook that fails is rolled back, and anything but
    the segments may change in between. -/
inductive ContinuityStep (env : PrebufferEnv) (uuid4 : Supply Uuid) :
    ContinuityWorld → ContinuityAction → ContinuityWorld → Prop
  | streamChanged {world : ContinuityWorld} {body : ZlmStreamChangedHook} {now : Int} : world.clock ≤ now →
      ContinuityStep env uuid4 world (.streamChanged body) (world.streamChanged uuid4 body now)
  | reset {world : ContinuityWorld} {now : Int} : world.clock ≤ now →
      ContinuityStep env uuid4 world .reset
        { world with hooks := { world.hooks with continuity := ZlmContinuityTracker.reset }, clock := now }
  | recordMp4 {world : ContinuityWorld} {body : ZlmRecordMp4Hook} {hooks : HookState} {now : Int} :
      world.clock ≤ now → ZlmHooks.recordMp4 env uuid4 world.hooks body = .ok hooks →
      ContinuityStep env uuid4 world (.recordMp4 body) (world.recorded env hooks body now)
  | rejected {world : ContinuityWorld} {body : ZlmRecordMp4Hook} :
      ContinuityStep env uuid4 world (.rejected body) world
  | elsewhere {world : ContinuityWorld} {db : Database} : db.segments = world.hooks.db.segments →
      ContinuityStep env uuid4 world .elsewhere { world with hooks := { world.hooks with db } }

/-- No unregistration of the stream so far lies between the two starts. -/
def Unbroken (world : ContinuityWorld) (identity : ZlmStreamIdentity) (first second : Int) : Prop :=
  ∀ at_, (identity, at_) ∈ world.unregisters → ¬ (first < at_ ∧ at_ < second)

/-- The segment and the one that supplied its boundary were reported for one stream, in one generation.
    The boundary is where the segment ends. -/
def SameGeneration (world : ContinuityWorld) (row : RecordingSegment) : Prop :=
  ∃ identity start, world.raw row.id = some (identity, start) ∧
    (∃ supplier ∈ world.hooks.db.segments, world.raw supplier.id = some (identity, row.endedAt)) ∧
    Unbroken world identity start row.endedAt

/-- A file is reported after it has started; one that the catalog knows is reported as it was before; and
    the closed generation a hook is matched to had begun when the file started. -/
structure MeetsHook (env : PrebufferEnv) (world : ContinuityWorld) (body : ZlmRecordMp4Hook) (now : Int) : Prop where
  started : rawStart env body ≤ now
  redelivered : ∀ existing, catalogued env.catalog world.hooks.db (ZlmHooks.evidenceOf body) = some existing →
    existing.timingStatus = .provisional →
      world.raw existing.id = some (ZlmHooks.identityOf body, rawStart env body)
  begun : ∀ closed, world.hooks.continuity.closed (ZlmHooks.identityOf body) = some closed →
    world.hooks.continuity.resolvesClosed (ZlmHooks.identityOf body) (rawStart env body) closed = true →
      closed.registeredAt ≤ rawStart env body

def MeetingStep (env : PrebufferEnv) (uuid4 : Supply Uuid) (world : ContinuityWorld) (action : ContinuityAction)
    (world' : ContinuityWorld) : Prop :=
  ContinuityStep env uuid4 world action world' ∧
    ∀ body, action = .recordMp4 body → MeetsHook env world body world'.clock

/-! ## The invariant -/

/-- The latest segment of a generation is stored, and while it is provisional it started in it. -/
structure Latest (world : ContinuityWorld) (identity : ZlmStreamIdentity) (state : ContinuityState) : Prop where
  stored : ∀ id, state.lastSegmentId = some id → ∃ row ∈ world.hooks.db.segments, row.id = id
  within : ∀ row ∈ world.hooks.db.segments, state.lastSegmentId = some row.id → row.timingStatus = .provisional →
    state.registeredAt ≤ row.startedAt ∧ world.raw row.id = some (identity, row.startedAt)

structure ActiveGeneration (world : ContinuityWorld) (identity : ZlmStreamIdentity) (state : ContinuityState) :
    Prop where
  issued : state.continuityId ∈ world.issued
  since : ∀ at_, (identity, at_) ∈ world.unregisters → at_ ≤ state.registeredAt
  latest : Latest world identity state

structure ClosedGeneration (world : ContinuityWorld) (identity : ZlmStreamIdentity) (state : ContinuityState) :
    Prop where
  issued : state.continuityId ∈ world.issued
  between : ∀ closedAt, state.closedAt = some closedAt → closedAt ≤ world.clock ∧
    ∀ at_, (identity, at_) ∈ world.unregisters → at_ ≤ state.registeredAt ∨ closedAt ≤ at_
  latest : Latest world identity state

structure Orderly (world : ContinuityWorld) : Prop where
  past : ∀ identity at_, (identity, at_) ∈ world.unregisters → at_ ≤ world.clock
  provisional : ∀ row ∈ world.hooks.db.segments, row.timingStatus = .provisional →
    ∃ identity, world.raw row.id = some (identity, row.startedAt)
  finalized : ∀ row ∈ world.hooks.db.segments, row.timingSource = .nextSegmentBoundary →
    row.endedAt ≤ world.clock ∧ SameGeneration world row
  active : ∀ identity state, world.hooks.continuity.active identity = some state →
    ActiveGeneration world identity state
  closed : ∀ identity state, world.hooks.continuity.closed identity = some state →
    ClosedGeneration world identity state
  distinct : ∀ identity state other, world.hooks.continuity.active identity = some state →
    world.hooks.continuity.closed identity = some other → state.continuityId ≠ other.continuityId

/-! ## Stream hooks -/

section Stream

variable {world world' : ContinuityWorld} {identity : ZlmStreamIdentity} {state : ContinuityState}

/-- The catalog stays, and time goes on; an unregistration comes in at most now. -/
structure Elapsed (world world' : ContinuityWorld) : Prop where
  segments : world'.hooks.db.segments = world.hooks.db.segments
  raw : world'.raw = world.raw
  clock : world.clock ≤ world'.clock
  issued : ∀ id ∈ world.issued, id ∈ world'.issued
  unregisters : ∀ entry ∈ world'.unregisters, entry ∈ world.unregisters ∨ entry.2 = world'.clock

theorem Elapsed.latest (elapsed : Elapsed world world') (latest : Latest world identity state) :
    Latest world' identity state := by
  refine ⟨fun id isLast => ?_, fun row member isLast provisional => ?_⟩
  · rw [elapsed.segments]
    exact latest.stored id isLast
  · rw [elapsed.segments] at member
    rw [elapsed.raw]
    exact latest.within row member isLast provisional

theorem Elapsed.closed (elapsed : Elapsed world world') (closed : ClosedGeneration world identity state) :
    ClosedGeneration world' identity state := by
  refine ⟨elapsed.issued _ closed.issued, fun closedAt isClosed => ?_, elapsed.latest closed.latest⟩
  obtain ⟨before, between⟩ := closed.between closedAt isClosed
  refine ⟨before.trans elapsed.clock, fun at_ member => ?_⟩
  rcases elapsed.unregisters _ member with old | isNow
  · exact between at_ old
  · exact .inr ((before.trans elapsed.clock).trans (le_of_eq isNow.symm))

/-- The facts about the catalog do not depend on the tracker. -/
theorem Orderly.elapsed (orderly : Orderly world) (elapsed : Elapsed world world')
    (active : ∀ identity state, world'.hooks.continuity.active identity = some state →
      ActiveGeneration world' identity state)
    (closed : ∀ identity state, world'.hooks.continuity.closed identity = some state →
      ClosedGeneration world' identity state)
    (distinct : ∀ identity state other, world'.hooks.continuity.active identity = some state →
      world'.hooks.continuity.closed identity = some other → state.continuityId ≠ other.continuityId) :
    Orderly world' := by
  refine ⟨fun identity at_ member => ?_, fun row member provisional => ?_, fun row member isBoundary => ?_, active,
    closed, distinct⟩
  · rcases elapsed.unregisters _ member with old | isNow
    · exact (orderly.past identity at_ old).trans elapsed.clock
    · exact le_of_eq isNow
  · rw [elapsed.segments] at member
    rw [elapsed.raw]
    exact orderly.provisional row member provisional
  · rw [elapsed.segments] at member
    obtain ⟨ended, identity, start, isRaw, ⟨supplier, isSupplier, supplies⟩, unbroken⟩ :=
      orderly.finalized row member isBoundary
    refine ⟨ended.trans elapsed.clock, identity, start, by rw [elapsed.raw]; exact isRaw, ⟨supplier, ?_, ?_⟩, ?_⟩
    · rw [elapsed.segments]
      exact isSupplier
    · rw [elapsed.raw]
      exact supplies
    · rintro at_ at_member ⟨after, before⟩
      rcases elapsed.unregisters _ at_member with old | isNow
      · exact unbroken at_ old ⟨after, before⟩
      · exact absurd before (not_lt.mpr ((ended.trans elapsed.clock).trans (le_of_eq isNow.symm)))

theorem Orderly.reset (orderly : Orderly world) {now : Int} (later : world.clock ≤ now) :
    Orderly { world with hooks := { world.hooks with continuity := ZlmContinuityTracker.reset }, clock := now } := by
  refine orderly.elapsed ⟨rfl, rfl, later, fun _ member => member, fun _ member => .inl member⟩ ?_ ?_ ?_
  · exact fun _ _ none => by cases none
  · exact fun _ _ none => by cases none
  · exact fun _ _ _ none => by cases none

variable {uuid4 : Supply Uuid} {body : ZlmStreamChangedHook} {now : Int}

theorem elapsed_streamChanged (later : world.clock ≤ now) : Elapsed world (world.streamChanged uuid4 body now) := by
  refine ⟨rfl, rfl, later, fun _ member => List.mem_cons_of_mem _ member, fun entry member => ?_⟩
  unfold ContinuityWorld.streamChanged at member
  dsimp only at member
  split at member
  · rcases List.mem_cons.mp member with rfl | old
    · exact .inr rfl
    · exact .inl old
  · exact .inl member

/-- A generation that stays active was not unregistered. -/
theorem ActiveGeneration.stays (later : world.clock ≤ now) (active : ActiveGeneration world identity state)
    (kept : unregistersSource body = true → identity ≠ ⟨body.vhost, body.app, body.stream⟩) :
    ActiveGeneration (world.streamChanged uuid4 body now) identity state := by
  refine ⟨List.mem_cons_of_mem _ active.issued, fun at_ member => ?_, (elapsed_streamChanged later).latest active.latest⟩
  unfold ContinuityWorld.streamChanged at member
  dsimp only at member
  split at member
  next unregisters =>
    rcases List.mem_cons.mp member with same | old
    · exact absurd (congrArg Prod.fst same) (kept unregisters)
    · exact active.since at_ old
  next => exact active.since at_ member

/-- A hook that leaves the tracker alone, and is no unregistration of an active stream. -/
theorem Orderly.untracked (orderly : Orderly world) (later : world.clock ≤ now)
    (same : (world.streamChanged uuid4 body now).hooks.continuity = world.hooks.continuity)
    (inactive : unregistersSource body = true →
      world.hooks.continuity.active ⟨body.vhost, body.app, body.stream⟩ = none) :
    Orderly (world.streamChanged uuid4 body now) := by
  have elapsed := @elapsed_streamChanged world uuid4 body now later
  refine orderly.elapsed elapsed ?_ ?_ ?_
  · intro identity state isActive
    rw [same] at isActive
    refine (orderly.active identity state isActive).stays later fun unregisters isBody => ?_
    rw [isBody, inactive unregisters] at isActive
    cases isActive
  · intro identity state isClosed
    rw [same] at isClosed
    exact elapsed.closed (orderly.closed identity state isClosed)
  · intro identity state other isActive isClosed
    rw [same] at isActive isClosed
    exact orderly.distinct identity state other isActive isClosed

/-- A new generation: nothing has happened in it. -/
theorem Orderly.registered (orderly : Orderly world) (later : world.clock ≤ now)
    (registers : unregistersSource body ≠ true)
    (tracker : (world.streamChanged uuid4 body now).hooks.continuity = world.hooks.continuity.withActive
      ⟨body.vhost, body.app, body.stream⟩ { continuityId := uuid4.next world.issued, registeredAt := now }) :
    Orderly (world.streamChanged uuid4 body now) := by
  have elapsed := @elapsed_streamChanged world uuid4 body now later
  have sameUnregisters : (world.streamChanged uuid4 body now).unregisters = world.unregisters := if_neg registers
  refine orderly.elapsed elapsed ?_ ?_ ?_
  · intro identity state isActive
    rw [tracker, ZlmContinuityTracker.withActive_active] at isActive
    split at isActive
    next isBody =>
      cases isActive
      refine ⟨List.mem_cons_self, fun at_ member => ?_, ⟨fun id isLast => ?_, fun row _ isLast => ?_⟩⟩
      · rw [sameUnregisters] at member
        exact (orderly.past identity at_ member).trans later
      · cases isLast
      · cases isLast
    next => exact (orderly.active identity state isActive).stays later fun unregisters => absurd unregisters registers
  · intro identity state isClosed
    rw [tracker] at isClosed
    exact elapsed.closed (orderly.closed identity state isClosed)
  · intro identity state other isActive isClosed
    rw [tracker, ZlmContinuityTracker.withActive_active] at isActive
    rw [tracker, ZlmContinuityTracker.withActive_closed] at isClosed
    split at isActive
    next =>
      cases isActive
      intro same
      have issued := (orderly.closed identity other isClosed).issued
      rw [← same] at issued
      exact uuid4.fresh _ issued
    next => exact orderly.distinct identity state other isActive isClosed

/-- The active generation is closed now: nothing unregistered it before. -/
theorem Orderly.unregistered (orderly : Orderly world) (later : world.clock ≤ now) {current : ContinuityState}
    (isCurrent : world.hooks.continuity.active ⟨body.vhost, body.app, body.stream⟩ = some current)
    (active : ∀ other, (world.streamChanged uuid4 body now).hooks.continuity.active other =
      if other = ⟨body.vhost, body.app, body.stream⟩ then none else world.hooks.continuity.active other)
    (closed : ∀ other, (world.streamChanged uuid4 body now).hooks.continuity.closed other =
      if other = ⟨body.vhost, body.app, body.stream⟩ then some { current with closedAt := some now }
      else world.hooks.continuity.closed other) :
    Orderly (world.streamChanged uuid4 body now) := by
  have elapsed := @elapsed_streamChanged world uuid4 body now later
  refine orderly.elapsed elapsed ?_ ?_ ?_
  · intro identity state isActive
    rw [active] at isActive
    split at isActive
    next => cases isActive
    next differs => exact (orderly.active identity state isActive).stays later fun _ => differs
  · intro identity state isClosed
    rw [closed] at isClosed
    split at isClosed
    next isBody =>
      cases isClosed
      have generation := orderly.active _ _ isCurrent
      rw [← isBody] at generation
      refine ⟨List.mem_cons_of_mem _ generation.issued, fun closedAt isNow => ?_, ?_⟩
      · cases isNow
        refine ⟨le_refl _, fun at_ member => ?_⟩
        rcases elapsed.unregisters _ member with old | isNow
        · exact .inl (generation.since at_ old)
        · exact .inr (le_of_eq isNow.symm)
      · have latest := elapsed.latest generation.latest
        exact ⟨latest.stored, latest.within⟩
    next => exact elapsed.closed (orderly.closed identity state isClosed)
  · intro identity state other isActive isClosed
    rw [active] at isActive
    rw [closed] at isClosed
    split at isActive
    next => cases isActive
    next differs =>
      rw [if_neg differs] at isClosed
      exact orderly.distinct identity state other isActive isClosed

theorem Orderly.streamChanged (orderly : Orderly world) (later : world.clock ≤ now) :
    Orderly (world.streamChanged uuid4 body now) := by
  by_cases isSource : lower body.schema ≠ "rtsp" ∨ body.app ≠ "zero-nvr"
  · refine orderly.untracked later (if_pos isSource) fun unregisters => ?_
    obtain ⟨isRtsp, isApp, _⟩ := of_decide_eq_true unregisters
    rcases isSource with differs | differs
    · exact absurd isRtsp differs
    · exact absurd isApp differs
  · cases regist : body.regist with
    | true =>
      have registers : unregistersSource body ≠ true := fun unregisters => (of_decide_eq_true unregisters).2.2 regist
      have tracker : (world.streamChanged uuid4 body now).hooks.continuity = _ :=
        (if_neg isSource).trans (if_pos regist)
      rcases ZlmContinuityTracker.registered_cases with same | ⟨_, new⟩
      · exact orderly.untracked later (tracker.trans same) fun unregisters => absurd unregisters registers
      · exact orderly.registered later registers (tracker.trans new)
    | false =>
      have tracker : (world.streamChanged uuid4 body now).hooks.continuity = _ :=
        (if_neg isSource).trans (if_neg (by rw [regist]; exact Bool.false_ne_true))
      rcases ZlmContinuityTracker.unregistered_cases with ⟨inactive, same⟩ | ⟨current, isCurrent, active, closed⟩
      · exact orderly.untracked later (tracker.trans same) fun _ => inactive
      · refine orderly.unregistered later isCurrent (fun other => ?_) fun other => ?_
        · rw [tracker]
          exact active other
        · rw [tracker]
          exact closed other

end Stream

/-! ## Record hooks -/

section Record

variable {world : ContinuityWorld} {hooks : HookState} {body : ZlmRecordMp4Hook} {now : Int}
  {identity : ZlmStreamIdentity} {state : ContinuityState}

/-- A segment that was there keeps what it was first reported under. -/
theorem recorded_raw_old {row : RecordingSegment} (member : row ∈ world.hooks.db.segments) :
    (world.recorded env hooks body now).raw row.id = world.raw row.id := by
  have found : world.hooks.db.segments.get? row.id = some row := Table.get?_of_mem member
  unfold ContinuityWorld.recorded
  dsimp only
  rw [found]
  exact if_neg fun both => by cases both.1

theorem recorded_raw_new {row : RecordingSegment} (fresh : ∀ old ∈ world.hooks.db.segments, old.id ≠ row.id)
    (member : row ∈ hooks.db.segments) :
    (world.recorded env hooks body now).raw row.id = some (ZlmHooks.identityOf body, rawStart env body) := by
  have absent : world.hooks.db.segments.get? row.id = none := Table.get?_eq_none_iff.mpr fresh
  have found : hooks.db.segments.get? row.id = some row := Table.get?_of_mem member
  unfold ContinuityWorld.recorded
  dsimp only
  rw [absent, found]
  exact if_pos ⟨rfl, rfl⟩

variable {previousId : Option Uuid} {new : Option RecordingSegment}

/-- What was known of a generation stays known. -/
theorem Latest.recorded (latest : Latest world identity state)
    (recorded : Recorded world.hooks.db hooks.db previousId (rawStart env body) new) :
    Latest (world.recorded env hooks body now) identity state := by
  refine ⟨fun id isLast => ?_, fun row member isLast provisional => ?_⟩
  · obtain ⟨old, oldMember, rfl⟩ := latest.stored id isLast
    exact recorded.persists old oldMember
  · cases recorded.rows row member with
    | @kept old oldMember same =>
      rw [same.id] at isLast
      rw [same.timingStatus] at provisional
      rw [same.startedAt, same.id, recorded_raw_old oldMember]
      exact latest.within old oldMember isLast provisional
    | finalized _ _ _ _ same _ =>
      rw [same.timingStatus] at provisional
      cases provisional
    | created isNew same =>
      obtain ⟨old, oldMember, isOld⟩ := latest.stored _ isLast
      exact absurd (isOld.trans same.id) ((recorded.created _ isNew).2.2.2.2 old oldMember)

theorem mem_segment_unique {row other : RecordingSegment} (member : row ∈ db.segments) (otherMember : other ∈ db.segments)
    (same : row.id = other.id) : row = other := Table.eq_of_key_eq member otherMember same

/-- The generation a hook is matched to had begun, and no unregistration lies in it up to the hook. -/
structure Matched (world : ContinuityWorld) (identity : ZlmStreamIdentity) (start : Int) (state : ContinuityState) :
    Prop where
  begun : state.registeredAt ≤ start
  unbroken : Unbroken world identity state.registeredAt start
  latest : Latest world identity state

theorem Orderly.matched (orderly : Orderly world) (meets : MeetsHook env world body now)
    {resolved : ZlmContinuityResolution}
    (isResolved : world.hooks.continuity.resolveRecord (ZlmHooks.identityOf body) (rawStart env body) = some resolved) :
    ∃ state, resolved = ZlmContinuityTracker.resolution state ∧
      Matched world (ZlmHooks.identityOf body) (rawStart env body) state ∧
      ((world.hooks.continuity.closed (ZlmHooks.identityOf body) = some state) ∨
        world.hooks.continuity.active (ZlmHooks.identityOf body) = some state) := by
  rcases ZlmContinuityTracker.resolveRecord_cases isResolved with ⟨closed, isClosed, resolves, rfl⟩ |
    ⟨active, isActive, begun, rfl⟩
  · obtain ⟨closedAt, hasClosed, before, _⟩ := ZlmContinuityTracker.resolvesClosed_iff.mp resolves
    have generation := orderly.closed _ closed isClosed
    have begun := meets.begun closed isClosed resolves
    refine ⟨closed, rfl, ⟨begun, ?_, generation.latest⟩, .inl isClosed⟩
    rintro at_ member ⟨after, beforeStart⟩
    rcases (generation.between closedAt hasClosed).2 at_ member with early | late
    · exact absurd after (not_lt.mpr early)
    · exact absurd (beforeStart.trans_le (before.trans late)) (lt_irrefl _)
  · have generation := orderly.active _ active isActive
    refine ⟨active, rfl, ⟨begun, ?_, generation.latest⟩, .inr isActive⟩
    rintro at_ member ⟨after, _⟩
    exact absurd after (not_lt.mpr (generation.since at_ member))

/-- The generation that remembers the segment of the hook. -/
theorem Latest.remembering (orderly : Orderly world) (meets : MeetsHook env world body now)
    (begun : state.registeredAt ≤ rawStart env body) {resolution : Option ZlmContinuityResolution}
    {segment : RecordingSegment} (reported : Reported env world.hooks hooks body resolution new segment) :
    Latest (world.recorded env hooks body now) (ZlmHooks.identityOf body)
      (state.remembering segment.id segment.startedAt) := by
  rcases reported.source with isNew | ⟨noNew, isKnown⟩
  · obtain ⟨⟨stored, storedMember, sameStored⟩, _, _, startedAt, fresh⟩ := reported.recorded.created segment isNew
    refine ⟨fun id isLast => ?_, fun row member isLast _ => ?_⟩
    · cases isLast
      exact ⟨stored, storedMember, sameStored.id⟩
    · have isSegment : segment.id = row.id := Option.some.inj isLast
      have isStored : row = stored :=
        mem_segment_unique member storedMember (isSegment.symm.trans sameStored.id.symm)
      have start : row.startedAt = rawStart env body := by
        rw [isStored, sameStored.startedAt, startedAt]
        rfl
      have freshRow : ∀ old ∈ world.hooks.db.segments, old.id ≠ row.id := by
        rw [← isSegment]
        exact fresh
      rw [start]
      exact ⟨begun, recorded_raw_new freshRow member⟩
  · have segmentMember := catalogued_member isKnown
    refine ⟨fun id isLast => ?_, fun row member isLast provisional => ?_⟩
    · cases isLast
      exact reported.recorded.persists segment segmentMember
    · have isSegment : segment.id = row.id := Option.some.inj isLast
      cases reported.recorded.rows row member with
      | @kept old oldMember same =>
        obtain rfl : old = segment := mem_segment_unique oldMember segmentMember (same.id.symm.trans isSegment.symm)
        rw [same.timingStatus] at provisional
        have again := meets.redelivered old isKnown provisional
        obtain ⟨_, isRaw⟩ := orderly.provisional old oldMember provisional
        have start : old.startedAt = rawStart env body := by
          rw [again] at isRaw
          exact (congrArg Prod.snd (Option.some.inj isRaw)).symm
        rw [same.startedAt, same.id, recorded_raw_old oldMember, again, start]
        exact ⟨begun, rfl⟩
      | finalized _ _ _ _ _ isNew =>
        rw [noNew] at isNew
        cases isNew
      | created isNew _ =>
        rw [noNew] at isNew
        cases isNew

theorem ActiveGeneration.recorded (active : ActiveGeneration world identity state)
    (recorded : Recorded world.hooks.db hooks.db previousId (rawStart env body) new) :
    ActiveGeneration (world.recorded env hooks body now) identity state :=
  ⟨active.issued, active.since, active.latest.recorded recorded⟩

theorem ClosedGeneration.recorded (closed : ClosedGeneration world identity state) (later : world.clock ≤ now)
    (recorded : Recorded world.hooks.db hooks.db previousId (rawStart env body) new) :
    ClosedGeneration (world.recorded env hooks body now) identity state := by
  refine ⟨closed.issued, fun closedAt isClosed => ?_, closed.latest.recorded recorded⟩
  obtain ⟨before, between⟩ := closed.between closedAt isClosed
  exact ⟨before.trans later, between⟩

/-- A segment that ends at a boundary does so in its generation. -/
theorem Orderly.finalized_recorded (orderly : Orderly world) (later : world.clock ≤ now)
    (meets : MeetsHook env world body now) {segment : RecordingSegment}
    (reported : Reported env world.hooks hooks body
      (world.hooks.continuity.resolveRecord (ZlmHooks.identityOf body) (rawStart env body)) new segment)
    {row : RecordingSegment} (member : row ∈ hooks.db.segments) (isBoundary : row.timingSource = .nextSegmentBoundary) :
    row.endedAt ≤ now ∧ SameGeneration (world.recorded env hooks body now) row := by
  cases reported.recorded.rows row member with
  | @kept old oldMember same =>
    rw [same.timingSource] at isBoundary
    obtain ⟨ended, identity, start, isRaw, ⟨supplier, isSupplier, supplies⟩, unbroken⟩ :=
      orderly.finalized old oldMember isBoundary
    obtain ⟨stored, storedMember, sameId⟩ := reported.recorded.persists supplier isSupplier
    rw [same.endedAt]
    refine ⟨ended.trans later, identity, start, ?_, ⟨stored, storedMember, ?_⟩, ?_⟩
    · rw [same.id, recorded_raw_old oldMember, isRaw]
    · rw [sameId, recorded_raw_old isSupplier, supplies, same.endedAt]
    · rw [same.endedAt]
      exact unbroken
  | @finalized old oldMember isPrevious provisional _ same isNew =>
    obtain ⟨resolved, isResolved, isLast⟩ := Option.bind_eq_some_iff.mp isPrevious
    obtain ⟨state, rfl, matched, _⟩ := orderly.matched meets isResolved
    obtain ⟨inGeneration, isRaw⟩ := matched.latest.within old oldMember isLast provisional
    obtain ⟨new, rfl⟩ := Option.isSome_iff_exists.mp isNew
    obtain ⟨⟨stored, storedMember, sameStored⟩, _, _, startedAt, fresh⟩ := reported.recorded.created new rfl
    have ended : row.endedAt = rawStart env body := same.endedAt
    have freshStored : ∀ other ∈ world.hooks.db.segments, other.id ≠ stored.id := by
      rw [sameStored.id]
      exact fresh
    have sameId : row.id = old.id := same.id
    rw [ended]
    refine ⟨meets.started, ZlmHooks.identityOf body, old.startedAt, ?_, ⟨stored, storedMember, ?_⟩, ?_⟩
    · rw [sameId, recorded_raw_old oldMember, isRaw]
    · rw [recorded_raw_new freshStored storedMember, ended]
    · rw [ended]
      rintro at_ at_member ⟨after, before⟩
      exact matched.unbroken at_ at_member ⟨lt_of_le_of_lt inGeneration after, before⟩
  | created isNew same =>
    rw [same.timingSource, (reported.recorded.created _ isNew).2.2.1] at isBoundary
    cases isBoundary

theorem Orderly.provisional_recorded (orderly : Orderly world)
    (recorded : Recorded world.hooks.db hooks.db previousId (rawStart env body) new)
    {row : RecordingSegment} (member : row ∈ hooks.db.segments) (provisional : row.timingStatus = .provisional) :
    ∃ identity, (world.recorded env hooks body now).raw row.id = some (identity, row.startedAt) := by
  cases recorded.rows row member with
  | @kept old oldMember same =>
    rw [same.timingStatus] at provisional
    rw [same.id, same.startedAt, recorded_raw_old oldMember]
    exact orderly.provisional old oldMember provisional
  | finalized _ _ _ _ same _ =>
    rw [same.timingStatus] at provisional
    cases provisional
  | @created segment isNew same =>
    obtain ⟨_, _, _, startedAt, fresh⟩ := recorded.created segment isNew
    have freshRow : ∀ old ∈ world.hooks.db.segments, old.id ≠ row.id := by
      rw [same.id]
      exact fresh
    rw [same.startedAt, startedAt]
    exact ⟨_, recorded_raw_new freshRow member⟩

/-- The generation that remembers the segment is the one the hook is matched to. -/
theorem Orderly.tracker_recorded (orderly : Orderly world) (meets : MeetsHook env world body now)
    {segment : RecordingSegment}
    (reported : Reported env world.hooks hooks body
      (world.hooks.continuity.resolveRecord (ZlmHooks.identityOf body) (rawStart env body)) new segment) :
    hooks.continuity = world.hooks.continuity ∨ ∃ state, state.registeredAt ≤ rawStart env body ∧
      ((world.hooks.continuity.active (ZlmHooks.identityOf body) = some state ∧
          hooks.continuity = world.hooks.continuity.withActive (ZlmHooks.identityOf body)
            (state.remembering segment.id segment.startedAt)) ∨
        (world.hooks.continuity.closed (ZlmHooks.identityOf body) = some state ∧
          hooks.continuity = world.hooks.continuity.withClosed (ZlmHooks.identityOf body)
            (state.remembering segment.id segment.startedAt))) := by
  have tracker := reported.tracker
  cases isResolved : world.hooks.continuity.resolveRecord (ZlmHooks.identityOf body) (rawStart env body) with
  | none =>
    rw [isResolved] at tracker
    exact .inl tracker
  | some resolved =>
    rw [isResolved] at tracker
    unfold remembering at tracker
    dsimp only at tracker
    obtain ⟨state, rfl, matched, known⟩ := orderly.matched meets isResolved
    generalize isRemembered : world.hooks.continuity.rememberSegment (ZlmHooks.identityOf body)
      (ZlmContinuityTracker.resolution state).continuityId segment.id segment.startedAt = remembered at tracker
    obtain ⟨tracker', remembers⟩ := remembered
    dsimp only at tracker
    rcases ZlmContinuityTracker.rememberSegment_cases isRemembered with ⟨same, _⟩ |
      ⟨_, ⟨active, isActive, sameId, isTracker⟩ | ⟨closed, isClosed, sameId, others, isTracker⟩⟩
    · exact .inl (tracker.trans same)
    · refine .inr ⟨active, ?_, .inl ⟨isActive, tracker.trans isTracker⟩⟩
      rcases known with isClosed | isState
      · exact absurd sameId (orderly.distinct _ active state isActive isClosed)
      · rw [isActive] at isState
        cases isState
        exact matched.begun
    · refine .inr ⟨closed, ?_, .inr ⟨isClosed, tracker.trans isTracker⟩⟩
      rcases known with isState | isActive
      · rw [isClosed] at isState
        cases isState
        exact matched.begun
      · exact absurd rfl (others state isActive)

/-- A hook that leaves catalog and tracker reports no start. -/
theorem raw_of_same_db (sameDb : hooks.db = world.hooks.db) : (world.recorded env hooks body now).raw = world.raw := by
  funext id
  unfold ContinuityWorld.recorded
  dsimp only
  rw [sameDb]
  refine if_neg fun both => ?_
  obtain ⟨absent, present⟩ := both
  rw [Option.isNone_iff_eq_none] at absent
  rw [absent] at present
  cases present

theorem Orderly.ignored (orderly : Orderly world) (later : world.clock ≤ now) (sameDb : hooks.db = world.hooks.db)
    (sameTracker : hooks.continuity = world.hooks.continuity) : Orderly (world.recorded env hooks body now) := by
  have elapsed : Elapsed world (world.recorded env hooks body now) := by
    refine ⟨?_, raw_of_same_db sameDb, later, fun _ member => member, fun _ member => .inl member⟩
    exact congrArg Database.segments sameDb
  refine orderly.elapsed elapsed ?_ ?_ ?_
  · intro identity state isActive
    have active := orderly.active identity state (by rw [← sameTracker]; exact isActive)
    exact ⟨active.issued, active.since, elapsed.latest active.latest⟩
  · intro identity state isClosed
    exact elapsed.closed (orderly.closed identity state (by rw [← sameTracker]; exact isClosed))
  · intro identity state other isActive isClosed
    exact orderly.distinct identity state other (by rw [← sameTracker]; exact isActive)
      (by rw [← sameTracker]; exact isClosed)

theorem Orderly.recorded (orderly : Orderly world) (later : world.clock ≤ now) (meets : MeetsHook env world body now)
    (done : ZlmHooks.recordMp4 env uuid4 world.hooks body = .ok hooks) :
    Orderly (world.recorded env hooks body now) := by
  rcases recordMp4_cases done with ⟨sameDb, sameTracker⟩ | ⟨new, segment, reported⟩
  · exact orderly.ignored later sameDb sameTracker
  · have recorded := reported.recorded
    have remembering {state : ContinuityState} (begun : state.registeredAt ≤ rawStart env body) :=
      Latest.remembering orderly meets begun reported
    refine ⟨fun identity at_ member => (orderly.past identity at_ member).trans later,
      fun row member provisional => orderly.provisional_recorded recorded member provisional,
      fun row member isBoundary => orderly.finalized_recorded later meets reported member isBoundary, ?_, ?_, ?_⟩
    all_goals rcases orderly.tracker_recorded meets reported with
      same | ⟨current, begun, ⟨isCurrent, tracker⟩ | ⟨isCurrent, tracker⟩⟩
    -- The generations that are active.
    · intro identity state isActive
      exact (orderly.active identity state (by rw [← same]; exact isActive)).recorded recorded
    · intro identity state isActive
      change hooks.continuity.active identity = some state at isActive
      rw [tracker, ZlmContinuityTracker.withActive_active] at isActive
      split at isActive
      next isBody =>
        cases isActive
        subst isBody
        have active := orderly.active _ current isCurrent
        exact ⟨active.issued, active.since, remembering begun⟩
      next => exact (orderly.active identity state isActive).recorded recorded
    · intro identity state isActive
      change hooks.continuity.active identity = some state at isActive
      rw [tracker, ZlmContinuityTracker.withClosed_active] at isActive
      exact (orderly.active identity state isActive).recorded recorded
    -- The generations that are closed.
    · intro identity state isClosed
      exact (orderly.closed identity state (by rw [← same]; exact isClosed)).recorded later recorded
    · intro identity state isClosed
      change hooks.continuity.closed identity = some state at isClosed
      rw [tracker, ZlmContinuityTracker.withActive_closed] at isClosed
      exact (orderly.closed identity state isClosed).recorded later recorded
    · intro identity state isClosed
      change hooks.continuity.closed identity = some state at isClosed
      rw [tracker, ZlmContinuityTracker.withClosed_closed] at isClosed
      split at isClosed
      next isBody =>
        cases isClosed
        subst isBody
        have closed := (orderly.closed _ current isCurrent).recorded later recorded
        exact ⟨closed.issued, closed.between, remembering begun⟩
      next => exact (orderly.closed identity state isClosed).recorded later recorded
    -- Their ids stay.
    · intro identity state other isActive isClosed
      exact orderly.distinct identity state other (by rw [← same]; exact isActive) (by rw [← same]; exact isClosed)
    · intro identity state other isActive isClosed
      change hooks.continuity.active identity = some state at isActive
      change hooks.continuity.closed identity = some other at isClosed
      rw [tracker, ZlmContinuityTracker.withActive_active] at isActive
      rw [tracker, ZlmContinuityTracker.withActive_closed] at isClosed
      split at isActive
      next isBody =>
        cases isActive
        subst isBody
        exact orderly.distinct _ current other isCurrent isClosed
      next => exact orderly.distinct identity state other isActive isClosed
    · intro identity state other isActive isClosed
      change hooks.continuity.active identity = some state at isActive
      change hooks.continuity.closed identity = some other at isClosed
      rw [tracker, ZlmContinuityTracker.withClosed_active] at isActive
      rw [tracker, ZlmContinuityTracker.withClosed_closed] at isClosed
      split at isClosed
      next isBody =>
        cases isClosed
        subst isBody
        exact orderly.distinct _ state current isActive isCurrent
      next => exact orderly.distinct identity state other isActive isClosed

end Record

/-! ## Every run -/

section Steps

variable {world world' : ContinuityWorld} {action : ContinuityAction}

theorem Orderly.elsewhere (orderly : Orderly world) (same : db.segments = world.hooks.db.segments) :
    Orderly { world with hooks := { world.hooks with db } } := by
  have elapsed : Elapsed world { world with hooks := { world.hooks with db } } :=
    ⟨same, rfl, le_refl _, fun _ member => member, fun _ member => .inl member⟩
  refine orderly.elapsed elapsed ?_ ?_ orderly.distinct
  · intro identity state isActive
    have active := orderly.active identity state isActive
    exact ⟨active.issued, active.since, elapsed.latest active.latest⟩
  · intro identity state isClosed
    exact elapsed.closed (orderly.closed identity state isClosed)

theorem Orderly.step (orderly : Orderly world) (step : MeetingStep env uuid4 world action world') : Orderly world' := by
  obtain ⟨step, meets⟩ := step
  cases step with
  | streamChanged later => exact orderly.streamChanged later
  | reset later => exact orderly.reset later
  | recordMp4 later done => exact orderly.recorded later (meets _ rfl) done
  | rejected => exact orderly
  | elsewhere same => exact orderly.elsewhere same

theorem orderly_start (noSegments : world.hooks.db.segments = Table.empty) (untracked : world.hooks.continuity = {})
    (noUnregisters : world.unregisters = []) : Orderly world := by
  refine ⟨?_, ?_, ?_, ?_, ?_, ?_⟩
  · intro identity at_ member
    rw [noUnregisters] at member
    cases member
  · intro row member
    rw [noSegments] at member
    cases member
  · intro row member
    rw [noSegments] at member
    cases member
  · intro identity state isActive
    rw [untracked] at isActive
    cases isActive
  · intro identity state isClosed
    rw [untracked] at isClosed
    cases isClosed
  · intro identity state other isActive
    rw [untracked] at isActive
    cases isActive

end Steps

/-- Where every hook is matched to a generation that had begun when its file started, a boundary never ends
    a segment of an older generation. -/
theorem boundary_in_generation {start world : ContinuityWorld} {actions : List ContinuityAction}
    (noSegments : start.hooks.db.segments = Table.empty) (untracked : start.hooks.continuity = {})
    (noUnregisters : start.unregisters = []) (run : Run (MeetingStep env uuid4) start actions world) :
    ∀ row ∈ world.hooks.db.segments, row.timingSource = .nextSegmentBoundary → SameGeneration world row := by
  have orderly : Orderly world :=
    run.invariant (fun _ _ _ orderly step => orderly.step step) (orderly_start noSegments untracked noUnregisters)
  exact fun row member isBoundary => (orderly.finalized row member isBoundary).2

/-! A file of the first generation is reported when the second one has closed. -/

def sourceHook (regist : Bool) : ZlmStreamChangedHook :=
  { vhost := "", app := "zero-nvr", stream := "profile-1", schema := "rtsp", regist }

def lateHook : ZlmRecordMp4Hook := recordHook 5 "first.mp4" hookLength_positive
def boundaryHook : ZlmRecordMp4Hook := recordHook 25 "second.mp4" (by norm_num)

def plainWorld : ContinuityWorld := { hooks := { db := plainStart }, clock := 0 }

def twoGenerations : ContinuityWorld :=
  (((plainWorld.streamChanged .counting (sourceHook true) 0).streamChanged .counting (sourceHook false)
    10000000).streamChanged .counting (sourceHook true) 20000000).streamChanged .counting (sourceHook false) 30000000

/-- The hooks after a delivery that does not fail. -/
def delivered (hooks : HookState) (body : ZlmRecordMp4Hook) : HookState :=
  (ZlmHooks.recordMp4 plainPrebuffer .counting hooks body).toOption.getD hooks

def lateDelivered : HookState := delivered twoGenerations.hooks lateHook
def boundaryDelivered : HookState := delivered lateDelivered boundaryHook

def lateWorld : ContinuityWorld := twoGenerations.recorded plainPrebuffer lateDelivered lateHook 31000000

/-- The stream was unregistered at 10 s, between the two files at 5 s and at 25 s. -/
theorem boundary_crosses_loss : ∃ actions world,
    Run (ContinuityStep plainPrebuffer .counting) plainWorld actions world ∧
      ∃ row ∈ world.hooks.db.segments, row.timingSource = .nextSegmentBoundary ∧ ¬ SameGeneration world row := by
  have late : ZlmHooks.recordMp4 plainPrebuffer .counting twoGenerations.hooks lateHook = .ok lateDelivered := rfl
  have boundary : ZlmHooks.recordMp4 plainPrebuffer .counting lateDelivered boundaryHook = .ok boundaryDelivered := rfl
  refine ⟨[.streamChanged (sourceHook true), .streamChanged (sourceHook false), .streamChanged (sourceHook true),
    .streamChanged (sourceHook false), .recordMp4 lateHook, .recordMp4 boundaryHook],
    lateWorld.recorded plainPrebuffer boundaryDelivered boundaryHook 32000000,
    .next (.streamChanged (by decide)) (.next (.streamChanged (by decide)) (.next (.streamChanged (by decide))
      (.next (.streamChanged (by decide)) (.next (.recordMp4 (by decide) late)
        (.next (.recordMp4 (by decide) boundary) (.done _)))))), ?_⟩
  have ends : ∃ row ∈ boundaryDelivered.db.segments.rows, row.id = 1 ∧ row.timingSource = .nextSegmentBoundary ∧
      row.endedAt = 25000000 := by decide
  obtain ⟨row, member, isFirst, isBoundary, ended⟩ := ends
  refine ⟨row, member, isBoundary, fun ⟨identity, start, isRaw, _, unbroken⟩ => ?_⟩
  have reportedFirst : (lateWorld.recorded plainPrebuffer boundaryDelivered boundaryHook 32000000).raw 1 =
      some (ZlmHooks.identityOf lateHook, 5000000) := rfl
  rw [isFirst, reportedFirst] at isRaw
  cases isRaw
  refine unbroken 10000000 ?_ ⟨by decide, by rw [ended]; decide⟩
  exact List.mem_cons_of_mem _ List.mem_cons_self

def registered : ContinuityWorld := plainWorld.streamChanged .counting (sourceHook true) 0
def firstDelivered : HookState := delivered registered.hooks firstHook
def first : ContinuityWorld := registered.recorded plainPrebuffer firstDelivered firstHook 20000000
def secondDelivered : HookState := delivered firstDelivered secondHook
def second : ContinuityWorld := first.recorded plainPrebuffer secondDelivered secondHook 30000000

/-- With the generations in order, the second file of the one that is active ends the first. -/
theorem boundary_in_generation_two_files : ∃ world,
    Run (MeetingStep plainPrebuffer .counting) plainWorld
      [.streamChanged (sourceHook true), .recordMp4 firstHook, .recordMp4 secondHook] world ∧
    (∃ row ∈ world.hooks.db.segments, row.timingSource = .nextSegmentBoundary) ∧
    ∀ row ∈ world.hooks.db.segments, row.timingSource = .nextSegmentBoundary → SameGeneration world row := by
  have firstDone : ZlmHooks.recordMp4 plainPrebuffer .counting registered.hooks firstHook = .ok firstDelivered := rfl
  have secondDone : ZlmHooks.recordMp4 plainPrebuffer .counting firstDelivered secondHook = .ok secondDelivered := rfl
  have meetsFirst : MeetsHook plainPrebuffer registered firstHook 20000000 := by
    refine ⟨by decide, fun existing isKnown => ?_, fun closed isClosed => by cases isClosed⟩
    have unknown : catalogued plainPrebuffer.catalog registered.hooks.db (ZlmHooks.evidenceOf firstHook) = none := rfl
    rw [unknown] at isKnown
    cases isKnown
  have meetsSecond : MeetsHook plainPrebuffer first secondHook 30000000 := by
    refine ⟨by decide, fun existing isKnown => ?_, fun closed isClosed => by cases isClosed⟩
    have unknown : catalogued plainPrebuffer.catalog first.hooks.db (ZlmHooks.evidenceOf secondHook) = none := rfl
    rw [unknown] at isKnown
    cases isKnown
  have run : Run (MeetingStep plainPrebuffer .counting) plainWorld
      [.streamChanged (sourceHook true), .recordMp4 firstHook, .recordMp4 secondHook] second := by
    refine .next ⟨.streamChanged (by decide), fun _ none => by cases none⟩ (.next ⟨.recordMp4 (by decide) firstDone, ?_⟩
      (.next ⟨.recordMp4 (by decide) secondDone, ?_⟩ (.done _)))
    · rintro body ⟨⟩
      exact meetsFirst
    · rintro body ⟨⟩
      exact meetsSecond
  have ends : ∃ row ∈ secondDelivered.db.segments.rows, row.timingSource = .nextSegmentBoundary := by decide
  exact ⟨second, run, ends, boundary_in_generation rfl rfl rfl run⟩

end ZeroNvr.BoundaryGenerations
