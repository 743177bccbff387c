import ZeroNvr.Cameras.CapabilityHealth
import ZeroNvr.Lib.Run
import ZeroNvr.Verified.IngestionTiming

/-! # Recording health and generations

The recording layer rests on one observation.  The hooks and rebuilds that bring it
are followed beside it: what it was made from, and when the stream was lost last.
-/

namespace ZeroNvr

open Lib
open CameraCapabilityHealthService (HealthSubject recordingLayer observedRecording sameGeneration)
open ZlmHooks (profileOf streamChangedHealth serverStartedHealth recordMp4Finalized finalizedHealth identityOf)
open ZlmRuntimeObservationService (streamOf observeProfile createdAt rebuild)

namespace RecordingHealth

/-! ## Generations -/

/-- No two generations of a tracker have one id, and all ids have been issued. -/
structure Generations (tracker : ZlmContinuityTracker) (issued : List Uuid) : Prop where
  activeIssued : ∀ identity state, tracker.active identity = some state → state.continuityId ∈ issued
  closedIssued : ∀ identity state, tracker.closed identity = some state → state.continuityId ∈ issued
  distinct : ∀ identity other state state', tracker.active identity = some state → tracker.active other = some state' →
    state.continuityId = state'.continuityId → identity = other
  closedDistinct : ∀ identity other state state', tracker.closed identity = some state → tracker.active other = some state' →
    state.continuityId ≠ state'.continuityId

section
variable {tracker tracker' : ZlmContinuityTracker} {identity : ZlmStreamIdentity} {issued : List Uuid}

/-- A stream that is registered has a generation, whose id is answered: the one there was, or a new one. -/
theorem registered_spec (tracker : ZlmContinuityTracker) (identity : ZlmStreamIdentity) (at_ : Int) (newId : Uuid) :
    ∃ state, (tracker.registered identity at_ newId).2 = state.continuityId ∧
      (tracker.registered identity at_ newId).1.closed = tracker.closed ∧
      (∀ other, (tracker.registered identity at_ newId).1.active other =
        if other = identity then some state else tracker.active other) ∧
      (tracker.active identity = some state ∨
        tracker.active identity = none ∧ state = { continuityId := newId, registeredAt := at_ }) := by
  rw [ZlmContinuityTracker.registered]
  cases found : tracker.active identity with
  | some state =>
    refine ⟨state, rfl, rfl, fun other => ?_, .inl rfl⟩
    by_cases same : other = identity
    · rw [if_pos same, same]
      exact found
    · rw [if_neg same]
  | none => exact ⟨_, rfl, rfl, fun other => Function.update_apply _ _ _ _, .inr ⟨rfl, rfl⟩⟩

/-- A stream that is unregistered has no generation; the one there was is closed, and its id is answered. -/
theorem unregistered_spec (tracker : ZlmContinuityTracker) (identity : ZlmStreamIdentity) (at_ : Int) :
    (∀ other, (tracker.unregistered identity at_).1.active other = if other = identity then none else tracker.active other) ∧
    (∀ other closed, (tracker.unregistered identity at_).1.closed other = some closed →
      tracker.closed other = some closed ∨
        ∃ state, tracker.active identity = some state ∧ closed.continuityId = state.continuityId) ∧
    ∀ id, (tracker.unregistered identity at_).2 = some id →
      ∃ state, tracker.active identity = some state ∧ id = state.continuityId := by
  rw [ZlmContinuityTracker.unregistered]
  cases found : tracker.active identity with
  | none =>
    refine ⟨fun other => ?_, fun _ _ isClosed => .inl isClosed, fun _ answered => (nomatch answered)⟩
    by_cases same : other = identity
    · rw [if_pos same, same]
      exact found
    · rw [if_neg same]
  | some state =>
    refine ⟨fun other => Function.update_apply _ _ _ _, fun other closed isClosed => ?_, fun id answered => ?_⟩
    · dsimp only at isClosed
      rw [Function.update_apply] at isClosed
      split at isClosed
      · cases isClosed
        exact .inr ⟨state, rfl, rfl⟩
      · exact .inl isClosed
    · cases answered
      exact ⟨state, rfl, rfl⟩

theorem generations_reset (issued : List Uuid) : Generations .reset issued where
  activeIssued _ _ found := nomatch found
  closedIssued _ _ found := nomatch found
  distinct _ _ _ _ found := nomatch found
  closedDistinct _ _ _ _ found := nomatch found

theorem Generations.registered (generations : Generations tracker issued) (at_ : Int) {newId : Uuid}
    (fresh : newId ∉ issued) : Generations (tracker.registered identity at_ newId).1 (newId :: issued) := by
  obtain ⟨state, -, sameClosed, actives, origin⟩ := registered_spec tracker identity at_ newId
  -- an active generation is one that was, or the new one
  have old : ∀ other given, (tracker.registered identity at_ newId).1.active other = some given →
      tracker.active other = some given ∨ (other = identity ∧ given.continuityId = newId) := by
    intro other given found
    rw [actives] at found
    split at found
    · next same =>
      cases found
      rcases origin with was | ⟨_, rfl⟩
      · exact .inl (same ▸ was)
      · exact .inr ⟨same, rfl⟩
    · exact .inl found
  constructor
  · intro other given found
    rcases old other given found with was | ⟨_, isNew⟩
    · exact List.mem_cons_of_mem _ (generations.activeIssued other given was)
    · rw [isNew]
      exact List.mem_cons_self
  · intro other given found
    rw [sameClosed] at found
    exact List.mem_cons_of_mem _ (generations.closedIssued other given found)
  · intro first second given given' found found' same
    rcases old first given found with was | ⟨isIdentity, isNew⟩
    · rcases old second given' found' with was' | ⟨_, isNew'⟩
      · exact generations.distinct first second given given' was was' same
      · exact absurd (isNew' ▸ same ▸ generations.activeIssued first given was) fresh
    · rcases old second given' found' with was' | ⟨isIdentity', _⟩
      · exact absurd (isNew ▸ same.symm ▸ generations.activeIssued second given' was') fresh
      · rw [isIdentity, isIdentity']
  · intro first second given given' found found' same
    rw [sameClosed] at found
    rcases old second given' found' with was' | ⟨_, isNew'⟩
    · exact generations.closedDistinct first second given given' found was' same
    · exact fresh (isNew' ▸ same ▸ generations.closedIssued first given found)

theorem Generations.unregistered (generations : Generations tracker issued) (at_ : Int) (newId : Uuid) :
    Generations (tracker.unregistered identity at_).1 (newId :: issued) := by
  obtain ⟨actives, closeds, -⟩ := unregistered_spec tracker identity at_
  have was : ∀ other given, (tracker.unregistered identity at_).1.active other = some given →
      tracker.active other = some given ∧ other ≠ identity := by
    intro other given found
    rw [actives] at found
    split at found
    · cases found
    · next differs => exact ⟨found, differs⟩
  constructor
  · intro other given found
    exact List.mem_cons_of_mem _ (generations.activeIssued other given (was other given found).1)
  · intro other given found
    refine List.mem_cons_of_mem _ ?_
    rcases closeds other given found with wasClosed | ⟨state, wasActive, sameId⟩
    · exact generations.closedIssued other given wasClosed
    · rw [sameId]
      exact generations.activeIssued identity state wasActive
  · intro first second given given' found found' same
    exact generations.distinct first second given given' (was first given found).1 (was second given' found').1 same
  · intro first second given given' found found' same
    obtain ⟨wasActive', differs⟩ := was second given' found'
    rcases closeds first given found with wasClosed | ⟨state, wasActive, sameId⟩
    · exact generations.closedDistinct first second given given' wasClosed wasActive' same
    · exact differs (generations.distinct identity second state given' wasActive wasActive' (sameId.symm.trans same)).symm

theorem Generations.issue (generations : Generations tracker issued) (newId : Uuid) :
    Generations tracker (newId :: issued) :=
  { generations with
    activeIssued := fun identity state found => List.mem_cons_of_mem _ (generations.activeIssued identity state found)
    closedIssued := fun identity state found => List.mem_cons_of_mem _ (generations.closedIssued identity state found) }

/-- The ids and the openings of the generations are the same. -/
structure SameGenerations (tracker tracker' : ZlmContinuityTracker) : Prop where
  active : ∀ identity state', tracker'.active identity = some state' → ∃ state, tracker.active identity = some state ∧
    state'.continuityId = state.continuityId ∧ state'.registeredAt = state.registeredAt
  stays : ∀ identity state, tracker.active identity = some state → ∃ state', tracker'.active identity = some state' ∧
    state'.continuityId = state.continuityId
  closed : ∀ identity state', tracker'.closed identity = some state' → ∃ state, tracker.closed identity = some state ∧
    state'.continuityId = state.continuityId

theorem SameGenerations.refl (tracker : ZlmContinuityTracker) : SameGenerations tracker tracker where
  active _ state found := ⟨state, found, rfl, rfl⟩
  stays _ state found := ⟨state, found, rfl⟩
  closed _ state found := ⟨state, found, rfl⟩

theorem sameGenerations_rememberSegment (tracker : ZlmContinuityTracker) (identity : ZlmStreamIdentity)
    (continuityId segmentId : Uuid) (startedAt : Int) :
    SameGenerations tracker (tracker.rememberSegment identity continuityId segmentId startedAt).1 := by
  cases result : tracker.rememberSegment identity continuityId segmentId startedAt with | mk tracker' remembered =>
  rcases ZlmContinuityTracker.rememberSegment_cases result with
    ⟨same, _⟩ | ⟨_, ⟨active, found, _, same⟩ | ⟨closed, found, _, _, same⟩⟩
  · rw [same]
    exact .refl tracker
  · rw [same]
    refine ⟨fun other state' now => ?_, fun other state was => ?_, fun other state' now => ⟨state', now, rfl⟩⟩
    · rw [ZlmContinuityTracker.withActive_active] at now
      split at now
      · next isIdentity =>
        cases now
        exact ⟨active, isIdentity ▸ found, rfl, rfl⟩
      · exact ⟨state', now, rfl, rfl⟩
    · rw [ZlmContinuityTracker.withActive_active]
      split
      · next isIdentity =>
        rw [isIdentity, found] at was
        cases was
        exact ⟨_, rfl, rfl⟩
      · exact ⟨state, was, rfl⟩
  · rw [same]
    refine ⟨fun other state' now => ⟨state', now, rfl, rfl⟩, fun other state was => ⟨state, was, rfl⟩,
      fun other state' now => ?_⟩
    rw [ZlmContinuityTracker.withClosed_closed] at now
    split at now
    · next isIdentity =>
      cases now
      exact ⟨closed, isIdentity ▸ found, rfl⟩
    · exact ⟨state', now, rfl⟩

theorem Generations.same (generations : Generations tracker issued) (same : SameGenerations tracker tracker') :
    Generations tracker' issued := by
  constructor
  · intro identity state' found
    obtain ⟨state, was, sameId, _⟩ := same.active identity state' found
    rw [sameId]
    exact generations.activeIssued identity state was
  · intro identity state' found
    obtain ⟨state, was, sameId⟩ := same.closed identity state' found
    rw [sameId]
    exact generations.closedIssued identity state was
  · intro first second given given' found found' sameIds
    obtain ⟨state, was, sameId, _⟩ := same.active first given found
    obtain ⟨state', was', sameId', _⟩ := same.active second given' found'
    exact generations.distinct first second state state' was was' (sameId ▸ sameId' ▸ sameIds)
  · intro first second given given' found found' sameIds
    obtain ⟨state, was, sameId⟩ := same.closed first given found
    obtain ⟨state', was', sameId', _⟩ := same.active second given' found'
    exact generations.closedDistinct first second state state' was was' (sameId ▸ sameId' ▸ sameIds)

/-- A file of the generation that is registered has started in it. -/
theorem Generations.resolved_active (generations : Generations tracker issued) {startedAt : Int}
    {resolved : ZlmContinuityResolution} {stream : ZlmStreamIdentity} {state : ContinuityState}
    (isResolved : tracker.resolveRecord identity startedAt = some resolved) (found : tracker.active stream = some state)
    (same : resolved.continuityId = state.continuityId) : state.registeredAt ≤ startedAt := by
  rcases ZlmContinuityTracker.resolveRecord_cases isResolved with ⟨closed, isClosed, _, rfl⟩ | ⟨active, isActive, started, rfl⟩
  · exact absurd same (generations.closedDistinct identity stream closed state isClosed found)
  · have sameStream := generations.distinct identity stream active state isActive found same
    subst sameStream
    rw [isActive] at found
    cases found
    exact started

theorem Generations.resolved_issued (generations : Generations tracker issued) {startedAt : Int}
    {resolved : ZlmContinuityResolution} (isResolved : tracker.resolveRecord identity startedAt = some resolved) :
    resolved.continuityId ∈ issued := by
  rcases ZlmContinuityTracker.resolveRecord_cases isResolved with ⟨closed, isClosed, _, rfl⟩ | ⟨active, isActive, _, rfl⟩
  · exact generations.closedIssued identity closed isClosed
  · exact generations.activeIssued identity active isActive

end

/-- A record hook leaves the generations. -/
theorem recordMp4Finalized_generations {env : PrebufferEnv} {uuid4 : Supply Uuid} {state after : HookState}
    {body : ZlmRecordMp4Hook} {profileId : Option Uuid}
    (done : recordMp4Finalized env uuid4 state body = .ok (after, profileId)) :
    SameGenerations state.continuity after.continuity := by
  have hook : ZlmHooks.recordMp4 env uuid4 state body = .ok after := by
    rw [← ZlmHooks.recordMp4Finalized_state, done]
    rfl
  rw [ZlmHooks.recordMp4] at hook
  dsimp only at hook
  split at hook
  · rw [ZlmHooks.observePrebuffer] at hook
    split at hook
    · cases hook
      exact .refl _
    · rw [bind_eq_ok] at hook
      obtain ⟨_, _, hook⟩ := hook
      split at hook
      · cases hook
      · split at hook
        · cases hook
          exact .refl _
        · cases hook
          exact .refl _
  · rw [bind_eq_ok] at hook
    obtain ⟨⟨db, continuity⟩, ingested, hook⟩ := hook
    cases hook
    rw [ZlmHooks.ingestResolved, bind_eq_ok] at ingested
    obtain ⟨⟨stored, result⟩, _, ingested⟩ := ingested
    dsimp only at ingested
    split at ingested
    · cases ingested
      exact sameGenerations_rememberSegment _ _ _ _ _
    · cases ingested
      exact .refl _

/-! ## The world -/

/-- What a recording observation was made from. -/
inductive RecordingEvidence where
  | observed (at_ : Int)
  | file (startedAt : Int)

def RecordingEvidence.time : RecordingEvidence → Int
  | observed at_ => at_
  | file startedAt => startedAt

/-- What the control plane holds, with the clock and the generations issued.  The evidence of each
    recording observation, and the last unregister or server-started hook of each profile, are
    followed beside it. -/
structure HealthWorld where
  streams : ObservedStreams := {}
  clock : Int
  issued : List Uuid := []
  evidence : Uuid → Option RecordingEvidence := fun _ => none
  boundary : Uuid → Option Int := fun _ => none

section
variable (env : PrebufferEnv) (fromTimestamp : ℚ → Option Int) (uuid4 : Supply Uuid)

/-- The profile whose source a hook reports, if it is one of a source. -/
def sourceProfile (body : ZlmStreamChangedHook) : Option Uuid :=
  if lower body.schema ≠ "rtsp" ∨ body.app ≠ "zero-nvr" then none else profileOf env body.stream

def identityOfChange (body : ZlmStreamChangedHook) : ZlmStreamIdentity := ⟨body.vhost, body.app, body.stream⟩

namespace HealthWorld

variable (world : HealthWorld)

def serverStarted (now : Int) : HealthWorld :=
  { world with
    streams := serverStartedHealth, clock := now, evidence := fun _ => none, boundary := fun _ => some now }

def streamChanged (body : ZlmStreamChangedHook) (now : Int) : HealthWorld :=
  { world with
    streams := streamChangedHealth env world.streams body now (uuid4.next world.issued)
    clock := now
    issued := uuid4.next world.issued :: world.issued
    boundary := if body.regist then world.boundary else
      match sourceProfile env body with
      | none => world.boundary
      | some profileId => Function.update world.boundary profileId (some now) }

def resolution (body : ZlmRecordMp4Hook) : Option ZlmContinuityResolution :=
  world.streams.continuity.resolveRecord (identityOf body) (env.catalog.fromTimestamp body.startTime)

/-- A record hook has left `continuity`, and reports the recording of a profile as finalized. -/
def recorded (continuity : ZlmContinuityTracker) (body : ZlmRecordMp4Hook) (finalized : Option Uuid) (now : Int) :
    HealthWorld :=
  { world with
    streams := { continuity, health := finalizedHealth env world.streams body finalized now }
    clock := now
    evidence := match finalized with
      | none => world.evidence
      | some profileId =>
        if world.streams.health.accepts profileId ((world.resolution env body).map ZlmContinuityResolution.continuityId)
        then Function.update world.evidence profileId
          (some (.file (env.catalog.fromTimestamp body.startTime)))
        else world.evidence }

/-- A segment is remembered by a record hook that fails afterwards. -/
def remembered (identity : ZlmStreamIdentity) (continuityId segmentId : Uuid) (startedAt : Int) : HealthWorld :=
  { world with
    streams := { world.streams with
      continuity := (world.streams.continuity.rememberSegment identity continuityId segmentId startedAt).1 } }

def observed (profileId : Uuid) (items : List ZlmMediaItem) (now : Int) : HealthWorld :=
  { world with
    streams := observeProfile fromTimestamp world.streams now (uuid4.next world.issued) profileId items
    clock := now
    issued := uuid4.next world.issued :: world.issued
    evidence := Function.update world.evidence profileId (some (.observed now)) }

/-- The evidence of a profile's recording is not older than its last boundary. -/
def Since (profileId : Uuid) : Prop :=
  ∃ evidence, world.evidence profileId = some evidence ∧
    ∀ boundary, world.boundary profileId = some boundary → boundary ≤ evidence.time

end HealthWorld

/-- The text of the profile's stream names the profile. -/
def Named (profileId : Uuid) : Prop := profileOf env (streamOf profileId).stream = some profileId

inductive HealthAction where
  | serverStarted (now : Int)
  | streamChanged (body : ZlmStreamChangedHook) (now : Int)
  | recordMp4 (body : ZlmRecordMp4Hook) (finalized : Option Uuid) (now : Int)
  | recordFailed (identity : ZlmStreamIdentity) (continuityId segmentId : Uuid) (startedAt : Int)
  | observe (profileId : Uuid) (items : List ZlmMediaItem) (now : Int)

/-- The hooks come in any order, with any rows; the clock does not go back. -/
inductive HealthStep : HealthWorld → HealthAction → HealthWorld → Prop
  | serverStarted (world : HealthWorld) {now : Int} (later : world.clock ≤ now) :
      HealthStep world (.serverStarted now) (world.serverStarted now)
  | streamChanged (world : HealthWorld) (body : ZlmStreamChangedHook) {now : Int} (later : world.clock ≤ now) :
      HealthStep world (.streamChanged body now) (world.streamChanged env uuid4 body now)
  | recordMp4 {world : HealthWorld} {state after : HookState} {body : ZlmRecordMp4Hook} {finalized : Option Uuid}
      {now : Int} (later : world.clock ≤ now) (current : state.continuity = world.streams.continuity)
      (done : recordMp4Finalized env uuid4 state body = .ok (after, finalized)) :
      HealthStep world (.recordMp4 body finalized now) (world.recorded env after.continuity body finalized now)
  | recordFailed (world : HealthWorld) (identity : ZlmStreamIdentity) (continuityId segmentId : Uuid) (startedAt : Int) :
      HealthStep world (.recordFailed identity continuityId segmentId startedAt)
        (world.remembered identity continuityId segmentId startedAt)
  | observe (world : HealthWorld) {profileId : Uuid} (named : Named env profileId) (items : List ZlmMediaItem)
      {now : Int} (later : world.clock ≤ now) :
      HealthStep world (.observe profileId items now) (world.observed fromTimestamp uuid4 profileId items now)

/-- A source is reported under the identity of its stream.  A file of a profile without an observation of its
    source, and a generation that is opened with the creation time of its stream, are not older than the
    last boundary. -/
def Timely (world : HealthWorld) : HealthAction → Prop
  | .streamChanged body _ => ∀ profileId, sourceProfile env body = some profileId →
      identityOfChange body = streamOf profileId
  | .recordMp4 body finalized _ => ∀ profileId, finalized = some profileId →
      world.streams.health.media profileId = none → ∀ boundary, world.boundary profileId = some boundary →
        boundary ≤ env.catalog.fromTimestamp body.startTime
  | .observe profileId (item :: _) now => world.streams.continuity.active (streamOf profileId) = none →
      ∀ boundary, world.boundary profileId = some boundary → boundary ≤ createdAt fromTimestamp item now
  | _ => True

/-! ## Soundness -/

/-- Evidence that the layer would accept is not older than the last boundary. -/
structure Sound (world : HealthWorld) : Prop where
  generations : Generations world.streams.continuity world.issued
  recordingIssued : ∀ profileId recording id, world.streams.health.recording profileId = some recording →
    recording.continuityId = some id → id ∈ world.issued
  past : ∀ profileId boundary, world.boundary profileId = some boundary → boundary ≤ world.clock
  opened : ∀ profileId, Named env profileId → ∀ state,
    world.streams.continuity.active (streamOf profileId) = some state →
      ∀ boundary, world.boundary profileId = some boundary → boundary ≤ state.registeredAt
  online : ∀ profileId, Named env profileId → ∀ media, world.streams.health.media profileId = some media →
    media.online = true → ∃ state, world.streams.continuity.active (streamOf profileId) = some state ∧
      media.continuityId = some state.continuityId
  current : ∀ profileId, Named env profileId → ∀ recording state,
    world.streams.health.recording profileId = some recording →
      world.streams.continuity.active (streamOf profileId) = some state →
        recording.continuityId = some state.continuityId → world.Since profileId
  unseen : ∀ profileId recording, world.streams.health.media profileId = none →
    world.streams.health.recording profileId = some recording → world.Since profileId

end

section
variable {env : PrebufferEnv} {fromTimestamp : ℚ → Option Int} {uuid4 : Supply Uuid} {world world' : HealthWorld}

theorem named_of_stream {identity : ZlmStreamIdentity} {profileId : Uuid} (same : identity = streamOf profileId)
    (isProfile : profileOf env identity.stream = some profileId) : Named env profileId := by
  rw [same] at isProfile
  exact isProfile

theorem sound_start (clock : Int) : Sound env { clock } where
  generations := generations_reset []
  recordingIssued _ _ _ found := nomatch found
  past _ _ found := nomatch found
  opened _ _ _ found := nomatch found
  online _ _ _ found := nomatch found
  current _ _ _ _ found := nomatch found
  unseen _ _ _ found := nomatch found

theorem sound_serverStarted (world : HealthWorld) (now : Int) : Sound env (world.serverStarted now) where
  generations := generations_reset world.issued
  recordingIssued _ _ _ found := nomatch found
  past _ _ found := by
    cases found
    exact le_rfl
  opened _ _ _ found := nomatch found
  online _ _ _ found := nomatch found
  current _ _ _ _ found := nomatch found
  unseen _ _ _ found := nomatch found

theorem Sound.later (sound : Sound env world) {now : Int} (later : world.clock ≤ now) :
    Sound env { world with clock := now } :=
  { sound with past := fun profileId boundary found => (sound.past profileId boundary found).trans later }

theorem Sound.sameGenerations (sound : Sound env world) {continuity : ZlmContinuityTracker}
    (same : SameGenerations world.streams.continuity continuity) :
    Sound env { world with streams := { world.streams with continuity } } where
  generations := sound.generations.same same
  recordingIssued := sound.recordingIssued
  past := sound.past
  opened profileId named state found boundary isBoundary := by
    obtain ⟨was, wasActive, _, sameOpening⟩ := same.active _ _ found
    rw [sameOpening]
    exact sound.opened profileId named was wasActive boundary isBoundary
  online profileId named media isMedia isOnline := by
    obtain ⟨was, wasActive, sameId⟩ := sound.online profileId named media isMedia isOnline
    obtain ⟨state, isActive, kept⟩ := same.stays _ _ wasActive
    exact ⟨state, isActive, kept ▸ sameId⟩
  current profileId named recording state isRecording isActive ofState := by
    obtain ⟨was, wasActive, sameId, _⟩ := same.active _ _ isActive
    exact sound.current profileId named recording was isRecording wasActive (sameId ▸ ofState)
  unseen := sound.unseen

/-- An observation of a recording is made. -/
theorem Sound.withRecording (sound : Sound env world) {profileId : Uuid} {recording : ZlmRecordingHealthObservation}
    {evidence : RecordingEvidence} (issued : ∀ id, recording.continuityId = some id → id ∈ world.issued)
    (ofActive : Named env profileId → ∀ state, world.streams.continuity.active (streamOf profileId) = some state →
      recording.continuityId = some state.continuityId →
        ∀ boundary, world.boundary profileId = some boundary → boundary ≤ evidence.time)
    (ofUnseen : world.streams.health.media profileId = none →
      ∀ boundary, world.boundary profileId = some boundary → boundary ≤ evidence.time) :
    Sound env { world with
      streams := { world.streams with health := world.streams.health.withRecording profileId recording }
      evidence := Function.update world.evidence profileId (some evidence) } := by
  have recordings (other : Uuid) : (world.streams.health.withRecording profileId recording).recording other =
      if other = profileId then some recording else world.streams.health.recording other :=
    Function.update_apply _ _ _ _
  have evidences (other : Uuid) : Function.update world.evidence profileId (some evidence) other =
      if other = profileId then some evidence else world.evidence other := Function.update_apply _ _ _ _
  refine ⟨sound.generations, fun other given id found isId => ?_, sound.past, sound.opened, sound.online,
    fun other named given state found isActive ofState => ?_, fun other given noMedia found => ?_⟩
  · dsimp only at found
    rw [recordings] at found
    split at found
    · cases found
      exact issued id isId
    · exact sound.recordingIssued other given id found isId
  · dsimp only at found
    rw [recordings] at found
    rw [HealthWorld.Since]
    dsimp only
    rw [evidences]
    split at found
    · next same =>
      subst same
      cases found
      exact ⟨evidence, if_pos rfl, ofActive named state isActive ofState⟩
    · next differs =>
      rw [if_neg differs]
      exact sound.current other named given state found isActive ofState
  · dsimp only at found
    rw [recordings] at found
    rw [HealthWorld.Since]
    dsimp only
    rw [evidences]
    split at found
    · next same =>
      subst same
      exact ⟨evidence, if_pos rfl, ofUnseen noMedia⟩
    · next differs =>
      rw [if_neg differs]
      exact sound.unseen other given noMedia found

/-- The media observations of the store after a stream of a profile has changed. -/
def withMediaOf (health : ZlmObservedHealthStore) (reported : Option Uuid)
    (observation : Uuid → ZlmMediaHealthObservation) : ZlmObservedHealthStore :=
  match reported with
  | none => health
  | some profileId => health.withMedia profileId (observation profileId)

theorem withMediaOf_recording (health : ZlmObservedHealthStore) (reported : Option Uuid)
    (observation : Uuid → ZlmMediaHealthObservation) : (withMediaOf health reported observation).recording = health.recording := by
  cases reported <;> rfl

theorem withMediaOf_media (health : ZlmObservedHealthStore) (reported : Option Uuid)
    (observation : Uuid → ZlmMediaHealthObservation) (profileId : Uuid) :
    (withMediaOf health reported observation).media profileId =
      if reported = some profileId then some (observation profileId) else health.media profileId := by
  cases reported with
  | none => rfl
  | some other =>
    refine (Function.update_apply _ _ _ _).trans ?_
    by_cases same : profileId = other
    · rw [if_pos same, if_pos (same ▸ rfl), same]
    · rw [if_neg same, if_neg fun isOther => same (Option.some.inj isOther).symm]

/-- The profile of a stream that is registered, or unregistered, is the one that is reported. -/
def Reports (env : PrebufferEnv) (identity : ZlmStreamIdentity) (reported : Option Uuid) : Prop :=
  (∀ profileId, reported = some profileId → identity = streamOf profileId) ∧
    ∀ profileId, Named env profileId → streamOf profileId = identity → reported = some profileId

theorem Sound.registered (sound : Sound env world) {identity : ZlmStreamIdentity} {reported : Option Uuid} {newId : Uuid}
    {at_ now : Int} (reports : Reports env identity reported) (fresh : newId ∉ world.issued)
    (opens : world.streams.continuity.active identity = none → ∀ profileId, reported = some profileId →
      ∀ boundary, world.boundary profileId = some boundary → boundary ≤ at_) :
    Sound env { world with
      streams :=
        { continuity := (world.streams.continuity.registered identity at_ newId).1
          health := withMediaOf world.streams.health reported fun profileId =>
            { profileId, online := true, observedAt := now
              continuityId := some (world.streams.continuity.registered identity at_ newId).2 } }
      issued := newId :: world.issued } := by
  obtain ⟨opened, isId, -, actives, origin⟩ := registered_spec world.streams.continuity identity at_ newId
  refine ⟨sound.generations.registered at_ fresh, fun profileId recording id found ofId => ?_, sound.past,
    fun profileId named state found boundary isBoundary => ?_, fun profileId named media found isOnline => ?_,
    fun profileId named recording state found isActive ofState => ?_, fun profileId recording noMedia found => ?_⟩
  · dsimp only at found
    rw [withMediaOf_recording] at found
    exact List.mem_cons_of_mem _ (sound.recordingIssued profileId recording id found ofId)
  · dsimp only at found
    rw [actives] at found
    split at found
    · next isIdentity =>
      cases found
      rcases origin with was | ⟨noneActive, rfl⟩
      · exact sound.opened profileId named _ (isIdentity ▸ was) boundary isBoundary
      · exact opens noneActive profileId (reports.2 profileId named isIdentity) boundary isBoundary
    · exact sound.opened profileId named state found boundary isBoundary
  · dsimp only at found ⊢
    rw [withMediaOf_media] at found
    rw [actives]
    split at found
    · next isReported =>
      cases found
      exact ⟨opened, if_pos (reports.1 profileId isReported).symm, congrArg some isId⟩
    · next notReported =>
      rw [if_neg fun isIdentity => notReported (reports.2 profileId named isIdentity)]
      exact sound.online profileId named media found isOnline
  · dsimp only at found isActive
    rw [withMediaOf_recording] at found
    rw [actives] at isActive
    split at isActive
    · next isIdentity =>
      cases isActive
      rcases origin with was | ⟨_, rfl⟩
      · exact sound.current profileId named recording _ found (isIdentity ▸ was) ofState
      · exact absurd (sound.recordingIssued profileId recording newId found ofState) fresh
    · exact sound.current profileId named recording state found isActive ofState
  · dsimp only at found noMedia
    rw [withMediaOf_recording] at found
    rw [withMediaOf_media] at noMedia
    split at noMedia
    · cases noMedia
    · exact sound.unseen profileId recording noMedia found

/-- The boundary moves for the profile that is reported only, to the present. -/
theorem Sound.unregistered (sound : Sound env world) {identity : ZlmStreamIdentity} {reported : Option Uuid} {at_ : Int}
    (newId : Uuid) {boundary' : Uuid → Option Int} (reports : Reports env identity reported)
    (moved : ∀ profileId, boundary' profileId = world.boundary profileId ∨
      reported = some profileId ∧ boundary' profileId = some world.clock) :
    Sound env { world with
      streams :=
        { continuity := (world.streams.continuity.unregistered identity at_).1
          health := withMediaOf world.streams.health reported fun profileId =>
            { profileId, online := false, observedAt := at_
              continuityId := (world.streams.continuity.unregistered identity at_).2 } }
      issued := newId :: world.issued
      boundary := boundary' } := by
  obtain ⟨actives, -, -⟩ := unregistered_spec world.streams.continuity identity at_
  -- a profile with a generation is another one, whose boundary has not moved
  have kept : ∀ profileId state, (world.streams.continuity.unregistered identity at_).1.active (streamOf profileId) =
      some state → world.streams.continuity.active (streamOf profileId) = some state ∧
        boundary' profileId = world.boundary profileId := by
    intro profileId state found
    rw [actives] at found
    split at found
    · cases found
    · next differs =>
      rcases moved profileId with same | ⟨isReported, _⟩
      · exact ⟨found, same⟩
      · exact absurd (reports.1 profileId isReported).symm differs
  have since {profileId : Uuid} (same : boundary' profileId = world.boundary profileId) (was : world.Since profileId) :
      ∃ evidence, world.evidence profileId = some evidence ∧
        ∀ boundary, boundary' profileId = some boundary → boundary ≤ evidence.time := by
    rw [same]
    exact was
  refine ⟨sound.generations.unregistered at_ newId, fun profileId recording id found ofId => ?_,
    fun profileId boundary isBoundary => ?_, fun profileId named state found boundary isBoundary => ?_,
    fun profileId named media found isOnline => ?_, fun profileId named recording state found isActive ofState => ?_,
    fun profileId recording noMedia found => ?_⟩
  · dsimp only at found
    rw [withMediaOf_recording] at found
    exact List.mem_cons_of_mem _ (sound.recordingIssued profileId recording id found ofId)
  · rcases moved profileId with same | ⟨_, isNow⟩
    · exact sound.past profileId boundary (same ▸ isBoundary)
    · dsimp only at isBoundary
      rw [isNow] at isBoundary
      cases isBoundary
      exact le_rfl
  · obtain ⟨was, same⟩ := kept profileId state found
    exact sound.opened profileId named state was boundary (same ▸ isBoundary)
  · dsimp only at found ⊢
    rw [withMediaOf_media] at found
    rw [actives]
    split at found
    · cases found
      cases isOnline
    · next notReported =>
      rw [if_neg fun isIdentity => notReported (reports.2 profileId named isIdentity)]
      exact sound.online profileId named media found isOnline
  · obtain ⟨was, same⟩ := kept profileId state isActive
    dsimp only at found
    rw [withMediaOf_recording] at found
    exact since same (sound.current profileId named recording state found was ofState)
  · dsimp only at found noMedia
    rw [withMediaOf_recording] at found
    rw [withMediaOf_media] at noMedia
    split at noMedia
    · cases noMedia
    · next notReported =>
      rcases moved profileId with same | ⟨isReported, _⟩
      · exact since same (sound.unseen profileId recording noMedia found)
      · exact absurd isReported notReported

theorem Sound.issue (sound : Sound env world) (newId : Uuid) : Sound env { world with issued := newId :: world.issued } :=
  { sound with
    generations := sound.generations.issue newId
    recordingIssued := fun profileId recording id found ofId =>
      List.mem_cons_of_mem _ (sound.recordingIssued profileId recording id found ofId) }

theorem streamChangedHealth_source (streams : ObservedStreams) {body : ZlmStreamChangedHook} (now : Int) (newId : Uuid)
    (managed : ¬(lower body.schema ≠ "rtsp" ∨ body.app ≠ "zero-nvr")) :
    streamChangedHealth env streams body now newId =
      if body.regist then
        { continuity := (streams.continuity.registered (identityOfChange body) now newId).1
          health := withMediaOf streams.health (profileOf env body.stream) fun profileId =>
            { profileId, online := true, observedAt := now
              continuityId := some (streams.continuity.registered (identityOfChange body) now newId).2 } }
      else
        { continuity := (streams.continuity.unregistered (identityOfChange body) now).1
          health := withMediaOf streams.health (profileOf env body.stream) fun profileId =>
            { profileId, online := false, observedAt := now
              continuityId := (streams.continuity.unregistered (identityOfChange body) now).2 } } := by
  rw [streamChangedHealth]
  dsimp only
  rw [if_neg managed]
  split
  · cases profileOf env body.stream <;> rfl
  · cases profileOf env body.stream <;> rfl

theorem Sound.streamChanged (sound : Sound env world) {body : ZlmStreamChangedHook} {now : Int} (later : world.clock ≤ now)
    (timely : Timely env fromTimestamp world (.streamChanged body now)) :
    Sound env (world.streamChanged env uuid4 body now) := by
  have kept := sound.later later
  rw [HealthWorld.streamChanged]
  by_cases ignored : lower body.schema ≠ "rtsp" ∨ body.app ≠ "zero-nvr"
  · have none_ : sourceProfile env body = none := if_pos ignored
    rw [none_, streamChangedHealth]
    dsimp only
    rw [if_pos ignored, ite_self]
    exact kept.issue _
  · have isProfile : sourceProfile env body = profileOf env body.stream := if_neg ignored
    have reports : Reports env (identityOfChange body) (profileOf env body.stream) := by
      refine ⟨fun profileId isReported => timely profileId (isProfile.trans isReported), fun profileId named same => ?_⟩
      have sameStream : (streamOf profileId).stream = body.stream := congrArg ZlmStreamIdentity.stream same
      rw [← sameStream]
      exact named
    rw [streamChangedHealth_source _ _ _ ignored, isProfile]
    cases regist : body.regist with
    | true => exact kept.registered reports (uuid4.fresh world.issued) fun _ profileId _ => kept.past profileId
    | false =>
      refine kept.unregistered (uuid4.next world.issued) reports fun profileId => ?_
      rw [if_neg (by decide)]
      cases profileOf env body.stream with
      | none => exact .inl rfl
      | some reported =>
        dsimp only
        rw [Function.update_apply]
        split
        · next same => exact .inr ⟨congrArg some same.symm, rfl⟩
        · exact .inl rfl

theorem Sound.recorded (sound : Sound env world) {continuity : ZlmContinuityTracker} {body : ZlmRecordMp4Hook}
    {finalized : Option Uuid} {now : Int} (later : world.clock ≤ now)
    (same : SameGenerations world.streams.continuity continuity)
    (timely : Timely env fromTimestamp world (.recordMp4 body finalized now)) :
    Sound env (world.recorded env continuity body finalized now) := by
  have kept := (sound.later later).sameGenerations same
  cases finalized with
  | none => exact kept
  | some profileId =>
    rw [HealthWorld.recorded, finalizedHealth, ZlmObservedHealthStore.recordingFinalized, HealthWorld.resolution]
    cases accepted : world.streams.health.accepts profileId ((world.streams.continuity.resolveRecord (identityOf body)
        (env.catalog.fromTimestamp body.startTime)).map ZlmContinuityResolution.continuityId) with
    | false => exact kept
    | true =>
      refine kept.withRecording (fun id ofId => ?_) (fun named state isActive ofState boundary isBoundary => ?_)
        (timely profileId rfl)
      · obtain ⟨resolved, isResolved, rfl⟩ := Option.map_eq_some_iff.mp ofId
        exact sound.generations.resolved_issued isResolved
      · obtain ⟨resolved, isResolved, sameId⟩ := Option.map_eq_some_iff.mp ofState
        -- the generation was registered before the file started
        obtain ⟨was, wasActive, ofWas, _⟩ := same.active _ _ isActive
        have started := sound.generations.resolved_active isResolved wasActive (sameId.trans ofWas)
        exact (sound.opened profileId named was wasActive boundary isBoundary).trans started

/-- An observation of the recorder in the generation of its source is accepted. -/
theorem recordingObserved_withMedia (health : ZlmObservedHealthStore) (profileId : Uuid)
    (observation : ZlmMediaHealthObservation) (active : Bool) (at_ : Int) :
    ∃ finalizedAt, (health.withMedia profileId observation).recordingObserved profileId active at_ observation.continuityId =
      (health.withMedia profileId observation).withRecording profileId
        { profileId, active, observedAt := at_, finalizedAt, continuityId := observation.continuityId } := by
  have accepted : (health.withMedia profileId observation).accepts profileId observation.continuityId = true := by
    have found : (health.withMedia profileId observation).media profileId = some observation :=
      Function.update_self _ _ _
    rw [ZlmObservedHealthStore.accepts, found]
    exact decide_eq_true fun other => other.2.2.2 rfl
  rw [ZlmObservedHealthStore.recordingObserved, if_neg (not_not_intro accepted)]
  exact ⟨_, rfl⟩

theorem Sound.recordingNow (sound : Sound env world) {profileId : Uuid} {recording : ZlmRecordingHealthObservation}
    (issued : ∀ id, recording.continuityId = some id → id ∈ world.issued) :
    Sound env { world with
      streams := { world.streams with health := world.streams.health.withRecording profileId recording }
      evidence := Function.update world.evidence profileId (some (.observed world.clock)) } :=
  sound.withRecording issued (fun _ _ _ _ => sound.past profileId) fun _ => sound.past profileId

theorem Sound.observed (sound : Sound env world) {profileId : Uuid} (named : Named env profileId)
    {items : List ZlmMediaItem} {now : Int} (later : world.clock ≤ now)
    (timely : Timely env fromTimestamp world (.observe profileId items now)) :
    Sound env (world.observed fromTimestamp uuid4 profileId items now) := by
  have kept := sound.later later
  have reports : Reports env (streamOf profileId) (some profileId) := by
    refine ⟨fun other isOther => congrArg streamOf (Option.some.inj isOther), fun other isNamed same => ?_⟩
    rw [Named, same, named] at isNamed
    exact isNamed
  rw [HealthWorld.observed]
  cases items with
  | nil =>
    have offline := @Sound.unregistered _ _ kept _ _ now (uuid4.next world.issued) _ reports fun _ => .inl rfl
    obtain ⟨-, -, answered⟩ := unregistered_spec world.streams.continuity (streamOf profileId) now
    obtain ⟨finalizedAt, same⟩ := recordingObserved_withMedia world.streams.health profileId
      { profileId, online := false, observedAt := now
        continuityId := (world.streams.continuity.unregistered (streamOf profileId) now).2 } false now
    rw [observeProfile]
    dsimp only [ZlmObservedHealthStore.streamUnregistered] at same ⊢
    rw [same]
    refine offline.recordingNow fun id isId => ?_
    obtain ⟨state, isActive, rfl⟩ := answered id isId
    exact List.mem_cons_of_mem _ (sound.generations.activeIssued _ state isActive)
  | cons item items =>
    have online := @Sound.registered _ _ kept _ _ _ _ now reports (uuid4.fresh world.issued) fun noneActive other isOther boundary =>
      (Option.some.inj isOther) ▸ timely noneActive boundary
    obtain ⟨state, isId, -, actives, -⟩ := registered_spec world.streams.continuity (streamOf profileId)
      (createdAt fromTimestamp item now) (uuid4.next world.issued)
    obtain ⟨finalizedAt, same⟩ := recordingObserved_withMedia world.streams.health profileId
      { profileId, online := true, observedAt := now
        continuityId := some (world.streams.continuity.registered (streamOf profileId) (createdAt fromTimestamp item now)
          (uuid4.next world.issued)).2 } ((item :: items).any ZlmMediaItem.isRecordingMp4) now
    rw [observeProfile]
    dsimp only [ZlmObservedHealthStore.streamRegistered] at same ⊢
    rw [same]
    refine online.recordingNow fun id ofId => ?_
    cases ofId
    rw [isId]
    exact online.generations.activeIssued _ state ((actives _).trans (if_pos rfl))

theorem Sound.step (sound : Sound env world) {action : HealthAction} (timely : Timely env fromTimestamp world action)
    (step : HealthStep env fromTimestamp uuid4 world action world') : Sound env world' := by
  cases step with
  | serverStarted later => exact sound_serverStarted world _
  | streamChanged _ later => exact sound.streamChanged later timely
  | recordMp4 later current done => exact sound.recorded later (current ▸ recordMp4Finalized_generations done) timely
  | recordFailed => exact sound.sameGenerations (sameGenerations_rememberSegment _ _ _ _ _)
  | observe named _ later => exact sound.observed named later timely

/-- A rebuild observes one profile after the other. -/
theorem rebuild_run (world : HealthWorld) (passes : List (Uuid × List ZlmMediaItem)) {now : Int} (later : world.clock ≤ now)
    (named : ∀ pass ∈ passes, Named env pass.1) :
    ∃ (newIds : List Uuid) (world' : HealthWorld), newIds.length = passes.length ∧
      Run (HealthStep env fromTimestamp uuid4) world (passes.map fun pass => .observe pass.1 pass.2 now) world' ∧
      world'.streams = rebuild fromTimestamp world.streams now (newIds.zip passes) := by
  induction passes generalizing world with
  | nil => exact ⟨[], world, rfl, .done world, rfl⟩
  | cons pass passes ih =>
    obtain ⟨newIds, world', length, run, same⟩ := ih (world.observed fromTimestamp uuid4 pass.1 pass.2 now) le_rfl
      fun other member => named other (List.mem_cons_of_mem _ member)
    refine ⟨uuid4.next world.issued :: newIds, world', congrArg Nat.succ length, ?_, same⟩
    exact .next (.observe world (named pass List.mem_cons_self) pass.2 later) run

/-! ## The layer -/

theorem observedRecording_healthy {health : ZlmObservedHealthStore} {profileId : Uuid} {mode : ArbitratedRecorderMode}
    (healthy : (observedRecording health profileId mode).state = .healthy) :
    (∀ media, health.media profileId = some media → media.online = true) ∧
      ∃ recording, health.recording profileId = some recording ∧
        sameGeneration (health.media profileId) recording = true := by
  unfold observedRecording at healthy
  dsimp only at healthy
  split at healthy
  · cases healthy
  next notOffline =>
    refine ⟨fun media isMedia => ?_, ?_⟩
    · rw [isMedia] at notOffline
      cases isOnline : media.online with
      | true => rfl
      | false =>
        rw [Option.filter_some, if_pos (decide_eq_true (by rw [isOnline]; decide))] at notOffline
        cases notOffline
    · split at healthy
      · cases healthy
      next recording isRecording =>
        split at healthy
        · cases healthy
        next same => exact ⟨recording, isRecording, not_not.mp same⟩

theorem recordingLayer_healthy {zoneInfo : String → Result TimeZone} {upper : String → String} {db : Database}
    {subject : HealthSubject} {health : ZlmObservedHealthStore} {instant : Int}
    {layer : CameraCapabilityHealthService.CapabilityHealthLayer}
    (answered : recordingLayer zoneInfo upper db subject health instant = .ok layer) (healthy : layer.state = .healthy) :
    ∃ profile mode, subject.recordProfile = some profile ∧ (observedRecording health profile.1 mode).state = .healthy := by
  unfold recordingLayer at answered
  split at answered
  next disabled isDisabled =>
    cases answered
    rw [CameraCapabilityHealthService.disabledLayer] at isDisabled
    split at isDisabled
    · cases isDisabled
      cases healthy
    · split at isDisabled
      · cases isDisabled
        cases healthy
      · cases isDisabled
  next =>
    split at answered
    · cases answered
      cases healthy
    split at answered
    · cases answered
      cases healthy
    split at answered
    · cases answered
      cases healthy
    split at answered
    · cases answered
      cases healthy
    next profileId status isProfile =>
      split at answered
      · cases answered
        cases healthy
      rw [bind_eq_ok] at answered
      obtain ⟨decision, _, answered⟩ := answered
      split at answered
      · cases answered
        cases healthy
      · cases answered
        exact ⟨_, decision.mode, isProfile, healthy⟩

theorem Sound.since (sound : Sound env world) {profileId : Uuid} (named : Named env profileId)
    {mode : ArbitratedRecorderMode} (healthy : (observedRecording world.streams.health profileId mode).state = .healthy) :
    world.Since profileId := by
  obtain ⟨isOnline, recording, isRecording, same⟩ := observedRecording_healthy healthy
  cases isMedia : world.streams.health.media profileId with
  | none => exact sound.unseen profileId recording isMedia isRecording
  | some media =>
    obtain ⟨state, isActive, ofState⟩ := sound.online profileId named media isMedia (isOnline media isMedia)
    rw [isMedia, sameGeneration, isOnline media isMedia, ofState] at same
    -- the evidence is of the generation that is online
    have ofMedia : recording.continuityId.isSome = true ∧ recording.continuityId = some state.continuityId := by
      simpa using same
    exact sound.current profileId named recording state isRecording isActive ofMedia.2

/-- The evidence of a recording layer that is healthy is not older than the last boundary of its stream. -/
def Honest (env : PrebufferEnv) (zoneInfo : String → Result TimeZone) (upper : String → String) (world : HealthWorld) : Prop :=
  ∀ db subject instant layer, recordingLayer zoneInfo upper db subject world.streams.health instant = .ok layer →
    layer.state = .healthy → ∃ profile, subject.recordProfile = some profile ∧
      (Named env profile.1 → world.Since profile.1)

theorem recording_health {zoneInfo : String → Result TimeZone} {upper : String → String} {clock : Int}
    {actions : List HealthAction}
    (run : Run (fun world action world' => Timely env fromTimestamp world action ∧
      HealthStep env fromTimestamp uuid4 world action world') { clock } actions world) :
    Honest env zoneInfo upper world := by
  have sound : Sound env world :=
    @Run.invariant _ _ _ (Sound env) (fun _ _ _ kept step => kept.step step.1 step.2) _ _ _ run (sound_start clock)
  intro db subject instant layer answered healthy
  obtain ⟨profile, mode, isProfile, observed⟩ := recordingLayer_healthy answered healthy
  exact ⟨profile, isProfile, fun named => sound.since named observed⟩

end

/-! ## A server that has restarted -/

open IngestionTiming (plainPrebuffer plainStart hookLength_positive hookStart_positive)

def namedPrebuffer : PrebufferEnv :=
  { plainPrebuffer with catalog := { plainPrebuffer.catalog with parseUuid := fun text => (UUID.parse text.toList).map UUID.int } }

def sourceHook (regist : Bool) : ZlmStreamChangedHook :=
  { vhost := "__defaultVhost__", app := "zero-nvr", stream := (streamOf 1).stream, schema := "rtsp", regist }

def fileHook (startTime : ℚ) (filePath : String) (startPositive : 0 < startTime) : ZlmRecordMp4Hook :=
  { vhost := "__defaultVhost__", app := "zero-nvr", stream := (streamOf 1).stream, startTime, timeLen := 5
    fileSize := 10, filePath, startPositive, lenPositive := hookLength_positive }

def recordedStart : Database :=
  { plainStart with recordingPolicies := ⟨[{ cameraId := 1 }], by decide⟩ }

def recordedCamera : HealthSubject :=
  { camera := { id := 1 }, bindings := [("RECORD", 1, "manual")], profiles := [(1, "available")] }

/-- The layer of the camera, whose recording has to be on. -/
def layerState (health : ZlmObservedHealthStore) : Option CameraCapabilityHealthService.LayerState :=
  (recordingLayer RecordingPolicyService.utcOnly id recordedStart recordedCamera health 0).toOption.map
    CameraCapabilityHealthService.CapabilityHealthLayer.state

/-- What a file hook leaves of the hooks' state. -/
def fileLeft (continuity : ZlmContinuityTracker) (body : ZlmRecordMp4Hook) : Option (HookState × Option Uuid) :=
  (recordMp4Finalized namedPrebuffer .counting { db := recordedStart, continuity } body).toOption

theorem layerState_healthy {health : ZlmObservedHealthStore} (healthy : layerState health = some .healthy) :
    ∃ layer, recordingLayer RecordingPolicyService.utcOnly id recordedStart recordedCamera health 0 = .ok layer ∧
      layer.state = .healthy := by
  rw [layerState] at healthy
  cases answered : recordingLayer RecordingPolicyService.utcOnly id recordedStart recordedCamera health 0 with
  | error e =>
    rw [answered] at healthy
    cases healthy
  | ok layer =>
    rw [answered] at healthy
    exact ⟨layer, rfl, Option.some.inj healthy⟩

theorem named_one : Named namedPrebuffer 1 := by
  unfold Named
  decide +kernel

def restarted : HealthWorld := ({ clock := 0 } : HealthWorld).serverStarted 100000000

/-- The file that the server before was recording. -/
def lateFile : ZlmRecordMp4Hook := fileHook 10 "first.mp4" hookStart_positive

theorem finalized_of_left {continuity : ZlmContinuityTracker} {body : ZlmRecordMp4Hook} {profileId : Option Uuid}
    (left : (fileLeft continuity body).map Prod.snd = some profileId) :
    ∃ after, recordMp4Finalized namedPrebuffer .counting { db := recordedStart, continuity } body =
      .ok (after, profileId) := by
  rw [fileLeft] at left
  cases done : recordMp4Finalized namedPrebuffer .counting { db := recordedStart, continuity } body with
  | error e =>
    rw [done] at left
    cases left
  | ok result =>
    rw [done] at left
    cases left
    exact ⟨result.1, rfl⟩

/-- The file of a server that is gone is reported to the server after it, before its source is up:
    the layer is healthy. -/
theorem recording_healthy_of_late_file :
    ∃ actions world, Run (HealthStep namedPrebuffer (fun _ => none) .counting) { clock := 0 } actions world ∧
      ¬Honest namedPrebuffer RecordingPolicyService.utcOnly id world := by
  obtain ⟨after, done⟩ := @finalized_of_left .reset lateFile (some 1) (by decide +kernel)
  have healthy : layerState (finalizedHealth namedPrebuffer restarted.streams lateFile (some 1) 101000000) =
      some .healthy := by decide +kernel
  refine ⟨_, restarted.recorded namedPrebuffer after.continuity lateFile (some 1) 101000000,
    .next (t := restarted) (.serverStarted _ (by decide)) <| .next (.recordMp4 (by decide) rfl done) <| .done _, fun honest => ?_⟩
  obtain ⟨layer, answered, isHealthy⟩ := layerState_healthy healthy
  obtain ⟨profile, isProfile, since⟩ := honest _ _ _ _ answered isHealthy
  cases isProfile
  obtain ⟨evidence, isEvidence, notBefore⟩ := since named_one
  cases isEvidence
  exact absurd (notBefore 100000000 rfl) (by decide +kernel)

/-- The source comes up first, and the layer rests on a file that was started after it. -/
theorem recording_healthy_of_new_file :
    ∃ actions world, Run (fun world action world' => Timely namedPrebuffer (fun _ => none) world action ∧
        HealthStep namedPrebuffer (fun _ => none) .counting world action world') { clock := 0 } actions world ∧
      Honest namedPrebuffer RecordingPolicyService.utcOnly id world ∧ layerState world.streams.health = some .healthy := by
  let online := restarted.streamChanged namedPrebuffer .counting (sourceHook true) 101000000
  let newFile := fileHook 105 "second.mp4" (by norm_num)
  obtain ⟨after, done⟩ := @finalized_of_left online.streams.continuity newFile (some 1) (by decide +kernel)
  have run : Run (fun world action world' => Timely namedPrebuffer (fun _ => none) world action ∧
      HealthStep namedPrebuffer (fun _ => none) .counting world action world') { clock := 0 }
      [.serverStarted 100000000, .streamChanged (sourceHook true) 101000000, .recordMp4 newFile (some 1) 110000000]
      (online.recorded namedPrebuffer after.continuity newFile (some 1) 110000000) :=
    .next (t := restarted) ⟨trivial, .serverStarted _ (by decide)⟩ <|
    .next (t := online) ⟨fun profileId isProfile => by
      have isOne : sourceProfile namedPrebuffer (sourceHook true) = some 1 := by decide +kernel
      rw [isOne] at isProfile
      cases isProfile
      rfl, .streamChanged _ _ (by decide)⟩ <|
    .next ⟨fun profileId isOne noMedia => by
      cases isOne
      exact absurd noMedia (by decide +kernel), .recordMp4 (by decide) rfl done⟩ <| .done _
  have healthy : layerState (finalizedHealth namedPrebuffer online.streams newFile (some 1) 110000000) =
      some .healthy := by decide +kernel
  exact ⟨_, _, run, recording_health run, healthy⟩

end RecordingHealth

end ZeroNvr
