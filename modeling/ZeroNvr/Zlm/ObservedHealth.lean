import ZeroNvr.Core.UuidText
import ZeroNvr.Zlm.Hooks

/-! # Observed health of the streams

The latest registration and the latest recording evidence of each profile, kept in
memory.  Hooks write them, and a rebuild after a restart of the control plane reads
them from ZLMediaKit.
-/

namespace ZeroNvr

open Lib

structure ZlmMediaHealthObservation where
  profileId : Uuid
  online : Bool
  observedAt : Int
  continuityId : Option Uuid := none
  deriving DecidableEq

structure ZlmRecordingHealthObservation where
  profileId : Uuid
  active : Bool
  observedAt : Int
  finalizedAt : Option Int := none
  continuityId : Option Uuid := none
  deriving DecidableEq

structure ZlmObservedHealthStore where
  media : Uuid → Option ZlmMediaHealthObservation := fun _ => none
  recording : Uuid → Option ZlmRecordingHealthObservation := fun _ => none

namespace ZlmObservedHealthStore

variable (store : ZlmObservedHealthStore)

def withMedia (profileId : Uuid) (observation : ZlmMediaHealthObservation) : ZlmObservedHealthStore :=
  { store with media := Function.update store.media profileId (some observation) }

def withRecording (profileId : Uuid) (observation : ZlmRecordingHealthObservation) : ZlmObservedHealthStore :=
  { store with recording := Function.update store.recording profileId (some observation) }

def streamRegistered (profileId : Uuid) (at_ : Int) (continuityId : Option Uuid) : ZlmObservedHealthStore :=
  store.withMedia profileId { profileId, online := true, observedAt := at_, continuityId }

def streamUnregistered (profileId : Uuid) (at_ : Int) (continuityId : Option Uuid) : ZlmObservedHealthStore :=
  store.withMedia profileId { profileId, online := false, observedAt := at_, continuityId }

/-- Recording evidence of another generation than the one that is online is passed over. -/
def accepts (profileId : Uuid) (continuityId : Option Uuid) : Bool :=
  match store.media profileId with
  | none => true
  | some media => ¬(media.online ∧ media.continuityId.isSome ∧ continuityId.isSome ∧ continuityId ≠ media.continuityId)

def recordingObserved (profileId : Uuid) (active : Bool) (at_ : Int) (continuityId : Option Uuid) : ZlmObservedHealthStore :=
  if ¬store.accepts profileId continuityId then store
  else
    let finalizedAt := (store.recording profileId).bind fun previous =>
      if previous.continuityId = continuityId then previous.finalizedAt else none
    store.withRecording profileId { profileId, active, observedAt := at_, finalizedAt, continuityId }

def recordingFinalized (profileId : Uuid) (at_ : Int) (continuityId : Option Uuid) : ZlmObservedHealthStore :=
  if ¬store.accepts profileId continuityId then store
  else
    store.withRecording profileId { profileId, active := true, observedAt := at_, finalizedAt := some at_, continuityId }

end ZlmObservedHealthStore

/-- The tracker and the store, which the hooks and the rebuild change together. -/
structure ObservedStreams where
  continuity : ZlmContinuityTracker := {}
  health : ZlmObservedHealthStore := {}

namespace ZlmHooks

variable (env : PrebufferEnv) (uuid4 : Supply Uuid)

/-- `zlm_server_started` resets the tracker and clears the store. -/
def serverStartedHealth : ObservedStreams := { continuity := .reset, health := {} }

/-- The profile of a stream, if it is one of zero-nvr. -/
def profileOf (stream : String) : Option Uuid := (RecordingCatalogService.profileIdFromStream env.catalog stream).toOption

/-- `zlm_stream_changed`. -/
def streamChangedHealth (streams : ObservedStreams) (body : ZlmStreamChangedHook) (boundaryAt : Int) (newId : Uuid) :
    ObservedStreams :=
  let identity : ZlmStreamIdentity := ⟨body.vhost, body.app, body.stream⟩
  if lower body.schema ≠ "rtsp" ∨ body.app ≠ "zero-nvr" then streams
  else if body.regist then
    let (continuity, continuityId) := streams.continuity.registered identity boundaryAt newId
    match profileOf env body.stream with
    | none => { streams with continuity }
    | some profileId =>
      { continuity, health := streams.health.streamRegistered profileId boundaryAt (some continuityId) }
  else
    let (continuity, continuityId) := streams.continuity.unregistered identity boundaryAt
    match profileOf env body.stream with
    | none => { streams with continuity }
    | some profileId => { continuity, health := streams.health.streamUnregistered profileId boundaryAt continuityId }

/-- The profile whose fragment `observePrebuffer` hands over. -/
def prebufferProfile (db : Database) (body : ZlmRecordMp4Hook) : Option Uuid :=
  if body.app ≠ RecordingCatalogService.expectedApp then none
  else do
    let profileId ← profileOf env body.stream
    let profile ← db.streamProfiles.get? profileId
    if (db.recordingPolicies.get? profile.cameraId).any fun policy =>
        policy.enabled && policy.eventRecordingEnabled then some profile.id
    else none

/-- A record hook with the profile whose recording it reports as finalized. -/
def recordMp4Finalized (state : HookState) (body : ZlmRecordMp4Hook) : Result (HookState × Option Uuid) :=
  let resolution := state.continuity.resolveRecord (identityOf body) (env.catalog.fromTimestamp body.startTime)
  if (env.catalog.paths.relativeTo env.prebufferRoot body.filePath).isSome then do
    let after ← observePrebuffer env state body resolution
    .ok (after, prebufferProfile env state.db body)
  else do
    let (_, result) ← RecordingCatalogService.ingestFinalized env.catalog uuid4 state.db (evidenceOf body)
      (resolution.bind ZlmContinuityResolution.previousSegmentId)
    let (db, continuity) ← ingestResolved env uuid4 state.db state.continuity body resolution
    .ok ({ state with db, continuity }, result.segment.bind RecordingSegment.streamProfileId)

/-- What a record hook leaves in the store. -/
def finalizedHealth (streams : ObservedStreams) (body : ZlmRecordMp4Hook) (profileId : Option Uuid) (now : Int) :
    ZlmObservedHealthStore :=
  let resolution := streams.continuity.resolveRecord (identityOf body) (env.catalog.fromTimestamp body.startTime)
  match profileId with
  | none => streams.health
  | some profileId =>
    streams.health.recordingFinalized profileId now (resolution.map ZlmContinuityResolution.continuityId)

/-- The hook is `recordMp4`. -/
theorem recordMp4Finalized_state (state : HookState) (body : ZlmRecordMp4Hook) :
    (recordMp4Finalized env uuid4 state body).map Prod.fst = recordMp4 env uuid4 state body := by
  rw [recordMp4Finalized, recordMp4]
  dsimp only
  split
  · cases observePrebuffer env state body _ <;> rfl
  · rw [ingestResolved]
    cases RecordingCatalogService.ingestFinalized env.catalog uuid4 state.db (evidenceOf body) _ with
    | error e => rfl
    | ok result =>
      obtain ⟨stored, result⟩ := result
      dsimp only [bind, Except.bind]
      split <;> rfl

end ZlmHooks

/-! ## The rebuild -/

/-- What ZLMediaKit lists of a stream. -/
structure ZlmMediaItem where
  createStamp : Option ℚ
  isRecordingMp4 : Bool

namespace ZlmRuntimeObservationService

/-- The stream of a profile. -/
def streamOf (profileId : Uuid) : ZlmStreamIdentity :=
  { vhost := "__defaultVhost__"
    app := "zero-nvr"
    stream := "profile-" ++ String.ofList (UUID.hexDigits 32 profileId) }

variable (fromTimestamp : ℚ → Option Int)

def createdAt (item : ZlmMediaItem) (fallback : Int) : Int :=
  match item.createStamp with
  | none => fallback
  | some raw => if 0 < raw then (fromTimestamp raw).getD fallback else fallback

/-- The pass of the loop for one profile. -/
def observeProfile (streams : ObservedStreams) (observedAt : Int) (newId profileId : Uuid) :
    List ZlmMediaItem → ObservedStreams
  | [] =>
    let (continuity, continuityId) := streams.continuity.unregistered (streamOf profileId) observedAt
    let offline := streams.health.streamUnregistered profileId observedAt continuityId
    { continuity, health := offline.recordingObserved profileId false observedAt continuityId }
  | item :: items =>
    let (continuity, continuityId) :=
      streams.continuity.registered (streamOf profileId) (createdAt fromTimestamp item observedAt) newId
    let online := streams.health.streamRegistered profileId observedAt (some continuityId)
    let active := (item :: items).any ZlmMediaItem.isRecordingMp4
    { continuity, health := online.recordingObserved profileId active observedAt (some continuityId) }

/-- `rebuild`, of what ZLMediaKit lists of each profile; `newIds` are those that the generations take. -/
def rebuild (streams : ObservedStreams) (observedAt : Int) (observed : List (Uuid × Uuid × List ZlmMediaItem)) :
    ObservedStreams :=
  observed.foldl
    (fun streams (newId, profileId, items) => observeProfile fromTimestamp streams observedAt newId profileId items) streams

end ZlmRuntimeObservationService

end ZeroNvr
