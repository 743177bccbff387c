import ZeroNvr.Recordings.Prebuffer

/-! # The hooks of ZLMediaKit

A stream hook opens or closes a generation of its stream.  A record hook reports a
finished file: one of the prebuffer is observed and handed to the tasks, any other
is written down and remembered as the latest of its generation.
-/

namespace ZeroNvr

open Lib

structure ZlmStreamChangedHook where
  vhost : String
  app : String
  stream : String
  schema : String
  regist : Bool

/-- The time and the length are positive. -/
structure ZlmRecordMp4Hook where
  vhost : String
  app : String
  stream : String
  startTime : ℚ
  timeLen : ℚ
  fileSize : Int
  filePath : String
  startPositive : 0 < startTime
  lenPositive : 0 < timeLen

/-- What the hooks share: the catalog, the trackers, and the fragments handed to the tasks. -/
structure HookState where
  db : Database
  continuity : ZlmContinuityTracker := {}
  fragments : PrebufferFragmentTracker := {}
  queued : List PrebufferFragment := []

namespace ZlmHooks

variable (env : PrebufferEnv) (uuid4 : Supply Uuid)

def identityOf (body : ZlmRecordMp4Hook) : ZlmStreamIdentity := ⟨body.vhost, body.app, body.stream⟩

def evidenceOf (body : ZlmRecordMp4Hook) : FinalizedRecordingEvidence :=
  { vhost := body.vhost, app := body.app, stream := body.stream, startTimeEpoch := body.startTime
    durationSeconds := body.timeLen, fileSize := body.fileSize, filePath := body.filePath }

/-- Only the source of a stream, not what ZLM derives from it, is evidence of continuity. -/
def streamChanged (tracker : ZlmContinuityTracker) (body : ZlmStreamChangedHook) (boundaryAt : Int) (newId : Uuid) :
    ZlmContinuityTracker :=
  if lower body.schema ≠ "rtsp" ∨ body.app ≠ "zero-nvr" then tracker
  else if body.regist then (tracker.registered ⟨body.vhost, body.app, body.stream⟩ boundaryAt newId).1
  else (tracker.unregistered ⟨body.vhost, body.app, body.stream⟩ boundaryAt).1

/-- The segment of a record hook becomes the latest of its generation; the latest of a closed one is
    where the source was lost. -/
def rememberTail (db : Database) (tracker : ZlmContinuityTracker) (identity : ZlmStreamIdentity)
    (resolution : ZlmContinuityResolution) (segment : RecordingSegment) : Database × ZlmContinuityTracker :=
  let (tracker', remembered) := tracker.rememberSegment identity resolution.continuityId segment.id segment.startedAt
  (if remembered ∧ resolution.closedAt.isSome then
    RecordingCatalogService.markSourceLossTail db resolution.previousSegmentId segment.id else db, tracker')

/-- The transaction of a record hook outside the prebuffer, for the generation it was resolved to. -/
def ingestResolved (db : Database) (tracker : ZlmContinuityTracker) (body : ZlmRecordMp4Hook)
    (resolution : Option ZlmContinuityResolution) : Result (Database × ZlmContinuityTracker) := do
  let (stored, result) ← RecordingCatalogService.ingestFinalized env.catalog uuid4 db
    (evidenceOf body) (resolution.bind ZlmContinuityResolution.previousSegmentId)
  match resolution, result.segment with
  | some resolution, some segment =>
    .ok (rememberTail stored tracker (identityOf body) resolution segment)
  | _, _ => .ok (stored, tracker)

/-- A record hook of the prebuffer. -/
def observePrebuffer (state : HookState) (body : ZlmRecordMp4Hook) (resolution : Option ZlmContinuityResolution) :
    Result HookState :=
  if body.app ≠ RecordingCatalogService.expectedApp then .ok state
  else do
    let profileId ← RecordingCatalogService.profileIdFromStream env.catalog body.stream
    match state.db.streamProfiles.get? profileId with
    | none => .error (apiError 422 "recording_stream_unknown" "Recording stream profile does not exist.")
    | some profile =>
      -- A late hook after the policy has changed stays ephemeral.
      if (state.db.recordingPolicies.get? profile.cameraId).any fun policy =>
          policy.enabled && policy.eventRecordingEnabled then
        let (fragments, fragment) := state.fragments.observe (PrebufferFragmentTracker.reported env.catalog
          profile.cameraId profile.id (resolution.map ZlmContinuityResolution.continuityId)
          (identityOf body) body.filePath body.startTime body.timeLen body.fileSize)
        .ok { state with fragments, queued := state.queued ++ [fragment] }
      else .ok state

def recordMp4 (state : HookState) (body : ZlmRecordMp4Hook) : Result HookState :=
  let resolution := state.continuity.resolveRecord (identityOf body)
    (env.catalog.fromTimestamp body.startTime)
  if (env.catalog.paths.relativeTo env.prebufferRoot body.filePath).isSome then
    observePrebuffer env state body resolution
  else do
    let (db, continuity) ← ingestResolved env uuid4 state.db state.continuity body resolution
    .ok { state with db, continuity }

end ZlmHooks

end ZeroNvr
