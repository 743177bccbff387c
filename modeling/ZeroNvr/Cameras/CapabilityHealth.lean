import ZeroNvr.Cameras.Configuration
import ZeroNvr.Core.IsoFormat
import ZeroNvr.Recordings.Policy
import ZeroNvr.Recordings.Triggers
import ZeroNvr.Zlm.ObservedHealth

/-! # The health of a camera's recording

The recorder that a camera needs follows from its policy and its triggers.  The
recording layer compares it with what was observed of the bound stream.
-/

namespace ZeroNvr

open Lib

inductive ArbitratedRecorderMode where
  | persistent
  | prebuffer
  | off
  deriving DecidableEq

def ArbitratedRecorderMode.text : ArbitratedRecorderMode → String
  | .persistent => "persistent"
  | .prebuffer => "prebuffer"
  | .off => "off"

structure RecordingArbitrationDecision where
  mode : ArbitratedRecorderMode
  reasons : List String
  baselineActive : Bool
  eventActive : Bool
  manualActive : Bool
  deriving DecidableEq

/-- `RecordingArbiterService.evaluate`; `upper` is `str.upper`. -/
def evaluateArbiter (zoneInfo : String → Result TimeZone) (upper : String → String) (db : Database) (cameraId : Uuid)
    (cameraEnabled : Bool) (policy : RecordingPolicy) (instant : Int) : Result RecordingArbitrationDecision :=
  if ¬cameraEnabled ∨ ¬policy.enabled then
    .ok { mode := .off, reasons := [], baselineActive := false, eventActive := false, manualActive := false }
  else do
    let baselineActive ← RecordingPolicyService.baselineShouldRecord zoneInfo policy instant
    let activeTriggers := RecordingTriggerService.activeAt db cameraId instant
    let manualActive := activeTriggers.any fun trigger => upper trigger.type = "MANUAL"
    let eventActive := policy.eventRecordingEnabled && activeTriggers.any fun trigger => upper trigger.type ≠ "MANUAL"
    let baseline := if policy.baselineMode = .continuous then "continuous" else "schedule"
    .ok
      { mode := if baselineActive || manualActive then .persistent
          else if policy.eventRecordingEnabled then .prebuffer else .off
        reasons := (if baselineActive then [baseline] else []) ++ (if eventActive then ["event"] else []) ++
          if manualActive then ["manual"] else []
        baselineActive, eventActive, manualActive }

namespace CameraCapabilityHealthService

inductive LayerState where
  | healthy
  | degraded
  | disabled
  | unknown
  deriving DecidableEq

structure CapabilityHealthLayer where
  state : LayerState
  reason : Option String := none
  details : List (String × String) := []

/-- What is read of a camera: its row, its bindings, and its profiles with their status. -/
structure HealthSubject where
  camera : Camera
  bindings : List StreamBinding
  profiles : List (Uuid × String)

def observedText (at_ : Int) : String := String.ofList (IsoFormat.isoformat (Calendar.ofWall at_))

/-- The profile that is bound for recording. -/
def HealthSubject.recordProfile (subject : HealthSubject) : Option (Uuid × String) := do
  let binding ← subject.bindings.find? fun binding => binding.1 = "RECORD"
  subject.profiles.find? fun profile => profile.1 = binding.2.1

/-- `_disabled`. -/
def disabledLayer (camera : Camera) : Option CapabilityHealthLayer :=
  if camera.retiredAt.isSome then some { state := .disabled, reason := some "camera_retired" }
  else if ¬camera.enabled then some { state := .disabled, reason := some "camera_disabled" }
  else none

/-- Evidence of a stream that is online belongs to the generation that is. -/
def sameGeneration (media : Option ZlmMediaHealthObservation) (recording : ZlmRecordingHealthObservation) : Bool :=
  match media with
  | none => true
  | some media =>
    ¬media.online || media.continuityId.isNone ||
      (recording.continuityId.isSome && recording.continuityId = media.continuityId)

/-- The layer of a profile that has to be recorded. -/
def observedRecording (health : ZlmObservedHealthStore) (profileId : Uuid) (mode : ArbitratedRecorderMode) :
    CapabilityHealthLayer :=
  let awaiting : CapabilityHealthLayer :=
    { state := .unknown, reason := some "awaiting_recording_observation", details := [("mode", mode.text)] }
  match (health.media profileId).filter fun media => ¬media.online with
  | some media =>
    { state := .degraded, reason := some "recording_source_offline"
      details := [("observed_at", observedText media.observedAt)] }
  | none =>
    match health.recording profileId with
    | none => awaiting
    | some recording =>
      let details := [("observed_at", observedText recording.observedAt), ("mode", mode.text)]
      if ¬sameGeneration (health.media profileId) recording then awaiting
      else if ¬recording.active then { state := .degraded, reason := some "recording_inactive", details }
      else
        { state := .healthy
          details := details ++ match recording.finalizedAt with
            | none => []
            | some finalizedAt => [("last_finalized_at", observedText finalizedAt)] }

/-- `_recording`. -/
def recordingLayer (zoneInfo : String → Result TimeZone) (upper : String → String) (db : Database)
    (subject : HealthSubject) (health : ZlmObservedHealthStore) (instant : Int) : Result CapabilityHealthLayer :=
  match disabledLayer subject.camera with
  | some layer => .ok layer
  | none =>
    match db.recordingPolicies.get? subject.camera.id with
    | none => .ok { state := .disabled, reason := some "recording_not_enabled" }
    | some policy =>
      if ¬policy.enabled ∨ (policy.baselineMode = .disabled ∧ ¬policy.eventRecordingEnabled) then
        .ok { state := .disabled, reason := some "recording_not_enabled" }
      else if (subject.bindings.find? fun binding => binding.1 = "RECORD").isNone then
        .ok { state := .degraded, reason := some "recording_stream_binding_missing" }
      else
        match subject.recordProfile with
        | none => .ok { state := .degraded, reason := some "recording_stream_binding_invalid" }
        | some (profileId, status) =>
          if status = "unavailable" then .ok { state := .degraded, reason := some "recording_stream_unavailable" }
          else do
            let decision ← evaluateArbiter zoneInfo upper db subject.camera.id subject.camera.enabled policy instant
            if decision.mode = .off then .ok { state := .disabled, reason := some "recording_not_currently_required" }
            else .ok (observedRecording health profileId decision.mode)

end CameraCapabilityHealthService

end ZeroNvr
