import ZeroNvr.Alerts.Service
import ZeroNvr.Cameras.Configuration
import ZeroNvr.Events.SourceLoss
import ZeroNvr.Zlm.Hooks

/-! # The health of the recording sources

A stream hook about the source that a camera records opens or closes the camera's
incident, with its alerts, in one transaction; when the transaction raises, nothing
is stored.  The bindings are rows of their own, so they stand beside the catalog.
-/

namespace ZeroNvr

open Lib

/-- The bindings of each camera. -/
abbrev StreamBindings := Uuid → List StreamBinding

namespace ZlmHooks

variable (env : CatalogEnv) (uuid4 : Supply Uuid)

/-- The camera has the profile bound for recording. -/
def recordsProfile (bindings : StreamBindings) (profileId cameraId : Uuid) : Bool :=
  (bindings cameraId).any fun binding => binding.1 = "RECORD" ∧ binding.2.1 = profileId

/-- `_recording_camera_id`. -/
def recordingCameraId (db : Database) (bindings : StreamBindings) (stream : String) : Option Uuid :=
  match RecordingCatalogService.profileIdFromStream env stream with
  | .error _ => none
  | .ok profileId => (db.cameras.rows.find? fun camera => recordsProfile bindings profileId camera.id).map Camera.id

/-- A hook about the source itself, not about what ZLM derives from it. -/
def isSourceHook (body : ZlmStreamChangedHook) : Bool := lower body.schema = "rtsp" ∧ body.app = "zero-nvr"

/-- The transaction of `zlm_stream_changed`: the catalog, and the deliveries to make. -/
def persistTransition (db : Database) (bindings : StreamBindings) (body : ZlmStreamChangedHook) (boundaryAt now : Int) :
    Result (Database × List Uuid) :=
  match recordingCameraId env db bindings body.stream with
  | none => .ok (db, [])
  | some cameraId =>
    if body.regist then
      let (db, recovered) := SystemEventService.sourceRecovered db cameraId boundaryAt
      match recovered with
      | some event => .ok ((AlertEvaluationService.resolveEventAlerts db event now).1, [])
      | none => .ok (db, [])
    else do
      let (db, lost) := SystemEventService.sourceLost uuid4 db cameraId boundaryAt
      let (db, evaluated) ← AlertEvaluationService.evaluateEvent env.zoneInfo uuid4 db lost now
      .ok (db, evaluated.deliveryIds)

/-- What `zlm_stream_changed` leaves in the catalog. -/
def recordTransition (db : Database) (bindings : StreamBindings) (body : ZlmStreamChangedHook) (boundaryAt now : Int) :
    Database :=
  if ¬isSourceHook body then db
  else
    match persistTransition env uuid4 db bindings body boundaryAt now with
    | .ok (db, _) => db
    | .error _ => db

/-- What `zlm_server_started` leaves in the catalog. -/
def serverStarted (db : Database) (observedAt : Int) : Database :=
  let cameraIds := (db.recordingPolicies.select RecordingPolicy.enabled).map RecordingPolicy.cameraId
  SystemEventService.runtimeRestarted uuid4 db cameraIds observedAt

end ZlmHooks

end ZeroNvr
