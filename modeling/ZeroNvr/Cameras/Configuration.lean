import ZeroNvr.Cameras.Service
import ZeroNvr.Lib.Column

/-! # The configuration of a camera

What the adapters work with: whether the camera is enabled and retired, how its time
is kept, and which profile serves which purpose.  A change of it moves the revision
of the camera, and an adapter passes the fence while the revision is the one it has
read.
-/

namespace ZeroNvr

open Lib

/-- Purpose, profile and selection mode. -/
abbrev StreamBinding := String × Uuid × String

/-- The rows of a camera: its own, its bindings, and the source URI of each of its profiles. -/
structure CameraRows where
  camera : Camera
  bindings : List StreamBinding := []
  streamUri : Uuid → Option String := fun _ => none

/-- A session writes the columns of the camera that it has changed, the bindings when it has replaced
    them, and the sources that it has replaced. -/
def CameraRows.flush (read new current : CameraRows) : CameraRows where
  camera := { current.camera with
    name := written read.camera.name new.camera.name current.camera.name
    location := written read.camera.location new.camera.location current.camera.location
    storageLabel := written read.camera.storageLabel new.camera.storageLabel current.camera.storageLabel
    maintenance := written read.camera.maintenance new.camera.maintenance current.camera.maintenance
    enabled := written read.camera.enabled new.camera.enabled current.camera.enabled
    configRevision := written read.camera.configRevision new.camera.configRevision current.camera.configRevision
    timeSyncMode := written read.camera.timeSyncMode new.camera.timeSyncMode current.camera.timeSyncMode
    retiredAt := written read.camera.retiredAt new.camera.retiredAt current.camera.retiredAt }
  bindings := written read.bindings new.bindings current.bindings
  streamUri := fun profileId => written (read.streamUri profileId) (new.streamUri profileId) (current.streamUri profileId)

namespace CameraService

/-- A camera that is retired is disabled, and stays so when it is restored. -/
def withRetired (camera : Camera) (retired : Bool) (now : Int) : Camera :=
  if retired then { camera with retiredAt := some (camera.retiredAt.getD now), enabled := false }
  else if camera.retiredAt.isSome then { camera with retiredAt := none, enabled := false }
  else camera

def setRetired (camera : Camera) (retired : Bool) (now : Int) : Camera :=
  let changed := withRetired camera retired now
  if (camera.retiredAt, camera.enabled) ≠ (changed.retiredAt, changed.enabled) then bumpConfigRevision changed else changed

def streamPurposes : List String := ["RECORD", "LIVE_HIGH", "LIVE_LOW", "AI_DETECT", "SNAPSHOT", "AUDIO"]

/-- The order of the tuples; texts compare by their characters. -/
def bindingBefore (left right : StreamBinding) : Bool :=
  left.1 < right.1 ∨ (left.1 = right.1 ∧ (left.2.1 < right.2.1 ∨ (left.2.1 = right.2.1 ∧ left.2.2 ≤ right.2.2)))

def sortedBindings (bindings : List StreamBinding) : List StreamBinding :=
  bindings.insertionSort fun left right => bindingBefore left right

def replaceBindings (db : Database) (rows : CameraRows) (bindings : List StreamBinding) : Result CameraRows :=
  if ¬(bindings.map Prod.fst).Nodup then
    .error (apiError 400 "duplicate_stream_purpose" "Each stream purpose may be configured only once.")
  else if ¬bindings.all fun binding => binding.1 ∈ streamPurposes then
    .error (apiError 400 "invalid_stream_purpose" "One or more stream purposes are invalid.")
  else if ¬bindings.all fun binding =>
      (db.streamProfiles.get? binding.2.1).any fun profile => profile.cameraId = rows.camera.id then
    .error (apiError 400 "invalid_stream_profile" "A selected stream profile does not belong to this camera.")
  else if sortedBindings rows.bindings = sortedBindings bindings then .ok rows
  else .ok { rows with camera := bumpConfigRevision rows.camera, bindings }

/-- The update touches the row when its revision is the expected one. -/
def fenceConfigRevision (camera : Camera) (expectedRevision : Nat) : Result Unit :=
  if camera.configRevision = expectedRevision then .ok ()
  else .error (apiError 409 "camera_configuration_changed"
    "Camera configuration changed while the adapter operation was running.")

end CameraService

namespace OnvifCapabilityRefreshService

/-- The profiles of the camera whose source has changed get the new one; a profile that is bound has to be
    restarted. -/
def replaceStreamUris : List (Uuid × String) → CameraRows × Bool → CameraRows × Bool
  | [], acc => acc
  | (profileId, uri) :: rest, (rows, restarts) =>
    if rows.streamUri profileId = some uri then replaceStreamUris rest (rows, restarts)
    else
      replaceStreamUris rest
        ({ rows with streamUri := Function.update rows.streamUri profileId (some uri) },
          restarts || rows.bindings.any fun binding => binding.2.1 = profileId)

/-- `apply` as far as the sources of one camera go. -/
def applySources (rows : CameraRows) (probes : List (Uuid × String)) : CameraRows :=
  let (changed, restarts) := replaceStreamUris probes (rows, false)
  if restarts then { changed with camera := CameraService.bumpConfigRevision changed.camera } else changed

end OnvifCapabilityRefreshService

end ZeroNvr
