import ZeroNvr.Core.Errors
import ZeroNvr.Lib.Outcome
import ZeroNvr.Models

/-! # Changes of a camera

The fields of the device behind the camera are left out; no change of them is
asked for here.
-/

namespace ZeroNvr

open Lib

/-- The `changes` of an update; the outer `none` is a field that is absent. -/
structure CameraChanges where
  name : Option String := none
  location : Option (Option String) := none
  storageLabel : Option (Option String) := none
  maintenance : Option Bool := none
  timeSyncMode : Option Json := none

namespace CameraService

def timeSyncModes : List String := ["monitor", "manage_ntp", "ignore"]

def bumpConfigRevision (camera : Camera) : Camera := { camera with configRevision := camera.configRevision + 1 }

/-- The mode that is asked for, if the device of the camera can follow it. -/
def checkedTimeSyncMode (db : Database) (camera : Camera) : Option Json → Result (Option String)
  | none => .ok none
  | some (.str mode) =>
    if mode ∉ timeSyncModes then
      .error (apiError 400 "camera_time_sync_mode_invalid" "Camera time synchronization mode is invalid.")
    else if mode ≠ "ignore" ∧ (camera.deviceId.bind db.devices.get?).all fun device => device.adapterType ≠ "onvif" then
      .error (apiError 400 "camera_time_sync_unsupported"
        "Camera does not support managed device-time monitoring.")
    else .ok (some mode)
  | some _ => .error (apiError 400 "camera_time_sync_mode_invalid" "Camera time synchronization mode is invalid.")

def updateCamera (db : Database) (camera : Camera) (changes : CameraChanges) : Result Camera := do
  let mode ← checkedTimeSyncMode db camera changes.timeSyncMode
  let changed := { camera with
    name := changes.name.getD camera.name
    location := changes.location.getD camera.location
    storageLabel := changes.storageLabel.getD camera.storageLabel
    maintenance := changes.maintenance.getD camera.maintenance
    timeSyncMode := mode.getD camera.timeSyncMode }
  .ok (if mode.getD camera.timeSyncMode ≠ camera.timeSyncMode then bumpConfigRevision changed else changed)

def setEnabled (camera : Camera) (enabled : Bool) : Result Camera :=
  if enabled ∧ camera.retiredAt.isSome then
    .error (apiError 409 "camera_retired" "Retired camera must be restored before it can be enabled.")
  else if camera.enabled ≠ enabled then .ok (bumpConfigRevision { camera with enabled })
  else .ok camera

end CameraService

end ZeroNvr
