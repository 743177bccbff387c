import ZeroNvr.System.ImportBundle

/-! # The references of a bundle -/

namespace ZeroNvr.ConfigurationImportService

open Lib

variable (env : ImportEnv)

structure ReferenceIds where
  roleIds : List String
  deviceIds : List String
  deviceAdapterTypes : List (String × String)
  endpointIds : List String
  cameraIds : List String
  profileIds : List String
  groupIds : List String
  storageIds : List String
  retentionIds : List String
  notificationIds : List String

/-! ## Devices -/

/-- The device of each endpoint, the last one for an id first. -/
def endpointDevices (endpoints : List Dict) (ids : ReferenceIds) : Result (List (String × String)) :=
  endpoints.foldlM (fun devices item => do
    let deviceId ← requireRef (Dict.get item "device_id") ids.deviceIds
    let id ← field item "id"
    .ok ((env.text id, deviceId) :: devices)) []

def validateDevicesReferences (parsed : ParsedSections) (ids : ReferenceIds) : Result Unit := do
  let devices ← endpointDevices env parsed.endpoints ids
  parsed.deviceCredentials.forM fun item => do
    let deviceId ← requireRef (Dict.get item "device_id") ids.deviceIds
    match Dict.get item "endpoint_id" with
    | none | some .null => .ok ()
    | endpointId =>
      let endpoint ← requireRef endpointId ids.endpointIds
      if devices.lookup endpoint ≠ some deviceId then
        .error (referenceInvalid "Device credential endpoint belongs to a different device.")
      else .ok ()

/-! ## Cameras -/

def timeSyncModeInvalid : PyError := importInvalid "Camera time synchronization mode is invalid."

/-- The mode of an item, if it has one. -/
def timeSyncMode (item : Dict) : Result (Option String) :=
  match Dict.get item "time_sync_mode" with
  | none | some .null => .ok none
  | some (.str mode) => if mode ∈ ["monitor", "manage_ntp", "ignore"] then .ok (some mode) else .error timeSyncModeInvalid
  | some _ => .error timeSyncModeInvalid

def validateCamera (ids : ReferenceIds) (item : Dict) : Result Unit := do
  match Dict.get item "maintenance" with
  | none | some (.bool _) => pure ()
  | some _ => .error (importInvalid "Camera maintenance state is invalid.")
  let mode ← timeSyncMode item
  let deviceId ← requireNullableRef (Dict.get item "device_id") ids.deviceIds
  if mode.any (· ≠ "ignore") ∧ deviceId.bind (fun id => ids.deviceAdapterTypes.lookup id) ≠ some "onvif" then
    .error (importInvalid "Camera time synchronization mode requires an ONVIF device.")
  else .ok ()

/-- The camera of each profile, the last one for an id first. -/
def profileCameras (profiles : List Dict) (ids : ReferenceIds) : Result (List (String × String)) :=
  profiles.foldlM (fun cameras item => do
    let cameraId ← requireRef (Dict.get item "camera_id") ids.cameraIds
    let id ← field item "id"
    .ok ((env.text id, cameraId) :: cameras)) []

def validateGroupReferences (parsed : ParsedSections) (ids : ReferenceIds) : Result Unit := do
  parsed.groups.forM fun item =>
    match Dict.get item "parent_id" with
    | none | some .null => .ok ()
    | parent => do
      let resolved ← requireRef parent ids.groupIds
      if Dict.get item "id" == some (.str resolved) then
        .error (referenceInvalid "Camera group cannot be its own parent.")
      else .ok ()
  parsed.members.forM fun item => do
    let _ ← requireRef (Dict.get item "camera_group_id") ids.groupIds
    let _ ← requireRef (Dict.get item "camera_id") ids.cameraIds
    .ok ()
  parsed.roles.forM fun item =>
    match Dict.get item "camera_scope" with
    | none | some .null => .ok ()
    | value => do
      let scope ← mapping value
      requireRefs (Dict.get scope "camera_ids") ids.cameraIds
      requireRefs (Dict.get scope "camera_group_ids") ids.groupIds

def validateCamerasReferences (parsed : ParsedSections) (ids : ReferenceIds) : Result Unit := do
  parsed.cameras.forM (validateCamera ids)
  let cameras ← profileCameras env parsed.profiles ids
  parsed.bindings.forM fun item => do
    let cameraId ← requireRef (Dict.get item "camera_id") ids.cameraIds
    let profileId ← requireRef (Dict.get item "stream_profile_id") ids.profileIds
    if cameras.lookup profileId ≠ some cameraId then
      .error (referenceInvalid "Camera stream binding references a profile from another camera.")
    else .ok ()
  validateGroupReferences parsed ids

/-! ## Recording -/

def validateRecordingReferences (parsed : ParsedSections) (ids : ReferenceIds) : Result Unit := do
  parsed.retentionPolicies.forM fun item =>
    let scopeId := Dict.get item "scope_id"
    match Dict.get item "scope_type" with
    | some (.str "GLOBAL") =>
      match scopeId with
      | none | some .null => .ok ()
      | some _ => .error (referenceInvalid "Global retention policy must not have a scope id.")
    | some (.str "CAMERA") => do
      let _ ← requireRef scopeId ids.cameraIds
      .ok ()
    | some (.str "CAMERA_GROUP") => do
      let _ ← requireRef scopeId ids.groupIds
      .ok ()
    | _ => .error (importInvalid "Retention policy scope type is invalid.")
  parsed.recordingPolicies.forM fun item => do
    let _ ← requireRef (Dict.get item "camera_id") ids.cameraIds
    let _ ← requireNullableRef (Dict.get item "storage_target_id") ids.storageIds
    let _ ← requireNullableRef (Dict.get item "retention_policy_id") ids.retentionIds
    .ok ()

/-! ## Integrations -/

def objectOf (item : Dict) (key message : String) : Result Dict :=
  match Dict.get item key with
  | none => .ok []
  | some (.obj fields) => .ok fields
  | some _ => .error (importInvalid message)

def validateIntegrationsReferences (parsed : ParsedSections) (ids : ReferenceIds) : Result Unit := do
  parsed.frigate.toList.forM fun frigate => do
    let cameraMap ← objectOf frigate "camera_map" "Frigate camera map must be an object."
    cameraMap.forM fun mapped => do
      let _ ← requireRef (some mapped.2) ids.cameraIds
      .ok ()
  parsed.alertPolicies.forM fun item => do
    let match_ ← objectOf item "match" "Alert match configuration must be an object."
    let action ← objectOf item "action" "Alert action configuration must be an object."
    requireRefs (Dict.get match_ "camera_ids") ids.cameraIds
    requireRefs (Dict.get action "notification_target_ids") ids.notificationIds

/-! ## All references -/

def validateReferences (parsed : ParsedSections) : Result Unit := do
  let roleIds ← idSet parsed.roles
  let deviceIds ← idSet parsed.devices
  let deviceAdapterTypes := parsed.devices.filterMap fun item =>
    (Dict.get item "id").map fun id =>
      (env.text id, ((Dict.get item "adapter_type").map env.text).getD "")
  let endpointIds ← idSet parsed.endpoints
  let cameraIds ← idSet parsed.cameras
  let profileIds ← idSet parsed.profiles
  let groupIds ← idSet parsed.groups
  let storageIds ← idSet parsed.storageTargets
  let retentionIds ← idSet parsed.retentionPolicies
  let notificationIds ← idSet parsed.notificationTargets
  let ids : ReferenceIds :=
    { roleIds, deviceIds, deviceAdapterTypes, endpointIds, cameraIds, profileIds, groupIds, storageIds, retentionIds
      notificationIds }
  validateDevicesReferences env parsed ids
  validateCamerasReferences env parsed ids
  validateRecordingReferences parsed ids
  validateIntegrationsReferences parsed ids

def validate (bundle : Dict) : Result Unit := do
  let parsed ← parseBundle env bundle
  validateReferences env parsed

end ZeroNvr.ConfigurationImportService
