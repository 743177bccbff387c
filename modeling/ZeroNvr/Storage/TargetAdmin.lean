import ZeroNvr.Storage.Capacity
import ZeroNvr.Storage.Resolver

/-! # The administration of storage targets

Creating, changing and deleting targets, and moving the recording of every camera
from one local target to another.  Credentials are kept outside the catalog:
building an rclone configuration, testing it and the secret store are parameters.
-/

namespace ZeroNvr

open Lib

/-- What the administration of targets takes from outside the catalog. -/
structure TargetEnv where
  paths : PathEnv
  capacity : CapacityEnv
  openlistRcloneConfig : Dict → Dict → Result String
  replaceRcloneSecret : StorageTarget → String → Option Dict → Result Unit
  deleteRcloneSecret : StorageTarget → Result Unit

structure RecordingTargetSwitchResult where
  sourceTargetId : Uuid
  destinationTargetId : Uuid
  explicitPoliciesUpdated : Nat
  implicitPoliciesRebound : Nat
  defaultMoved : Bool
  affectedCameraIds : List Uuid
  deriving DecidableEq

def StorageType.text : StorageType → String
  | .local => "local"
  | .rclone => "rclone"

namespace StorageTargetService

variable (env : TargetEnv)

/-! ## Configurations -/

def configInvalid (message : String) : PyError := apiError 400 "storage_target_config_invalid" message

def localConfig (role : StorageRole) (config : Dict) : Result Dict :=
  if config.any fun field => field.1 ∉ ["path", "default_recording", LocalStorageCapacityService.warningKey,
      LocalStorageCapacityService.highKey, LocalStorageCapacityService.criticalKey] then
    .error (configInvalid "Local storage target contains unsupported configuration.")
  else
    let pathRequired := apiError 400 "storage_target_path_required" "Local storage target requires an absolute path."
    match Dict.get config "path" with
    | some (.str rawPath) =>
      if strip rawPath = "" then .error pathRequired
      else match env.paths.resolveRoot rawPath with
        | none => .error (apiError 400 "storage_target_path_invalid" "Local storage target path must be absolute.")
        | some path =>
          let defaultRecording := Json.truthy (Dict.get config "default_recording")
          if role ≠ .recording ∧ defaultRecording then
            .error (configInvalid "Only a recording target can be the default recording target.")
          else do
            let watermarks ← LocalStorageCapacityService.normalizeConfig config
            .ok ([("path", .str path), ("default_recording", .bool defaultRecording)] ++ watermarks)
    | _ => .error pathRequired

def isAlphanumeric (c : Char) : Bool :=
  ('A' ≤ c && c ≤ 'Z') || ('a' ≤ c && c ≤ 'z') || ('0' ≤ c && c ≤ '9')

/-- `_REMOTE_RE.fullmatch`. -/
def remoteMatch (value : String) : Bool :=
  match value.toList with
  | [] => false
  | first :: rest => isAlphanumeric first && rest.length ≤ 63 &&
      rest.all fun c => isAlphanumeric c || c = '_' || c = '-'

/-- A part of an object path that rclone would not take literally. -/
def unsafePart (part : String) : Bool :=
  part = "." ∨ part = ".." ∨ part.toList.any fun c => c = ':' ∨ c.toNat = 92

def rcloneProvider (config : Dict) : Result Dict :=
  match Dict.get config "provider" with
  | none | some .null => .ok []
  | some (.str provider) =>
    if provider ∈ ["custom", "openlist_webdav"] then .ok [("provider", .str provider)]
    else .error (apiError 400 "rclone_provider_invalid" "rclone archive provider is invalid.")
  | some (.arr _) | some (.obj _) => .error (.typeError "unhashable type")
  | some _ => .error (apiError 400 "rclone_provider_invalid" "rclone archive provider is invalid.")

def rcloneConfig (role : StorageRole) (config : Dict) : Result Dict :=
  if role ≠ .archive then
    .error (apiError 400 "storage_target_role_invalid"
      "rclone targets are archive targets; cameras always record locally first.")
  else if config.any fun field => field.1 ∉ ["remote", "base_path", "default_archive", "provider"] then
    .error (configInvalid "rclone target contains unsupported configuration.")
  else
    let remoteInvalid := apiError 400 "rclone_remote_invalid" "rclone remote name is invalid."
    let baseInvalid := apiError 400 "rclone_base_path_invalid" "rclone archive base path is invalid."
    match Dict.get config "remote", (Dict.get config "base_path").getD (.str "") with
    | some (.str remote), rawBase =>
      if ¬ remoteMatch (strip remote) then .error remoteInvalid
      else match rawBase with
        | .str rawBase =>
          -- The empty parts include what `strip("/")` takes off.
          let parts := ((strip rawBase).splitOn "/").filter (· ≠ "")
          if parts.any unsafePart then .error baseInvalid
          else do
            let provider ← rcloneProvider config
            .ok ([("remote", .str (strip remote)), ("base_path", .str ("/".intercalate parts))] ++ provider ++
              if Json.truthy (Dict.get config "default_archive") then [("default_archive", .bool true)] else [])
        | _ => .error baseInvalid
    | _, _ => .error remoteInvalid

def normalizeConfig (type : StorageType) (role : StorageRole) (config : Dict) : Result Dict :=
  match type with
  | .local => localConfig env role config
  | .rclone => rcloneConfig role config

/-! ## Uniqueness -/

def ensureNameAvailable (db : Database) (name : String) (excludeId : Option Uuid) : Result Unit :=
  if db.storageTargets.rows.any fun target => target.name = name ∧ some target.id ≠ excludeId then
    .error (apiError 409 "storage_target_name_conflict" "Storage target name is already in use.")
  else .ok ()

/-- The target is enabled and claims the flag of its role. -/
def claimsDefault (type : StorageType) (role : StorageRole) (flagKey : String) (target : StorageTarget) : Bool :=
  target.type = type ∧ target.role = role ∧ target.enabled ∧ Json.truthy (Dict.get target.config flagKey)

/-- `_ensure_default_target_unique`, for the target as it is going to be stored. -/
def ensureDefaultTargetUnique (db : Database) (targetId : Option Uuid) (target : StorageTarget)
    (expectedType : StorageType) (expectedRole : StorageRole) (flagKey errorCode errorMessage : String) :
    Result Unit :=
  if ¬ claimsDefault expectedType expectedRole flagKey target then .ok ()
  else if db.storageTargets.rows.any fun existing =>
      claimsDefault expectedType expectedRole flagKey existing ∧ some existing.id ≠ targetId then
    .error (apiError 409 errorCode errorMessage)
  else .ok ()

def ensureDefaultRecordingUnique (db : Database) (targetId : Option Uuid) (target : StorageTarget) : Result Unit :=
  ensureDefaultTargetUnique db targetId target .local .recording "default_recording"
    "default_recording_target_conflict" "Only one enabled local recording target can be the default."

def ensureDefaultArchiveUnique (db : Database) (targetId : Option Uuid) (target : StorageTarget) : Result Unit :=
  ensureDefaultTargetUnique db targetId target .rclone .archive "default_archive"
    "default_archive_target_conflict" "Only one enabled rclone archive target can be the default."

/-! ## Create -/

def configConflict : PyError := apiError 400 "rclone_config_conflict"
  "Provide either raw rclone configuration or OpenList WebDAV credentials, not both."

/-- The rclone credentials of a new target; OpenList credentials name the provider. -/
def newCredentials (target : StorageTarget) (rcloneConfig : Option String) (openlistWebdav : Option Dict) :
    Result StorageTarget :=
  match rcloneConfig, openlistWebdav with
  | some _, some _ => .error configConflict
  | none, some credentials => do
    let config := Dict.set target.config "provider" (.str "openlist_webdav")
    let text ← env.openlistRcloneConfig config credentials
    env.replaceRcloneSecret { target with config } text none
    .ok { target with config }
  | some text, none => do
    env.replaceRcloneSecret target text none
    .ok target
  | none, none => .error (apiError 400 "rclone_config_required"
      "rclone target requires credential configuration.")

def insertTarget (db : Database) (target : StorageTarget) : Result Database :=
  match db.storageTargets.insert? target with
  | some storageTargets => .ok { db with storageTargets }
  | none => .error .integrityError

def create (uuid4 : Supply Uuid) (db : Database) (type : StorageType) (role : StorageRole) (name : String)
    (enabled : Bool) (config : Dict) (rcloneConfig : Option String) (openlistWebdav : Option Dict) :
    Result Database := do
  let normalized ← normalizeConfig env type role config
  ensureNameAvailable db (strip name) none
  let target : StorageTarget :=
    { id := db.storageTargets.newKey uuid4, type, role, name := strip name, enabled, config := normalized }
  ensureDefaultRecordingUnique db none target
  ensureDefaultArchiveUnique db none target
  match type with
  | .rclone =>
    let stored ← newCredentials env target rcloneConfig openlistWebdav
    insertTarget db stored
  | .local =>
    if rcloneConfig.isSome ∨ openlistWebdav.isSome then
      .error (apiError 400 "storage_target_credentials_not_allowed"
        "Local storage target does not use rclone/OpenList credentials.")
    else insertTarget db target

/-! ## Update -/

def get (db : Database) (targetId : Uuid) : Result StorageTarget :=
  match db.storageTargets.get? targetId with
  | some target => .ok target
  | none => .error (apiError 404 "storage_target_not_found" "Storage target was not found.")

def changedName (db : Database) (changes : Dict) (target : StorageTarget) : Result StorageTarget :=
  let nameInvalid := apiError 400 "storage_target_name_invalid" "Storage target name is invalid."
  match Dict.get changes "name" with
  | none => .ok target
  | some (.str name) =>
    if strip name = "" then .error nameInvalid
    else do
      ensureNameAvailable db (strip name) (some target.id)
      .ok { target with name := strip name }
  | some _ => .error nameInvalid

def changedEnabled (changes : Dict) (target : StorageTarget) : StorageTarget :=
  match Dict.get changes "enabled" with
  | none => target
  | some enabled => { target with enabled := Json.truthy (some enabled) }

/-- Both configurations have a path and the two differ. -/
def pathMoves (current next : Dict) : Bool :=
  match Dict.get current "path", Dict.get next "path" with
  | some (.str currentPath), some (.str nextPath) => currentPath ≠ nextPath
  | _, _ => false

def changedConfig (changes : Dict) (target : StorageTarget) : Result StorageTarget :=
  match Dict.get changes "config" with
  | none => .ok target
  | some (.obj config) => do
    let normalized ← normalizeConfig env target.type target.role config
    if target.type = .local ∧ target.role = .recording ∧ pathMoves target.config normalized then
      .error (apiError 409 "storage_target_path_immutable"
        ("Recording target paths cannot be changed in place. Create another local target and switch recording " ++
          "routing so historical RecordingLocations keep their original target identity."))
    else .ok { target with config := normalized }
  | some _ => .error (configInvalid "Storage target configuration is invalid.")

/-- `str(changes.get("rclone_config_action", "keep"))`, up to values that no action is spelled as. -/
def credentialAction (changes : Dict) : String :=
  match Dict.get changes "rclone_config_action" with
  | none => "keep"
  | some (.str action) => action
  | some _ => ""

def updateInvalid (message : String) : PyError := apiError 400 "rclone_config_update_invalid" message

/-- The value that `replace` stores, and the target with the provider it came from. -/
def replacement (changes : Dict) (openlistWebdav : Option Dict) (target : StorageTarget) :
    Result (StorageTarget × String) :=
  let raw := (Dict.get changes "rclone_config").filter fun value => match value with
    | .null => false
    | _ => true
  match raw, openlistWebdav with
  | some _, some _ => .error configConflict
  | _, some credentials => do
    let config := Dict.set target.config "provider" (.str "openlist_webdav")
    let text ← env.openlistRcloneConfig config credentials
    .ok ({ target with config }, text)
  | some (.str text), none => .ok (target, text)
  | _, none => .error (apiError 400 "rclone_config_invalid" "rclone configuration is invalid.")

def changedCredentials (changes : Dict) (openlistWebdav : Option Dict) (target : StorageTarget) :
    Result StorageTarget :=
  let action := credentialAction changes
  if action ∉ ["keep", "replace", "clear"] then .error (updateInvalid "rclone credential action is invalid.")
  else if action ≠ "keep" ∧ target.type ≠ .rclone then
    .error (apiError 400 "storage_target_credentials_not_allowed"
      "Local storage target does not use rclone credentials.")
  else if action = "replace" then do
    let (stored, text) ← replacement env changes openlistWebdav target
    env.replaceRcloneSecret stored text (some stored.config)
    .ok stored
  else if action = "clear" then
    if (Dict.get changes "rclone_config").isSome then
      .error (updateInvalid "rclone credential clear action does not accept a replacement value.")
    else do
      env.deleteRcloneSecret target
      .ok target
  else if (Dict.get changes "rclone_config").isSome ∨ openlistWebdav.isSome then
    .error (updateInvalid "rclone credential value requires action=replace.")
  else .ok target

/-- `changes.pop("openlist_webdav", None)`. -/
def poppedOpenlist (changes : Dict) : Result (Option Dict) :=
  match Dict.get changes "openlist_webdav" with
  | none | some .null => .ok none
  | some (.obj credentials) => .ok (some credentials)
  | some _ => .error (apiError 400 "openlist_webdav_credentials_invalid" "OpenList WebDAV credentials are invalid.")

/-- The row takes the values of the target, under its own key. -/
def stored (target row : StorageTarget) : StorageTarget := { target with id := row.id }

theorem stored_key (target row : StorageTarget) : Keyed.key (stored target row) = Keyed.key row := rfl

def storeTarget (db : Database) (target : StorageTarget) : Database :=
  { db with storageTargets := db.storageTargets.modify target.id (stored target) (stored_key target) }

def update (db : Database) (targetId : Uuid) (changes : Dict) : Result Database := do
  let target ← get db targetId
  let openlistWebdav ← poppedOpenlist changes
  let named ← changedName db changes target
  let configured ← changedConfig env changes (changedEnabled changes named)
  ensureDefaultRecordingUnique db (some targetId) configured
  ensureDefaultArchiveUnique db (some targetId) configured
  let updated ← changedCredentials env changes openlistWebdav configured
  .ok (storeTarget db updated)

/-! ## Switching the recording target -/

def switchInvalid (message : String) : PyError := apiError 409 "storage_target_switch_invalid" message

def isRecordingTarget (target : StorageTarget) : Bool := target.type = .local ∧ target.role = .recording

/-- Every policy that names the source names the destination. -/
def rebound (sourceId destinationId : Uuid) (policy : RecordingPolicy) : RecordingPolicy :=
  if policy.storageTargetId = some sourceId then { policy with storageTargetId := some destinationId } else policy

theorem rebound_key (sourceId destinationId : Uuid) (policy : RecordingPolicy) :
    Keyed.key (rebound sourceId destinationId policy) = Keyed.key policy := by
  unfold rebound
  split <;> rfl

def withDefaultRecording (target : StorageTarget) (flag : Bool) : StorageTarget :=
  { target with config := Dict.set target.config "default_recording" (.bool flag) }

def activeDefaults (db : Database) : List StorageTarget :=
  (db.storageTargets.select RecordingStorageResolver.isLocalRecording).filter fun item =>
    Json.truthy (Dict.get item.config "default_recording")

def checkRoute (source destination : StorageTarget) : Result (String × String) :=
  if source.id = destination.id then
    .error (apiError 400 "storage_target_switch_same_target"
      "Source and destination storage targets must differ.")
  else if ¬ isRecordingTarget source then
    .error (switchInvalid "The source target must be a local recording target.")
  else if ¬ isRecordingTarget destination then
    .error (switchInvalid "The destination target must be a local recording target.")
  else if ¬ destination.enabled then
    .error (apiError 409 "storage_target_destination_disabled" "Destination recording target must be enabled.")
  else match Dict.get source.config "path", Dict.get destination.config "path" with
    | some (.str sourcePath), some (.str destinationPath) =>
      if sourcePath = destinationPath then
        .error (apiError 409 "storage_target_switch_same_path"
          "Source and destination recording targets must use different paths.")
      else .ok (sourcePath, destinationPath)
    | _, _ => .error (switchInvalid "Recording target path configuration is invalid.")

def switchRecordingTarget (db : Database) (sourceId destinationId : Uuid) :
    Result (Database × RecordingTargetSwitchResult) := do
  let source ← get db sourceId
  let destination ← get db destinationId
  let (_, destinationPath) ← checkRoute source destination
  let _ ← LocalStorageCapacityService.ensureWriteCapacity env.capacity destinationPath destination.config
  let explicitPolicies := db.recordingPolicies.select fun policy => policy.storageTargetId = some source.id
  let implicitPolicies := db.recordingPolicies.select fun policy => policy.storageTargetId = none
  let sourceIsDefault := (activeDefaults db).any fun item => item.id = source.id
  -- Without any active default the switch makes the destination the default of implicit policies.
  let moveDefault := sourceIsDefault || ((activeDefaults db).isEmpty && !implicitPolicies.isEmpty)
  if explicitPolicies.isEmpty ∧ ¬ moveDefault then
    .error (apiError 409 "storage_target_not_routed"
      "No recording policy currently routes writes through the selected source target.")
  else
    let routed := { db with
      recordingPolicies := db.recordingPolicies.mapRows (rebound source.id destination.id) (rebound_key _ _) }
    let result (affected : List RecordingPolicy) : RecordingTargetSwitchResult :=
      { sourceTargetId := source.id, destinationTargetId := destination.id
        explicitPoliciesUpdated := explicitPolicies.length
        implicitPoliciesRebound := if moveDefault then implicitPolicies.length else 0
        defaultMoved := moveDefault
        affectedCameraIds := (affected.map RecordingPolicy.cameraId).dedup.insertionSort (· ≤ ·) }
    if moveDefault then do
      let moved := storeTarget (storeTarget routed (withDefaultRecording source false))
        (withDefaultRecording destination true)
      ensureDefaultRecordingUnique moved (some destination.id) (withDefaultRecording destination true)
      .ok (moved, result (explicitPolicies ++ implicitPolicies))
    else .ok (routed, result explicitPolicies)

/-! ## Delete -/

def delete (db : Database) (targetId : Uuid) : Result Database := do
  let target ← get db targetId
  if (db.locations.rows.any fun location => location.storageTargetId = target.id) ∨
      db.recordingPolicies.rows.any fun policy => policy.storageTargetId = some target.id then
    .error (apiError 409 "storage_target_in_use" "Storage target is referenced by recording data or policy.")
  else do
    env.deleteRcloneSecret target
    .ok { db with storageTargets := db.storageTargets.remove target.id }

end StorageTargetService

end ZeroNvr
