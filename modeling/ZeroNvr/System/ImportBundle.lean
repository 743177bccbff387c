import ZeroNvr.Core.Errors
import ZeroNvr.Lib.Outcome
import ZeroNvr.Models

/-! # Configuration bundles

A bundle is a JSON document.  Before anything of it is applied, its envelope and
the shapes of its sections are read, no field may carry a secret, and every
reference must lead to a resource of the bundle.  The counts, the credential
requirements and the warnings of the preflight are left out.
-/

namespace ZeroNvr

open Lib

/-- What an import takes from Python: `str()` of a value that is no text, UUIDs as texts, the rules of
    the time settings. -/
structure ImportEnv where
  str : Json → String
  parseUuid : String → Option Uuid
  uuidText : Uuid → String
  normalizeTime : Dict → Result Unit

namespace ImportEnv

/-- `str(value)`. -/
def text (env : ImportEnv) : Json → String
  | .str value => value
  | value => env.str value

/-- `str(value)`, where `None` stays. -/
def optionalText (env : ImportEnv) : Option Json → Option String
  | none | some .null => none
  | some value => some (env.text value)

end ImportEnv

namespace ConfigurationImportService

def importError (code message : String) : PyError := apiError 400 code message

def importInvalid (message : String) : PyError := importError "configuration_import_invalid" message

def forbiddenKeys : List String :=
  ["secret_ref", "credential_secret_ref", "repository_config_ref", "stream_uri_ref", "encrypted_payload", "token_hash",
    "password_hash", "client_secret", "rclone_config", "rtsp_url", "stream_uri", "http_bearer_token", "http_password",
    "mqtt_password", "secret_access_key", "access_key_id", "password"]

def knownSections : List String :=
  ["general", "time", "roles", "devices", "cameras", "recording", "storage_targets", "alert_policies",
    "notification_targets", "frigate", "backup_policies"]

/-! ## Readers -/

mutual

/-- `_reject_secret_fields`. -/
def rejectSecretFields : Json → Result Unit
  | .obj fields => rejectSecretsOfObject fields
  | .arr items => rejectSecretsOfArray items
  | _ => .ok ()

def rejectSecretsOfObject : List (String × Json) → Result Unit
  | [] => .ok ()
  | (key, child) :: fields =>
    if lower key ∈ forbiddenKeys then
      .error (importError "configuration_import_secret_field" "Configuration import contains a secret-bearing field.")
    else do
      rejectSecretFields child
      rejectSecretsOfObject fields

def rejectSecretsOfArray : List Json → Result Unit
  | [] => .ok ()
  | item :: items => do
    rejectSecretFields item
    rejectSecretsOfArray items

end

/-- `_mapping`. -/
def mapping : Option Json → Result Dict
  | some (.obj fields) => .ok fields
  | _ => .error (importInvalid "Configuration section must be an object.")

/-- `_items`. -/
def items : Option Json → Result (List Dict)
  | some (.arr values) => values.mapM fun value =>
    match value with
    | .obj fields => .ok fields
    | _ => .error (importInvalid "Configuration resource must be an object.")
  | _ => .error (importInvalid "Configuration section must be a list.")

/-- A field, or an empty object or list in its place. -/
def mappingOf (dict : Dict) (key : String) : Result Dict := mapping ((Dict.get dict key).or (some (.obj [])))

def itemsOf (dict : Dict) (key : String) : Result (List Dict) := items ((Dict.get dict key).or (some (.arr [])))

/-- `dict[key]`. -/
def field (item : Dict) (key : String) : Result Json :=
  match Dict.get item key with
  | some value => .ok value
  | none => .error (.keyError key)

/-- `_id_set`. -/
def idSet (resources : List Dict) : Result (List String) :=
  resources.foldlM (fun ids item =>
    match Dict.get item "id" with
    | some (.str id) =>
      if id = "" then .error (importInvalid "Configuration resource is missing an id.")
      else if id ∈ ids then
        .error (importError "configuration_import_duplicate_id" "Configuration contains a duplicate resource id.")
      else .ok (ids ++ [id])
    | _ => .error (importInvalid "Configuration resource is missing an id.")) []

def referenceInvalid (message : String) : PyError := importError "configuration_import_reference_invalid" message

def brokenReference : PyError := referenceInvalid "Configuration contains a broken resource reference."

/-- `_require_ref`. -/
def requireRef (value : Option Json) (allowed : List String) : Result String :=
  match value with
  | some (.str id) => if id ∈ allowed then .ok id else .error brokenReference
  | _ => .error brokenReference

/-- `_require_ref(..., nullable=True)`. -/
def requireNullableRef (value : Option Json) (allowed : List String) : Result (Option String) :=
  match value with
  | none | some .null => .ok none
  | value => some <$> requireRef value allowed

/-- The values a `for` loop takes from a field that is an empty list by default. -/
def iterate : Option Json → Result (List Json)
  | none => .ok []
  | some (.arr values) => .ok values
  | some (.obj fields) => .ok (fields.map fun field => .str field.1)
  | some (.str text) => .ok (text.toList.map fun letter => .str letter.toString)
  | some _ => .error (.typeError "object is not iterable")

def requireRefs (value : Option Json) (allowed : List String) : Result Unit := do
  let ids ← iterate value
  ids.forM fun id => do
    let _ ← requireRef (some id) allowed
    .ok ()

/-! ## Sections -/

structure ParsedSections where
  roles : List Dict
  devices : List Dict
  endpoints : List Dict
  deviceCredentials : List Dict
  cameras : List Dict
  profiles : List Dict
  bindings : List Dict
  groups : List Dict
  members : List Dict
  recordingPolicies : List Dict
  retentionPolicies : List Dict
  storageTargets : List Dict
  alertPolicies : List Dict
  notificationTargets : List Dict
  frigate : Option Dict
  backupPolicies : List Dict

def readEnvelopeSections (bundle : Dict) : Result Dict := do
  if ¬ (Dict.get bundle "format" == some (.str "zero-nvr.configuration")) then
    .error (importError "configuration_import_format_invalid" "Configuration import format is not supported.")
  else if ¬ (Dict.get bundle "format_version" == some (.int 1)) then
    .error (importError "configuration_import_version_unsupported" "Configuration import version is not supported.")
  else match Dict.get bundle "secrets_included" with
    | some (.bool false) =>
      rejectSecretFields (.obj bundle)
      let sections ← mapping (Dict.get bundle "sections")
      if sections.any fun section_ => section_.1 ∉ knownSections then
        .error (importError "configuration_import_section_unsupported"
          "Configuration import contains unsupported sections.")
      else .ok sections
    | _ => .error (importError "configuration_import_secrets_not_allowed"
        "Configuration import must not contain secret material.")

def readFrigate (sections : Dict) : Result (Option Dict) :=
  match Dict.get sections "frigate" with
  | none | some .null => .ok none
  | some (.obj fields) => .ok (some fields)
  | some _ => .error (importInvalid "Frigate configuration must be an object or null.")

def parseBundle (env : ImportEnv) (bundle : Dict) : Result ParsedSections := do
  let sections ← readEnvelopeSections bundle
  let _ ← mappingOf sections "general"
  let timeSettings ← mappingOf sections "time"
  if timeSettings ≠ [] then env.normalizeTime timeSettings
  let roles ← itemsOf sections "roles"
  let devicesSection ← mappingOf sections "devices"
  let devices ← itemsOf devicesSection "devices"
  let endpoints ← itemsOf devicesSection "endpoints"
  let deviceCredentials ← itemsOf devicesSection "credentials"
  let camerasSection ← mappingOf sections "cameras"
  let cameras ← itemsOf camerasSection "cameras"
  let profiles ← itemsOf camerasSection "stream_profiles"
  let bindings ← itemsOf camerasSection "stream_bindings"
  let groups ← itemsOf camerasSection "groups"
  let members ← itemsOf camerasSection "group_members"
  let recordingSection ← mappingOf sections "recording"
  let recordingPolicies ← itemsOf recordingSection "policies"
  let retentionPolicies ← itemsOf recordingSection "retention_policies"
  let storageTargets ← itemsOf sections "storage_targets"
  let alertPolicies ← itemsOf sections "alert_policies"
  let notificationTargets ← itemsOf sections "notification_targets"
  let frigate ← readFrigate sections
  let backupPolicies ← itemsOf sections "backup_policies"
  .ok { roles, devices, endpoints, deviceCredentials, cameras, profiles, bindings, groups, members, recordingPolicies,
        retentionPolicies, storageTargets, alertPolicies, notificationTargets, frigate, backupPolicies }

end ConfigurationImportService

end ZeroNvr
