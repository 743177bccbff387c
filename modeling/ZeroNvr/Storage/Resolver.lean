import ZeroNvr.Storage.Service

/-! # The recording storage resolver

The local target a camera records to.  What `pathlib` makes of a path is a
parameter.
-/

namespace ZeroNvr

structure LocalRecordingTarget where
  target : StorageTarget
  root : String

/-- What `pathlib` makes of paths: the resolved root of an absolute path, and a file's path
    relative to a root. -/
structure PathEnv where
  resolveRoot : String → Option String
  isAbsolute : String → Bool
  relativeTo : String → String → Option String

namespace RecordingStorageResolver

variable (env : PathEnv)

def isLocalRecording (target : StorageTarget) : Bool :=
  target.type = .local ∧ target.role = .recording ∧ target.enabled

/-- The target a camera's policy names, or else the default one. -/
def selectTarget (db : Database) (cameraId : Uuid) : Result StorageTarget :=
  match (db.recordingPolicies.get? cameraId).bind RecordingPolicy.storageTargetId with
  | some targetId =>
    match db.storageTargets.get? targetId with
    | some target => .ok target
    | none => .error (apiError 409 "recording_storage_target_missing"
        "Recording storage target is unavailable.")
  | none =>
    let candidates := db.storageTargets.select isLocalRecording
    let defaults := candidates.filter fun item =>
      Json.truthy (Dict.get item.config "default_recording")
    match defaults, candidates with
    | [target], _ => .ok target
    | _ :: _ :: _, _ => .error (apiError 409 "recording_storage_target_ambiguous"
        "More than one default recording storage target is configured.")
    | [], [target] => .ok target
    | [], _ => .error (apiError 409 "recording_storage_target_unconfigured"
        "No local recording storage target is configured.")

def localTargetForCamera (db : Database) (cameraId : Uuid) : Result LocalRecordingTarget := do
  let target ← selectTarget db cameraId
  if ¬ isLocalRecording target then
    .error (apiError 409 "recording_storage_target_invalid"
      "Selected recording storage target is not available for local recording.")
  else
    let rawPath := match Dict.get target.config "path" with
      | some (.str path) => path
      | _ => ""
    if strip rawPath = "" then
      .error (apiError 409 "recording_storage_path_unconfigured"
        "Recording storage target has no local path.")
    else match env.resolveRoot rawPath with
      | some root => .ok { target, root }
      | none => .error (apiError 409 "recording_storage_path_invalid"
          "Recording storage target path must be absolute.")

def relativeObjectPath (targetRoot filePath : String) : Result String :=
  if ¬ env.isAbsolute filePath then
    .error (apiError 422 "recording_file_path_invalid" "Recording file path must be absolute.")
  else match env.relativeTo targetRoot filePath with
    | none => .error (apiError 422 "recording_file_outside_target"
        "Recording file is outside the configured storage target.")
    | some "" => .error (apiError 422 "recording_file_path_invalid" "Recording file path is invalid.")
    | some path => .ok path

end RecordingStorageResolver

end ZeroNvr
