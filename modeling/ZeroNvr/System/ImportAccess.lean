import ZeroNvr.Auth.Roles
import ZeroNvr.System.ImportBundle

/-! # Applying the access of a bundle

The roles of a bundle, and the camera scopes of those that could be mapped once
its cameras and groups are.
-/

namespace ZeroNvr.ConfigurationImportService

open Lib

structure ConfigurationApplyItem where
  sectionName : String
  resourceType : String
  sourceId : Option String
  targetId : Option Uuid
  name : Option String
  action : String
  reason : Option String := none

/-- What an import has done so far. -/
structure ApplyState where
  db : Database
  applied : List ConfigurationApplyItem := []
  skipped : List ConfigurationApplyItem := []
  roleMap : List (String × Uuid) := []

/-- `map[key] = value`. -/
def assign (map : List (String × Uuid)) (key : String) (value : Uuid) : List (String × Uuid) :=
  (key, value) :: map.filter fun entry => entry.1 ≠ key

section Apply

variable (env : ImportEnv)

/-- `_apply_item`. -/
def applyItem (resourceType : String) (item : Dict) (action : String) (targetId : Option Uuid) (reason : Option String) :
    ConfigurationApplyItem :=
  { sectionName := "roles"
    resourceType
    sourceId := env.optionalText (Dict.get item "id")
    targetId
    name := env.optionalText (Dict.get item "name")
    action
    reason }

def ApplyState.skip (state : ApplyState) (resourceType : String) (item : Dict) (targetId : Option Uuid) (reason : String) :
    ApplyState :=
  { state with skipped := state.skipped ++ [applyItem env resourceType item "skipped" targetId (some reason)] }

/-- The role of an item is mapped. -/
def ApplyState.mapped (state : ApplyState) (item : Dict) (sourceId : String) (target : Uuid) (action : String) : ApplyState :=
  { state with
    roleMap := assign state.roleMap sourceId target
    applied := state.applied ++ [applyItem env "role" item action (some target) none] }

/-- The texts of a list of permissions. -/
def permissionTexts : Option Json → Result (List String)
  | none => .ok []
  | some (.arr values) => .ok (values.map env.text)
  | some _ => .error (importInvalid "Role permissions must be a list.")

/-- One item of `apply_roles`. -/
def applyRole (uuid4 : Supply Uuid) (state : ApplyState) (item : Dict) : Result ApplyState := do
  let sourceId := env.text (← field item "id")
  let name := env.text (← field item "name")
  let target := state.db.roles.first? fun role => role.name = name
  if Json.truthy (Dict.get item "built_in") then
    match target with
    | some role =>
      if role.builtIn then .ok (state.mapped env item sourceId role.id "matched")
      else .ok (state.skip env "role" item none "builtin_role_unavailable")
    | none => .ok (state.skip env "role" item none "builtin_role_unavailable")
  else
    let permissions ← permissionTexts env (Dict.get item "permissions")
    let description := env.optionalText (Dict.get item "description")
    match target with
    | none =>
      let (db, role) ← AuthAdminService.createRole uuid4 state.db name description permissions
      .ok ({ state with db }.mapped env item sourceId role.id "created")
    | some role =>
      if role.builtIn then .ok (state.skip env "role" item (some role.id) "role_name_conflict")
      else
        let db ← AuthAdminService.updateRole state.db role
          { description := some description, permissions := some permissions }
        .ok ({ state with db }.mapped env item sourceId role.id "updated")

def applyRoles (uuid4 : Supply Uuid) (state : ApplyState) (roles : List Dict) : Result ApplyState :=
  roles.foldlM (applyRole env uuid4) state

/-- The local ids of a list of source ids, unless one of them has none. -/
def mapIds (map : List (String × Uuid)) (sources : List Json) : Option (List Uuid) :=
  sources.mapM fun source => map.lookup (env.text source)

/-- One item of `apply_role_camera_scopes`. -/
def applyRoleCameraScope (cameraMap groupMap : List (String × Uuid)) (state : ApplyState) (item : Dict) :
    Result ApplyState := do
  let sourceId := env.text (← field item "id")
  match state.roleMap.lookup sourceId, Dict.get item "camera_scope" with
  | some targetRole, some (.obj scope) => do
    let mode := env.text (← field scope "mode")
    let cameraIds ← iterate (Dict.get scope "camera_ids")
    match mapIds env cameraMap cameraIds with
    | none => .ok (state.skip env "role_camera_scope" item (some targetRole) "camera_scope_dependency_unmapped")
    | some targetCameras => do
      let groupIds ← iterate (Dict.get scope "camera_group_ids")
      match mapIds env groupMap groupIds with
      | none => .ok (state.skip env "role_camera_scope" item (some targetRole) "camera_scope_dependency_unmapped")
      | some targetGroups => do
        let db ← CameraScopeService.setScope state.db (.role targetRole) mode targetCameras targetGroups
        .ok { state with
          db
          applied := state.applied ++ [applyItem env "role_camera_scope" item "updated" (some targetRole) none] }
  | some _, some .null | some _, none | none, _ => .ok state
  | some _, some _ => .error .assertionError

def applyRoleCameraScopes (cameraMap groupMap : List (String × Uuid)) (state : ApplyState) (roles : List Dict) :
    Result ApplyState :=
  roles.foldlM (applyRoleCameraScope env cameraMap groupMap) state

end Apply

end ZeroNvr.ConfigurationImportService
