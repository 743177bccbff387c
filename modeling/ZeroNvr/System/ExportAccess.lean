import ZeroNvr.System.ImportCameraGroups

/-! # Exporting the access of an installation

The roles with their camera scopes, and the camera groups with their members, as
a bundle carries them.  The order of names is the collation of the database, and
ids are written as texts.
-/

namespace ZeroNvr

open Lib

def CameraScopeMode.text : CameraScopeMode → String
  | .all => "all"
  | .selected => "selected"
  | .none => "none"

theorem CameraScopeMode.ofText?_text (mode : CameraScopeMode) : CameraScopeMode.ofText? mode.text = some mode := by
  cases mode <;> rfl

namespace ConfigurationExportService

/-- A text, or `None`. -/
def optional : Option String → Json
  | none => .null
  | some text => .str text

section Export

variable (env : ImportEnv) (collate : String → String → Bool)

/-- `_uuid`. -/
def uuid (id : Option Uuid) : Json := optional (id.map env.uuidText)

/-- `order_by(name, id)`. -/
def byName {ρ : Type} (name : ρ → String) (id : ρ → Uuid) (rows : List ρ) : List ρ :=
  rows.insertionSort fun left right =>
    if name left = name right then id left ≤ id right else collate (name left) (name right) = true

def cameraScope (scope : Option CameraScopeValue) : Json :=
  match scope with
  | none => .null
  | some scope => .obj
      [("mode", .str scope.mode.text),
        ("camera_ids", .arr (scope.cameraIds.map fun id => .str (env.uuidText id))),
        ("camera_group_ids", .arr (scope.cameraGroupIds.map fun id => .str (env.uuidText id)))]

def role (db : Database) (role : Role) : Dict :=
  [("id", .str (env.uuidText role.id)),
    ("name", .str role.name),
    ("description", optional role.description),
    ("built_in", .bool role.builtIn),
    ("permissions", .arr ((role.permissions.insertionSort fun left right => left ≤ right).map .str)),
    ("camera_scope", cameraScope env (CameraScopeService.getScope db (.role role.id)))]

/-- `_roles`. -/
def roles (db : Database) : List Dict := (byName collate Role.name Role.id db.roles.rows).map (role env db)

def cameraGroup (group : CameraGroup) : Dict :=
  [("id", .str (env.uuidText group.id)),
    ("name", .str group.name),
    ("description", optional group.description),
    ("parent_id", uuid env group.parentId)]

/-- The `groups` of `_cameras`. -/
def cameraGroups (db : Database) : List Dict :=
  (byName collate CameraGroup.name CameraGroup.id db.cameraGroups.rows).map (cameraGroup env)

def cameraGroupMember (member : CameraGroupMember) : Dict :=
  [("camera_group_id", .str (env.uuidText member.cameraGroupId)), ("camera_id", .str (env.uuidText member.cameraId))]

/-- `order_by(camera_group_id, camera_id)`. -/
def byGroup (rows : List CameraGroupMember) : List CameraGroupMember :=
  rows.insertionSort fun left right =>
    if left.cameraGroupId = right.cameraGroupId then left.cameraId ≤ right.cameraId
    else left.cameraGroupId ≤ right.cameraGroupId

/-- The `group_members` of `_cameras`. -/
def cameraGroupMembers (db : Database) : List Dict := (byGroup db.cameraGroupMembers.rows).map (cameraGroupMember env)

end Export

/-! ## What an item carries -/

section Items

variable {env : ImportEnv} {collate : String → String → Bool} {db : Database}

theorem byName_perm {ρ : Type} (name : ρ → String) (id : ρ → Uuid) (rows : List ρ) :
    (byName collate name id rows).Perm rows := List.perm_insertionSort _ rows

theorem mem_byGroup {rows : List CameraGroupMember} {member : CameraGroupMember} : member ∈ byGroup rows ↔ member ∈ rows :=
  List.mem_insertionSort _

theorem optionalText_optional (text : Option String) : env.optionalText (some (optional text)) = text := by
  cases text <;> rfl

end Items

end ConfigurationExportService

namespace ConfigurationImportService

/-- The groups and then the camera scopes of the roles, as `apply_cameras` ends. -/
def applyGroupsAndScopes (env : ImportEnv) (uuid4 : Supply Uuid) (db : Database) (roleMap cameraMap : List (String × Uuid))
    (roles groups members : List Dict) : Result (GroupState × ApplyState) := do
  let grouped ← applyCameraGroups env uuid4 { db } groups members cameraMap
  let granted ← applyRoleCameraScopes env cameraMap grouped.groupMap { db := grouped.db, roleMap } roles
  .ok (grouped, granted)

end ConfigurationImportService

end ZeroNvr
