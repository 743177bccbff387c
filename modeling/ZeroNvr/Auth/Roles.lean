import ZeroNvr.Auth.CameraScope

/-! # Roles

A role that is created has a camera scope from the start, and the scope is empty.
-/

namespace ZeroNvr

open Lib

/-- The `changes` of an update; the outer `none` is a field that is absent. -/
structure RoleChanges where
  name : Option String := none
  description : Option (Option String) := none
  permissions : Option (List String) := none

namespace AuthAdminService

def allPermissions : List String :=
  ["camera.view", "camera.control", "camera.configure", "recording.view", "recording.export", "recording.protect",
    "recording.delete", "event.view", "alert.view", "alert.acknowledge", "alert.manage", "notification.view",
    "notification.manage", "storage.manage", "system.view", "system.manage", "user.manage", "integration.manage",
    "audit.view"]

/-- `sorted(set(permissions))`, each of them known. -/
def validatePermissions (permissions : List String) : Result (List String) :=
  if permissions.any (· ∉ allPermissions) then
    .error (apiError 400 "invalid_permissions" "One or more permissions are not supported.")
  else .ok (permissions.dedup.insertionSort fun left right => left ≤ right)

def nameConflict : PyError := apiError 409 "role_name_conflict" "Role name already exists."

/-- A new id is in use by no role, and by no scope either. -/
def newRoleId (db : Database) (uuid4 : Supply Uuid) : Uuid :=
  uuid4.next (db.roles.rows.map Role.id ++ db.principalCameraScopes.rows.filterMap fun scope =>
    match scope.principal with
    | .role id => some id
    | .user _ => none)

def createRole (uuid4 : Supply Uuid) (db : Database) (name : String) (description : Option String)
    (permissions : List String) : Result (Database × Role) := do
  let normalized ← validatePermissions permissions
  if db.roles.rows.any fun role => role.name = name then .error nameConflict
  else
    let role : Role := { id := newRoleId db uuid4, name, description, permissions := normalized }
    match db.roles.insert? role with
    | none => .error .integrityError
    | some roles => .ok (CameraScopeService.ensureScope { db with roles } (.role role.id) .none, role)

/-- The permissions to add are added, those to drop are dropped. -/
def replacePermissions (existing desired : List String) : List String :=
  existing.filter (· ∈ desired) ++ desired.filter (· ∉ existing)

def changedRole (role : Role) (changes : RoleChanges) : Result Role := do
  let renamed := { role with
    name := changes.name.getD role.name
    description := changes.description.getD role.description }
  match changes.permissions with
  | none => .ok renamed
  | some permissions =>
    let normalized ← validatePermissions permissions
    .ok { renamed with permissions := replacePermissions role.permissions normalized }

def updateRole (db : Database) (role : Role) (changes : RoleChanges) : Result Database := do
  if role.builtIn then .error (apiError 409 "builtin_role_immutable" "Built-in roles cannot be modified.")
  else
    let changed ← changedRole role changes
    if db.roles.rows.any fun other => other.name = changed.name ∧ other.id ≠ role.id then .error nameConflict
    else .ok { db with roles := db.roles.put { changed with id := role.id } }

/-! ## What the operations leave -/

section Specs

variable {uuid4 : Supply Uuid} {db db' : Database} {role : Role}

theorem mem_of_validatePermissions {permissions normalized : List String}
    (validated : validatePermissions permissions = .ok normalized) {permission : String} :
    permission ∈ normalized ↔ permission ∈ permissions := by
  unfold validatePermissions at validated
  split at validated
  · cases validated
  · cases validated
    rw [List.mem_insertionSort, List.mem_dedup]

theorem mem_replacePermissions {existing desired : List String} {permission : String} :
    permission ∈ replacePermissions existing desired ↔ permission ∈ desired := by
  unfold replacePermissions
  simp only [List.mem_append, List.mem_filter, decide_eq_true_eq]
  tauto

/-- The scopes and groups of a database are those of another. -/
structure SameScopes (db db' : Database) : Prop where
  scopes : ∀ principal, CameraScopeService.getScope db' principal = CameraScopeService.getScope db principal
  groups : db'.cameraGroups = db.cameraGroups
  members : db'.cameraGroupMembers = db.cameraGroupMembers

end Specs

end AuthAdminService

end ZeroNvr
