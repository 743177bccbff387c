import ZeroNvr.Auth.Roles

/-! # Users

The account operations of an administrator, and the setup of the first one.  The
password hash is a parameter.
-/

namespace ZeroNvr

open Lib

def adminRoleName : String := "Administrator"

/-- The `changes` of an update; the outer `none` is a field that is absent. -/
structure UserChanges where
  displayName : Option String := none
  email : Option (Option String) := none
  roleIds : Option (List Uuid) := none

namespace AuthAdminService

def getUser (db : Database) (userId : Uuid) : Result User :=
  match db.users.get? userId with
  | some user => .ok user
  | none => .error (apiError 404 "user_not_found" "User was not found.")

def getRole (db : Database) (roleId : Uuid) : Result Role :=
  match db.roles.get? roleId with
  | some role => .ok role
  | none => .error (apiError 404 "role_not_found" "Role was not found.")

/-- `_roles_by_ids`. -/
def rolesByIds (db : Database) (roleIds : List Uuid) : Result (List Role) :=
  if roleIds.any fun id => (db.roles.get? id).isNone then
    .error (apiError 400 "invalid_role_ids" "One or more roles do not exist.")
  else .ok (db.roles.select fun role => role.id ∈ roleIds)

/-- `user.roles`. -/
def rolesOf (db : Database) (user : User) : List Role := db.roles.select fun role => role.id ∈ user.roleIds

def hasAdminRole (db : Database) (user : User) : Bool := (rolesOf db user).any fun role => role.name = adminRoleName

def enabledAdminCount (db : Database) : Nat :=
  (db.users.select fun user => user.enabled && hasAdminRole db user).length

def guardLastAdministrator (db : Database) (user : User) : Result Unit :=
  if user.enabled && hasAdminRole db user && enabledAdminCount db ≤ 1 then
    .error (apiError 409 "last_administrator" "The last enabled Administrator cannot be removed or disabled.")
  else .ok ()

/-- The email as it is stored. -/
def normalizedEmail (email : Option String) : Option String :=
  email.bind fun email => if email = "" then none else some (lower (strip email))

/-- Add a user; the name of a user is unique. -/
def insertUser (db : Database) (user : User) : Option Database :=
  if db.users.rows.any fun other => other.username = user.username then none
  else (db.users.insert? user).map fun users => { db with users }

def createUser (uuid4 : Supply Uuid) (hash : String → String) (db : Database) (username displayName : String)
    (email : Option String) (password : String) (roleIds : List Uuid) : Result Database := do
  let roles ← rolesByIds db roleIds
  let user : User :=
    { id := db.users.newKey uuid4
      username, displayName
      email := normalizedEmail email
      passwordHash := some (hash password)
      enabled := true
      roleIds := roles.map Role.id }
  match insertUser db user with
  | some db => .ok db
  | none => .error (apiError 409 "username_conflict" "Username already exists.")

/-- The user after the changes of the display name and the email. -/
def changedUser (user : User) (changes : UserChanges) : User :=
  let named := { user with displayName := changes.displayName.getD user.displayName }
  match changes.email with
  | none => named
  | some raw =>
    let email := raw.map fun raw => lower (strip raw)
    if email ≠ user.email then { named with email, emailVerifiedAt := none } else named

def updateUser (db : Database) (user : User) (changes : UserChanges) : Result Database :=
  let changed := changedUser user changes
  match changes.roleIds with
  | none => .ok { db with users := db.users.put changed }
  | some roleIds => do
    let roles ← rolesByIds db roleIds
    let keepsAdmin := roles.any fun role => role.name = adminRoleName
    if hasAdminRole db user && !keepsAdmin then guardLastAdministrator db user
    .ok { db with users := db.users.put { changed with roleIds := roles.map Role.id } }

/-- The sessions that are open are revoked. -/
def revokeSessions (sessions : Table UserSession) (userId : Uuid) (now : Int) : Table UserSession :=
  sessions.mapRows
    (fun session => if session.userId = userId ∧ session.revokedAt = none then { session with revokedAt := some now } else session)
    fun session => by split <;> rfl

def disableUser (db : Database) (user : User) (now : Int) : Result Database :=
  if !user.enabled then .ok db
  else do
    guardLastAdministrator db user
    .ok { db with
      users := db.users.put { user with enabled := false }
      userSessions := revokeSessions db.userSessions user.id now }

def enableUser (db : Database) (user : User) : Result Database :=
  .ok { db with users := db.users.put { user with enabled := true } }

end AuthAdminService

namespace AuthService

open AuthAdminService

def bootstrapNamespace : String := "bootstrap.initial_admin"

def builtinRolePermissions : List (String × List String) :=
  [("Administrator", allPermissions),
    ("Operator",
      ["camera.view", "camera.control", "recording.view", "recording.export", "recording.protect", "event.view",
        "alert.view", "alert.acknowledge", "notification.view", "system.view"]),
    ("Viewer", ["camera.view", "recording.view", "event.view", "alert.view", "system.view"])]

def setupRequired (db : Database) : Bool :=
  (db.systemSettings.get? bootstrapNamespace).isNone && db.users.rows.isEmpty

/-- One of the built-in roles, created or brought back to its permissions. -/
def ensureBuiltinRole (uuid4 : Supply Uuid) (db : Database) (name : String) (desired : List String) : Database :=
  match db.roles.first? fun role => role.name = name with
  | none =>
    let role : Role :=
      { id := newRoleId db uuid4, name, description := some ("Built-in " ++ name ++ " role"), builtIn := true,
        permissions := desired }
    CameraScopeService.ensureScope { db with roles := db.roles.put role } (.role role.id) .all
  | some role =>
    let changed := { role with builtIn := true, permissions := replacePermissions role.permissions desired }
    CameraScopeService.ensureScope { db with roles := db.roles.put changed } (.role role.id) .all

def ensureBuiltinRoles (uuid4 : Supply Uuid) (db : Database) : Database :=
  builtinRolePermissions.foldl (fun db builtin => ensureBuiltinRole uuid4 db builtin.1 builtin.2) db

def setupCompleted : PyError :=
  apiError 409 "setup_already_completed" "Initial administrator setup has already been completed."

def createInitialAdministrator (uuid4 : Supply Uuid) (hash : String → String) (db : Database)
    (username displayName : String) (email : Option String) (password : String) : Result Database :=
  if !setupRequired db then .error setupCompleted
  else
    match db.systemSettings.insert? { settingNamespace := bootstrapNamespace, valueJson := [("completed", .bool true)] } with
    | none => .error setupCompleted
    | some systemSettings =>
      let db := ensureBuiltinRoles uuid4 { db with systemSettings }
      match db.roles.first? fun role => role.name = adminRoleName with
      | none => .error (.keyError adminRoleName)
      | some administrator =>
        let user : User :=
          { id := db.users.newKey uuid4
            username, displayName
            email := normalizedEmail email
            passwordHash := some (hash password)
            enabled := true
            roleIds := [administrator.id] }
        match insertUser db user with
        | some db => .ok db
        | none => .error setupCompleted

end AuthService

end ZeroNvr
