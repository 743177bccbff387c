import ZeroNvr.Auth.Users
import ZeroNvr.Lib.Run
import ZeroNvr.System.ImportAccess

/-! # The last administrator

From the setup on there is an enabled user with the role named Administrator,
and that role is the built-in one with all permissions.
-/

namespace ZeroNvr.AuthAdminService

open Lib

/-! ## Operations -/

inductive AccountOperation where
  | createUser (username displayName : String) (email : Option String) (password : String) (roleIds : List Uuid)
  | updateUser (userId : Uuid) (changes : UserChanges)
  | disableUser (userId : Uuid) (now : Int)
  | enableUser (userId : Uuid)
  | createRole (name : String) (description : Option String) (permissions : List String)
  | updateRole (roleId : Uuid) (changes : RoleChanges)
  | importAccess (roles : List Dict) (cameraMap groupMap : List (String × Uuid))

/-- The user an operation is about. -/
def AccountOperation.subject (uuid4 : Supply Uuid) (db : Database) : AccountOperation → Option Uuid
  | .createUser .. => some (db.users.newKey uuid4)
  | .updateUser userId _ | .disableUser userId _ | .enableUser userId => some userId
  | .createRole .. | .updateRole .. | .importAccess .. => none

section Operations

variable (env : ImportEnv) (uuid4 : Supply Uuid) (hash : String → String)

/-- The roles of a bundle, and then the camera scopes of those. -/
def importAccess (db : Database) (roles : List Dict) (cameraMap groupMap : List (String × Uuid)) : Result Database := do
  let mapped ← ConfigurationImportService.applyRoles env uuid4 { db } roles
  let withScopes ← ConfigurationImportService.applyRoleCameraScopes env cameraMap groupMap mapped roles
  return withScopes.db

def perform (db : Database) : AccountOperation → Result Database
  | .createUser username displayName email password roleIds =>
    createUser uuid4 hash db username displayName email password roleIds
  | .updateUser userId changes => do updateUser db (← getUser db userId) changes
  | .disableUser userId now => do disableUser db (← getUser db userId) now
  | .enableUser userId => do enableUser db (← getUser db userId)
  | .createRole name description permissions => do
    let (db, _) ← createRole uuid4 db name description permissions
    return db
  | .updateRole roleId changes => do updateRole db (← getRole db roleId) changes
  | .importAccess roles cameraMap groupMap => importAccess env uuid4 db roles cameraMap groupMap

/-- An operation commits, or it is rejected and rolled back. -/
def settle (db : Database) (operation : AccountOperation) : Database :=
  match perform env uuid4 hash db operation with
  | .ok committed => committed
  | .error _ => db

/-- One operation after another. -/
abbrev Operations (db : Database) (operations : List AccountOperation) (db' : Database) : Prop :=
  Run (fun db operation db' => settle env uuid4 hash db operation = db') db operations db'

end Operations

/-! ## The invariant -/

def IsEnabledAdministrator (db : Database) (userId : Uuid) : Prop :=
  ∃ user, db.users.get? userId = some user ∧ user.enabled = true ∧ hasAdminRole db user = true

/-- Names of roles are unique, which the schema demands. -/
def UniqueNames (db : Database) : Prop :=
  ∀ role ∈ db.roles, ∀ other ∈ db.roles, role.name = other.name → role = other

/-- The role named Administrator is a built-in one with all permissions. -/
def AdministratorRole (db : Database) (role : Role) : Prop :=
  role ∈ db.roles ∧ role.name = adminRoleName ∧ role.builtIn = true ∧
    ∀ permission, permission ∈ role.permissions ↔ permission ∈ allPermissions

structure Guarded (db : Database) : Prop where
  names : UniqueNames db
  role : ∃ role, AdministratorRole db role
  held : ∃ userId, IsEnabledAdministrator db userId

/-- What an operation on roles keeps. -/
structure KeepsBuiltin (db db' : Database) : Prop where
  users : db'.users = db.users
  builtin : ∀ role ∈ db.roles, role.builtIn = true → role ∈ db'.roles
  names : UniqueNames db → UniqueNames db'

section Invariant

variable {db db' : Database} {role : Role} {user : User}

theorem KeepsBuiltin.refl (db : Database) : KeepsBuiltin db db := ⟨rfl, fun _ member _ => member, id⟩

theorem KeepsBuiltin.trans {middle : Database} (first : KeepsBuiltin db middle) (second : KeepsBuiltin middle db') :
    KeepsBuiltin db db' :=
  ⟨second.users.trans first.users, fun role member builtin => second.builtin role (first.builtin role member builtin) builtin,
    second.names ∘ first.names⟩

/-- Where names are unique, the holders of the role named Administrator are those of this one. -/
theorem hasAdminRole_iff (names : UniqueNames db) (administrator : AdministratorRole db role) :
    hasAdminRole db user = true ↔ role.id ∈ user.roleIds := by
  obtain ⟨member, named, -, -⟩ := administrator
  simp only [hasAdminRole, rolesOf, List.any_eq_true, Table.mem_select, decide_eq_true_eq]
  constructor
  · rintro ⟨other, ⟨otherMember, held⟩, otherNamed⟩
    rwa [← names other otherMember role member (otherNamed.trans named.symm)]
  · exact fun held => ⟨role, ⟨member, held⟩, named⟩

theorem AdministratorRole.kept (kept : KeepsBuiltin db db') (administrator : AdministratorRole db role) :
    AdministratorRole db' role :=
  ⟨kept.builtin role administrator.1 administrator.2.2.1, administrator.2⟩

/-- An operation on roles changes no user's standing. -/
theorem isEnabledAdministrator_of_kept (guarded : Guarded db) (kept : KeepsBuiltin db db') (userId : Uuid) :
    IsEnabledAdministrator db' userId ↔ IsEnabledAdministrator db userId := by
  obtain ⟨role, administrator⟩ := guarded.role
  have before (user : User) := @hasAdminRole_iff db role user guarded.names administrator
  have after (user : User) := @hasAdminRole_iff db' role user (kept.names guarded.names) (administrator.kept kept)
  simp only [IsEnabledAdministrator, kept.users, before, after]

theorem Guarded.kept (guarded : Guarded db) (kept : KeepsBuiltin db db') : Guarded db' where
  names := kept.names guarded.names
  role := guarded.role.imp fun _ administrator => administrator.kept kept
  held := guarded.held.imp fun userId => (isEnabledAdministrator_of_kept guarded kept userId).mpr

/-! ## Operations on roles -/

theorem ensureScope_keeps (db : Database) (principal : Principal) (mode : CameraScopeMode) :
    KeepsBuiltin db (CameraScopeService.ensureScope db principal mode) := by
  unfold CameraScopeService.ensureScope
  split
  · exact .refl db
  · exact ⟨rfl, fun _ member _ => member, id⟩

theorem setScope_keeps {principal : Principal} {mode : String} {cameraIds groupIds : List Uuid}
    (done : CameraScopeService.setScope db principal mode cameraIds groupIds = .ok db') : KeepsBuiltin db db' := by
  unfold CameraScopeService.setScope at done
  split at done
  · cases done
  · next scopeMode _ =>
    split at done
    · cases done
    split at done
    · cases done
    split at done
    · cases done
    cases done
    have ensured := ensureScope_keeps db principal scopeMode
    exact ⟨ensured.users, ensured.builtin, ensured.names⟩

theorem createRole_keeps {uuid4 : Supply Uuid} {name : String} {description : Option String} {permissions : List String}
    (done : createRole uuid4 db name description permissions = .ok (db', role)) : KeepsBuiltin db db' := by
  unfold createRole at done
  obtain ⟨normalized, -, done⟩ := bind_eq_ok.mp done
  split at done
  · cases done
  next unused =>
  simp only [List.any_eq_true, decide_eq_true_eq, not_exists, not_and] at unused
  dsimp only at done
  split at done
  · cases done
  next roles inserted =>
  cases done
  have grown : KeepsBuiltin db { db with roles } := by
    refine ⟨rfl, fun role member _ => (Table.mem_insert? inserted).mpr (.inl member), ?_⟩
    intro names left leftMember right rightMember same
    rcases (Table.mem_insert? inserted).mp leftMember with left' | rfl <;>
      rcases (Table.mem_insert? inserted).mp rightMember with right' | rfl
    · exact names left left' right right' same
    · exact absurd same (unused left left')
    · exact absurd same.symm (unused right right')
    · rfl
  exact grown.trans (ensureScope_keeps _ _ _)

theorem updateRole_keeps {changes : RoleChanges} (member : role ∈ db.roles)
    (done : updateRole db role changes = .ok db') : KeepsBuiltin db db' := by
  unfold updateRole at done
  split at done
  · cases done
  next custom =>
  obtain ⟨changed, -, done⟩ := bind_eq_ok.mp done
  split at done
  · cases done
  next unused =>
  simp only [List.any_eq_true, decide_eq_true_eq, not_exists, not_and, not_not] at unused
  cases done
  refine ⟨rfl, fun other otherMember builtin => Table.mem_put.mpr (.inr ⟨otherMember, ?_⟩), ?_⟩
  · intro same
    exact custom (Table.eq_of_key_eq otherMember member same ▸ builtin)
  · intro names left leftMember right rightMember same
    rcases Table.mem_put.mp leftMember with rfl | ⟨left', leftOther⟩ <;>
      rcases Table.mem_put.mp rightMember with rfl | ⟨right', rightOther⟩
    · rfl
    · exact absurd (unused right right' same.symm) rightOther
    · exact absurd (unused left left' same) leftOther
    · exact names left left' right right' same

theorem applyRole_keeps {env : ImportEnv} {uuid4 : Supply Uuid} {item : Dict}
    {state state' : ConfigurationImportService.ApplyState}
    (done : ConfigurationImportService.applyRole env uuid4 state item = .ok state') : KeepsBuiltin state.db state'.db := by
  unfold ConfigurationImportService.applyRole at done
  obtain ⟨_, -, done⟩ := bind_eq_ok.mp done
  obtain ⟨_, -, done⟩ := bind_eq_ok.mp done
  dsimp only at done
  split at done
  · split at done
    · split at done <;> (cases done; exact .refl _)
    · cases done
      exact .refl _
  · obtain ⟨_, -, done⟩ := bind_eq_ok.mp done
    split at done
    · obtain ⟨⟨db, role⟩, created, done⟩ := bind_eq_ok.mp done
      cases done
      exact createRole_keeps created
    · next role found =>
      split at done
      · cases done
        exact .refl _
      · obtain ⟨db, updated, done⟩ := bind_eq_ok.mp done
        cases done
        exact updateRole_keeps (Table.mem_of_first? found).1 updated

theorem applyRoleCameraScope_keeps {env : ImportEnv} {cameraMap groupMap : List (String × Uuid)} {item : Dict}
    {state state' : ConfigurationImportService.ApplyState}
    (done : ConfigurationImportService.applyRoleCameraScope env cameraMap groupMap state item = .ok state') :
    KeepsBuiltin state.db state'.db := by
  unfold ConfigurationImportService.applyRoleCameraScope at done
  obtain ⟨_, -, done⟩ := bind_eq_ok.mp done
  dsimp only at done
  split at done
  · obtain ⟨_, -, done⟩ := bind_eq_ok.mp done
    obtain ⟨_, -, done⟩ := bind_eq_ok.mp done
    split at done
    · cases done
      exact .refl _
    · obtain ⟨_, -, done⟩ := bind_eq_ok.mp done
      split at done
      · cases done
        exact .refl _
      · obtain ⟨db, set, done⟩ := bind_eq_ok.mp done
        cases done
        exact setScope_keeps set
  all_goals first
    | (cases done; exact .refl _)
    | cases done

theorem importAccess_keeps {env : ImportEnv} {uuid4 : Supply Uuid} {roles : List Dict}
    {cameraMap groupMap : List (String × Uuid)}
    (done : importAccess env uuid4 db roles cameraMap groupMap = .ok db') : KeepsBuiltin db db' := by
  obtain ⟨mapped, applied, done⟩ := bind_eq_ok.mp done
  obtain ⟨withScopes, scopesApplied, done⟩ := bind_eq_ok.mp done
  cases done
  have first : KeepsBuiltin db mapped.db :=
    @foldlM_invariant _ _ _ _ (fun state => KeepsBuiltin db state.db) roles
      (fun _ _ _ _ kept step => kept.trans (applyRole_keeps step)) _ _ (.refl db) applied
  exact @foldlM_invariant _ _ _ _ (fun state => KeepsBuiltin db state.db) roles
    (fun _ _ _ _ kept step => kept.trans (applyRoleCameraScope_keeps step)) _ _ first scopesApplied

/-! ## Operations on users -/

/-- A user is written. -/
theorem isEnabledAdministrator_put {changed : User} (userId : Uuid) :
    IsEnabledAdministrator { db with users := db.users.put changed } userId ↔
      if userId = changed.id then changed.enabled = true ∧ hasAdminRole db changed = true
      else IsEnabledAdministrator db userId := by
  have same (user : User) : hasAdminRole { db with users := db.users.put changed } user = hasAdminRole db user := rfl
  simp only [IsEnabledAdministrator, same, Table.get?_put, show Keyed.key changed = changed.id from rfl]
  split
  · simp
  · rfl

/-- A write of one user leaves the standing of the others, and leaves an administrator if it is not
    the last one that loses the standing. -/
theorem Guarded.put (guarded : Guarded db) {changed : User}
    (notLast : (∃ userId, userId ≠ changed.id ∧ IsEnabledAdministrator db userId) ∨
      changed.enabled = true ∧ hasAdminRole db changed = true) :
    Guarded { db with users := db.users.put changed } where
  names := guarded.names
  role := guarded.role
  held := by
    rcases notLast with ⟨userId, other, standing⟩ | standing
    · exact ⟨userId, (isEnabledAdministrator_put userId).mpr (by rwa [if_neg other])⟩
    · exact ⟨changed.id, (isEnabledAdministrator_put changed.id).mpr (by rwa [if_pos rfl])⟩

/-- What the guard lets through: a user without the standing, or one of several with it. -/
theorem other_of_guard (guarded : Guarded db) (found : db.users.get? user.id = some user)
    (passed : guardLastAdministrator db user = .ok ()) :
    ∃ userId, userId ≠ user.id ∧ IsEnabledAdministrator db userId := by
  have standing {other : User} (listed : other ∈ db.users.select fun user => user.enabled && hasAdminRole db user) :
      IsEnabledAdministrator db other.id := by
    obtain ⟨member, holds⟩ := Table.mem_select.mp listed
    rw [Bool.and_eq_true] at holds
    exact ⟨other, Table.get?_of_mem member, holds⟩
  by_cases administrator : user.enabled = true ∧ hasAdminRole db user = true
  · have several : 1 < enabledAdminCount db := by
      unfold guardLastAdministrator at passed
      split at passed
      · cases passed
      next refused =>
        simp only [administrator, Bool.and_self, Bool.true_and, decide_eq_true_eq] at refused
        omega
    have apart : ((db.users.select fun user => user.enabled && hasAdminRole db user).map User.id).Nodup :=
      db.users.keysNodup.sublist (List.filter_sublist.map _)
    unfold enabledAdminCount at several
    match listed : db.users.select fun user => user.enabled && hasAdminRole db user with
    | [] | [_] => simp [listed] at several
    | first :: second :: rest =>
      rw [listed] at apart
      have differ : first.id ≠ second.id := by
        have := (List.nodup_cons.mp apart).1
        simp only [List.map_cons, List.mem_cons, not_or] at this
        exact this.1
      by_cases isFirst : first.id = user.id
      · exact ⟨second.id, fun isSecond => differ (isFirst.trans isSecond.symm), standing (by simp [listed])⟩
      · exact ⟨first.id, isFirst, standing (by simp [listed])⟩
  · obtain ⟨userId, holder, held, enabled, admin⟩ := guarded.held
    refine ⟨userId, ?_, holder, held, enabled, admin⟩
    rintro rfl
    rw [found] at held
    cases held
    exact administrator ⟨enabled, admin⟩

theorem createUser_spec {uuid4 : Supply Uuid} {hash : String → String} {username displayName : String}
    {email : Option String} {password : String} {roleIds : List Uuid} (guarded : Guarded db)
    (done : createUser uuid4 hash db username displayName email password roleIds = .ok db') :
    Guarded db' ∧ ∀ userId, userId ≠ db.users.newKey uuid4 →
      (IsEnabledAdministrator db' userId ↔ IsEnabledAdministrator db userId) := by
  unfold createUser at done
  obtain ⟨roles, -, done⟩ := bind_eq_ok.mp done
  dsimp only at done
  split at done
  next grownDb inserted =>
    cases done
    unfold insertUser at inserted
    split at inserted
    · cases inserted
    obtain ⟨users, grown, rfl⟩ := Option.map_eq_some_iff.mp inserted
    have same (userId : Uuid) (other : userId ≠ db.users.newKey uuid4) :
        IsEnabledAdministrator { db with users } userId ↔ IsEnabledAdministrator db userId := by
      have lookup : users.get? userId = db.users.get? userId := by
        rw [Table.get?_insert? grown]
        exact if_neg (Ne.symm other)
      simp only [IsEnabledAdministrator, lookup]
      rfl
    refine ⟨⟨guarded.names, guarded.role, ?_⟩, same⟩
    obtain ⟨userId, standing⟩ := guarded.held
    refine ⟨userId, (same userId ?_).mpr standing⟩
    obtain ⟨user, found, -⟩ := standing
    obtain ⟨member, rfl⟩ := Table.get?_eq_some_iff.mp found
    exact Table.newKey_fresh _ uuid4 member
  next => cases done

theorem changedUser_spec (user : User) (changes : UserChanges) :
    (changedUser user changes).id = user.id ∧ (changedUser user changes).enabled = user.enabled ∧
      (changedUser user changes).roleIds = user.roleIds := by
  unfold changedUser
  dsimp only
  split
  · exact ⟨rfl, rfl, rfl⟩
  · split <;> exact ⟨rfl, rfl, rfl⟩

theorem updateUser_spec {changes : UserChanges} (guarded : Guarded db) (found : db.users.get? user.id = some user)
    (done : updateUser db user changes = .ok db') :
    Guarded db' ∧ ∀ userId, userId ≠ user.id → (IsEnabledAdministrator db' userId ↔ IsEnabledAdministrator db userId) := by
  obtain ⟨sameId, sameEnabled, sameRoles⟩ := changedUser_spec user changes
  -- a write of the user with a standing that does not get lost
  have written {changed : User} (isUser : changed.id = user.id)
      (notLast : (∃ userId, userId ≠ user.id ∧ IsEnabledAdministrator db userId) ∨
        (user.enabled = true → hasAdminRole db user = true → changed.enabled = true ∧ hasAdminRole db changed = true)) :
      Guarded { db with users := db.users.put changed } ∧ ∀ userId, userId ≠ user.id →
        (IsEnabledAdministrator { db with users := db.users.put changed } userId ↔ IsEnabledAdministrator db userId) := by
    refine ⟨guarded.put ?_, fun userId other =>
      (isEnabledAdministrator_put userId).trans (by rw [if_neg (by rwa [isUser])])⟩
    rw [isUser]
    rcases notLast with other | keeps
    · exact .inl other
    · obtain ⟨userId, holder, held, enabled, admin⟩ := guarded.held
      by_cases same : userId = user.id
      · subst same
        rw [found] at held
        cases held
        exact .inr (keeps enabled admin)
      · exact .inl ⟨userId, same, holder, held, enabled, admin⟩
  unfold updateUser at done
  dsimp only at done
  split at done
  · cases done
    refine written sameId (.inr fun enabled admin => ⟨sameEnabled.trans enabled, ?_⟩)
    rw [hasAdminRole, rolesOf, sameRoles]
    exact admin
  · next roleIds _ =>
    obtain ⟨roles, listed, done⟩ := bind_eq_ok.mp done
    unfold rolesByIds at listed
    split at listed
    · cases listed
    cases listed
    split at done
    · obtain ⟨_, passed, done⟩ := bind_eq_ok.mp done
      cases done
      exact written sameId (.inl (other_of_guard guarded found passed))
    · next keeps =>
      cases done
      refine written sameId (.inr fun enabled admin => ⟨sameEnabled.trans enabled, ?_⟩)
      have stays : ((db.roles.select fun role => role.id ∈ roleIds).any fun role => role.name = adminRoleName) = true := by
        simpa [admin] using keeps
      obtain ⟨role, member, named⟩ := List.any_eq_true.mp stays
      refine List.any_eq_true.mpr ⟨role, Table.mem_select.mpr ⟨(Table.mem_select.mp member).1, ?_⟩, named⟩
      exact decide_eq_true (List.mem_map_of_mem member)

theorem disableUser_spec {now : Int} (guarded : Guarded db) (found : db.users.get? user.id = some user)
    (done : disableUser db user now = .ok db') :
    Guarded db' ∧ ∀ userId, userId ≠ user.id → (IsEnabledAdministrator db' userId ↔ IsEnabledAdministrator db userId) := by
  unfold disableUser at done
  split at done
  · cases done
    exact ⟨guarded, fun _ _ => .rfl⟩
  · obtain ⟨_, passed, done⟩ := bind_eq_ok.mp done
    cases done
    have other := other_of_guard guarded found passed
    have kept : Guarded { db with users := db.users.put { user with enabled := false } } := guarded.put (.inl other)
    refine ⟨⟨kept.names, kept.role, kept.held⟩, fun userId other => ?_⟩
    exact (isEnabledAdministrator_put userId).trans (by rw [if_neg other])

theorem enableUser_spec (guarded : Guarded db) (found : db.users.get? user.id = some user)
    (done : enableUser db user = .ok db') :
    Guarded db' ∧ ∀ userId, userId ≠ user.id → (IsEnabledAdministrator db' userId ↔ IsEnabledAdministrator db userId) := by
  cases done
  refine ⟨guarded.put ?_, fun userId other => (isEnabledAdministrator_put userId).trans (by rw [if_neg other])⟩
  obtain ⟨userId, holder, held, enabled, admin⟩ := guarded.held
  by_cases same : userId = user.id
  · subst same
    rw [found] at held
    cases held
    exact .inr ⟨rfl, admin⟩
  · exact .inl ⟨userId, same, holder, held, enabled, admin⟩

/-! ## The setup -/

theorem ensureScope_tables (db : Database) (principal : Principal) (mode : CameraScopeMode) :
    (CameraScopeService.ensureScope db principal mode).roles = db.roles ∧
      (CameraScopeService.ensureScope db principal mode).users = db.users := by
  unfold CameraScopeService.ensureScope
  split <;> exact ⟨rfl, rfl⟩

/-- A role that is written under its own name leaves the names unique. -/
theorem uniqueNames_put (names : UniqueNames db) {new : Role}
    (unused : ∀ other ∈ db.roles, other.name = new.name → other.id = new.id) :
    UniqueNames { db with roles := db.roles.put new } := by
  intro left leftMember right rightMember same
  rcases Table.mem_put.mp leftMember with rfl | ⟨left', leftOther⟩ <;>
    rcases Table.mem_put.mp rightMember with rfl | ⟨right', rightOther⟩
  · rfl
  · exact absurd (unused right right' same.symm) rightOther
  · exact absurd (unused left left' same) leftOther
  · exact names left left' right right' same

theorem ensureBuiltinRole_spec {uuid4 : Supply Uuid} (names : UniqueNames db) (name : String) (desired : List String) :
    UniqueNames (AuthService.ensureBuiltinRole uuid4 db name desired) ∧
      (∀ role ∈ db.roles, role.name ≠ name → role ∈ (AuthService.ensureBuiltinRole uuid4 db name desired).roles) ∧
      ∃ role ∈ (AuthService.ensureBuiltinRole uuid4 db name desired).roles, role.name = name ∧ role.builtIn = true ∧
        ∀ permission, permission ∈ role.permissions ↔ permission ∈ desired := by
  unfold AuthService.ensureBuiltinRole
  split
  · next absent =>
    have noSuch := Table.first?_eq_none_iff.mp absent
    have fresh : ∀ role ∈ db.roles, role.id ≠ newRoleId db uuid4 := by
      intro role member same
      have used : role.id ∈ db.roles.rows.map Role.id := List.mem_map_of_mem member
      rw [same] at used
      exact uuid4.fresh _ (List.mem_append_left _ used)
    dsimp only
    rw [UniqueNames, (ensureScope_tables _ _ _).1]
    refine ⟨uniqueNames_put names fun other member same => absurd same ?_, fun role member _ => ?_, ?_⟩
    · simpa using noSuch other member
    · exact Table.mem_put.mpr (.inr ⟨member, fresh role member⟩)
    · exact ⟨_, Table.mem_put.mpr (.inl rfl), rfl, rfl, fun _ => .rfl⟩
  · next role found =>
    obtain ⟨member, named⟩ := Table.mem_of_first? found
    have named : role.name = name := by simpa using named
    dsimp only
    rw [UniqueNames, (ensureScope_tables _ _ _).1]
    refine ⟨uniqueNames_put names fun other otherMember same => ?_, fun other otherMember differs => ?_, ?_⟩
    · show other.id = role.id
      rw [names other otherMember role member same]
    · refine Table.mem_put.mpr (.inr ⟨otherMember, fun same => differs ?_⟩)
      rw [← named, Table.eq_of_key_eq otherMember member same]
    · exact ⟨_, Table.mem_put.mpr (.inl rfl), named, rfl, fun _ => mem_replacePermissions⟩

theorem ensureBuiltinRoles_spec {uuid4 : Supply Uuid} (names : UniqueNames db) :
    UniqueNames (AuthService.ensureBuiltinRoles uuid4 db) ∧
      ∃ role, AdministratorRole (AuthService.ensureBuiltinRoles uuid4 db) role := by
  obtain ⟨names₁, -, role, member, named, builtin, permissions⟩ :=
    @ensureBuiltinRole_spec db uuid4 names "Administrator" allPermissions
  have operator : "Administrator" ≠ "Operator" := by decide
  have viewer : "Administrator" ≠ "Viewer" := by decide
  obtain ⟨names₂, kept₂, -⟩ := @ensureBuiltinRole_spec _ uuid4 names₁ "Operator"
    ["camera.view", "camera.control", "recording.view", "recording.export", "recording.protect", "event.view",
      "alert.view", "alert.acknowledge", "notification.view", "system.view"]
  obtain ⟨names₃, kept₃, -⟩ := @ensureBuiltinRole_spec _ uuid4 names₂ "Viewer"
    ["camera.view", "recording.view", "event.view", "alert.view", "system.view"]
  exact ⟨names₃, role, kept₃ role (kept₂ role member (named ▸ operator)) (named ▸ viewer), named, builtin, permissions⟩

theorem createInitialAdministrator_guarded {uuid4 : Supply Uuid} {hash : String → String}
    {username displayName : String} {email : Option String} {password : String} (names : UniqueNames db)
    (done : AuthService.createInitialAdministrator uuid4 hash db username displayName email password = .ok db') :
    Guarded db' := by
  unfold AuthService.createInitialAdministrator at done
  split at done
  · cases done
  split at done
  · cases done
  next systemSettings _ =>
  dsimp only at done
  obtain ⟨names', role, administrator⟩ :=
    @ensureBuiltinRoles_spec { db with systemSettings } uuid4 names
  split at done
  · cases done
  next found firstNamed =>
  obtain ⟨member, named⟩ := Table.mem_of_first? firstNamed
  have isRole : found = role :=
    names' found member role administrator.1 ((by simpa using named : found.name = adminRoleName).trans administrator.2.1.symm)
  subst isRole
  split at done
  next grownDb inserted =>
    cases done
    unfold insertUser at inserted
    split at inserted
    · cases inserted
    obtain ⟨users, grown, rfl⟩ := Option.map_eq_some_iff.mp inserted
    refine ⟨names', ⟨found, administrator⟩, _, _, Table.get?_insert?_self grown, rfl, ?_⟩
    exact (hasAdminRole_iff names' administrator).mpr List.mem_cons_self
  next => cases done

end Invariant

/-! ## Every sequence of operations -/

section Operations

variable (env : ImportEnv) (uuid4 : Supply Uuid) (hash : String → String)

/-- An operation keeps the invariant, and the standing of every user it is not about. -/
theorem settle_spec {db : Database} (guarded : Guarded db) (operation : AccountOperation) :
    Guarded (settle env uuid4 hash db operation) ∧ ∀ userId, operation.subject uuid4 db ≠ some userId →
      (IsEnabledAdministrator (settle env uuid4 hash db operation) userId ↔ IsEnabledAdministrator db userId) := by
  unfold settle
  split
  next db' done =>
    have ofKept (kept : KeepsBuiltin db db') : Guarded db' ∧ ∀ userId, operation.subject uuid4 db ≠ some userId →
        (IsEnabledAdministrator db' userId ↔ IsEnabledAdministrator db userId) :=
      ⟨guarded.kept kept, fun userId _ => isEnabledAdministrator_of_kept guarded kept userId⟩
    have user {userId : Uuid} {user : User} (fetched : getUser db userId = .ok user) :
        db.users.get? user.id = some user ∧ user.id = userId := by
      unfold getUser at fetched
      split at fetched
      next found =>
        cases fetched
        have isId : user.id = userId := Table.key_of_get? found
        exact ⟨by rw [isId]; exact found, isId⟩
      next => cases fetched
    cases operation with
    | createUser username displayName email password roleIds =>
      obtain ⟨kept, others⟩ := createUser_spec guarded done
      exact ⟨kept, fun userId other => others userId fun same => other (congrArg some same.symm)⟩
    | updateUser userId changes =>
      obtain ⟨_, fetched, updated⟩ := bind_eq_ok.mp done
      obtain ⟨found, rfl⟩ := user fetched
      obtain ⟨kept, others⟩ := updateUser_spec guarded found updated
      exact ⟨kept, fun userId other => others userId fun same => other (congrArg some same.symm)⟩
    | disableUser userId now =>
      obtain ⟨_, fetched, disabled⟩ := bind_eq_ok.mp done
      obtain ⟨found, rfl⟩ := user fetched
      obtain ⟨kept, others⟩ := disableUser_spec guarded found disabled
      exact ⟨kept, fun userId other => others userId fun same => other (congrArg some same.symm)⟩
    | enableUser userId =>
      obtain ⟨_, fetched, enabled⟩ := bind_eq_ok.mp done
      obtain ⟨found, rfl⟩ := user fetched
      obtain ⟨kept, others⟩ := enableUser_spec guarded found enabled
      exact ⟨kept, fun userId other => others userId fun same => other (congrArg some same.symm)⟩
    | createRole name description permissions =>
      obtain ⟨⟨_, _⟩, created, done⟩ := bind_eq_ok.mp done
      cases done
      exact ofKept (createRole_keeps created)
    | updateRole roleId changes =>
      obtain ⟨role, fetched, done⟩ := bind_eq_ok.mp done
      unfold getRole at fetched
      split at fetched
      next found =>
        cases fetched
        exact ofKept (updateRole_keeps (Table.mem_of_get? found) done)
      next => cases fetched
    | importAccess roles cameraMap groupMap => exact ofKept (importAccess_keeps done)
  next => exact ⟨guarded, fun _ _ => .rfl⟩

/-- After the setup, in every state that a sequence of operations reaches, an enabled user holds the
    role named Administrator, which is the built-in one with all permissions; and an operation
    changes whether a user is an enabled Administrator for no user but the one it is about. -/
theorem administrator_kept {db setup db' : Database} {username displayName : String} {email : Option String}
    {password : String} (names : UniqueNames db)
    (initial : AuthService.createInitialAdministrator uuid4 hash db username displayName email password = .ok setup)
    (operations : List AccountOperation) (run : Operations env uuid4 hash setup operations db') :
    (∃ userId, IsEnabledAdministrator db' userId) ∧
      (∃ role, AdministratorRole db' role ∧ ∀ other ∈ db'.roles, other.name = adminRoleName → other = role) ∧
      ∀ operation userId, operation.subject uuid4 db' ≠ some userId →
        (IsEnabledAdministrator (settle env uuid4 hash db' operation) userId ↔ IsEnabledAdministrator db' userId) := by
  have guarded : Guarded db' := by
    refine @Run.invariant _ _ _ Guarded (fun _ operation _ kept step => ?_) _ _ _ run
      (createInitialAdministrator_guarded names initial)
    subst step
    exact (settle_spec env uuid4 hash kept operation).1
  refine ⟨guarded.held, ?_, fun operation => (settle_spec env uuid4 hash guarded operation).2⟩
  obtain ⟨role, administrator⟩ := guarded.role
  exact ⟨role, administrator, fun other member named =>
    guarded.names other member role administrator.1 (named.trans administrator.2.1.symm)⟩

end Operations

/-- The texts and rules of Python do not matter here. -/
def plainEnv : ImportEnv where
  str _ := ""
  parseUuid _ := none
  uuidText _ := ""
  normalizeTime _ := .ok ()

/-- A fresh installation after its setup. -/
def freshSetup : Database :=
  match AuthService.createInitialAdministrator .counting id {} "admin" "Admin" none "secret" with
  | .ok db => db
  | .error _ => {}

theorem administrator_kept_fresh : ∃ userId, IsEnabledAdministrator
    (settle plainEnv .counting id freshSetup (.disableUser 1 0)) userId :=
  (administrator_kept plainEnv .counting id (fun _ member => absurd member (Table.not_mem_empty _))
    (rfl : AuthService.createInitialAdministrator .counting id {} "admin" "Admin" none "secret" = .ok freshSetup)
    [.disableUser 1 0] (.next rfl (.done _))).1

end ZeroNvr.AuthAdminService
