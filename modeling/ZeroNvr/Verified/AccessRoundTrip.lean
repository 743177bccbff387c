import ZeroNvr.Verified.GroupRoundTrip
import ZeroNvr.Verified.LastAdministrator

/-! # The access of an export, imported

Roles are matched by name, and each gets the camera scope it had with the images
of its cameras and groups.  A role sees of the cameras that came along the same
ones as before.
-/

namespace ZeroNvr.ConfigurationImportService

open Lib CameraGroupService ConfigurationExportService
open AuthAdminService (UniqueNames mem_of_validatePermissions mem_replacePermissions)

section Roles

variable {env : ImportEnv} {uuid4 : Supply Uuid} {source target : Database} {state state' : ApplyState} {role : Role}

/-! ## One role -/

/-- A role is stored, beside the others. -/
def RoleStored (db : Database) (role : Role) (db' : Database) : Prop :=
  ∀ row, row ∈ db'.roles ↔ row = role ∨ (row ∈ db.roles ∧ row.id ≠ role.id)

/-- A role as it was exported; a built-in one has the permissions of the installation. -/
structure SameRole (role image : Role) : Prop where
  name : image.name = role.name
  builtIn : image.builtIn = role.builtIn
  custom : role.builtIn = false →
    image.description = role.description ∧ ∀ permission, permission ∈ image.permissions ↔ permission ∈ role.permissions

theorem validatePermissions_ok {permissions : List String}
    (known : ∀ permission ∈ permissions, permission ∈ AuthAdminService.allPermissions) :
    ∃ normalized, AuthAdminService.validatePermissions permissions = .ok normalized ∧
      ∀ permission, permission ∈ normalized ↔ permission ∈ permissions := by
  have none : ¬(permissions.any (· ∉ AuthAdminService.allPermissions)) = true := by
    rw [List.any_eq_true]
    rintro ⟨permission, member, unknown⟩
    exact of_decide_eq_true unknown (known permission member)
  have valid : AuthAdminService.validatePermissions permissions =
      .ok (permissions.dedup.insertionSort fun left right => left ≤ right) := if_neg none
  exact ⟨_, valid, fun _ => mem_of_validatePermissions valid⟩

theorem createRole_ok (uuid4 : Supply Uuid) {db : Database} {name : String} (description : Option String)
    {permissions : List String} (known : ∀ permission ∈ permissions, permission ∈ AuthAdminService.allPermissions)
    (unused : ∀ other ∈ db.roles, other.name ≠ name) :
    ∃ db' image, AuthAdminService.createRole uuid4 db name description permissions = .ok (db', image) ∧
      image.name = name ∧ image.builtIn = false ∧ image.description = description ∧
      (∀ permission, permission ∈ image.permissions ↔ permission ∈ permissions) ∧ RoleStored db image db' ∧
      ∀ other ∈ db.roles, other.id ≠ image.id := by
  obtain ⟨normalized, valid, members⟩ := validatePermissions_ok known
  have noConflict : ¬(db.roles.rows.any fun other => other.name = name) = true := by
    rw [List.any_eq_true]
    rintro ⟨other, member, same⟩
    exact unused other member (of_decide_eq_true same)
  have isFresh (row : Role) (member : row ∈ db.roles) : row.id ≠ AuthAdminService.newRoleId db uuid4 := fun same => by
    have inUse : AuthAdminService.newRoleId db uuid4 ∈ db.roles.rows.map Role.id := same ▸ List.mem_map_of_mem member
    exact (uuid4.fresh _ : AuthAdminService.newRoleId db uuid4 ∉ _) (List.mem_append_left _ inUse)
  rw [AuthAdminService.createRole, valid]
  dsimp only [bind, Except.bind]
  rw [if_neg noConflict]
  cases inserted : db.roles.insert?
      { id := AuthAdminService.newRoleId db uuid4, name, description, permissions := normalized } with
  | none =>
    obtain ⟨row, member, same⟩ := Table.insert?_eq_none inserted
    exact absurd same (isFresh row member)
  | some roles =>
    refine ⟨_, _, rfl, rfl, rfl, rfl, members, fun row => ?_, isFresh⟩
    obtain ⟨-, sameRoles, -, -⟩ :=
      @CameraScopeService.ensureScope_same { db with roles } (.role (AuthAdminService.newRoleId db uuid4)) .none
    rw [sameRoles]
    refine (Table.mem_insert? inserted).trans ⟨?_, ?_⟩
    · rintro (member | isNew)
      · exact .inr ⟨member, isFresh row member⟩
      · exact .inl isNew
    · rintro (isNew | ⟨member, _⟩)
      · exact .inr isNew
      · exact .inl member

theorem updateRole_ok {db : Database} {row : Role} (custom : row.builtIn = false) (description : Option String)
    {permissions : List String} (known : ∀ permission ∈ permissions, permission ∈ AuthAdminService.allPermissions)
    (names : UniqueNames db) (isRow : row ∈ db.roles) :
    ∃ db' image, AuthAdminService.updateRole db row { description := some description, permissions := some permissions } =
        .ok db' ∧ image.id = row.id ∧ image.name = row.name ∧ image.builtIn = false ∧ image.description = description ∧
      (∀ permission, permission ∈ image.permissions ↔ permission ∈ permissions) ∧ RoleStored db image db' := by
  obtain ⟨normalized, valid, members⟩ := validatePermissions_ok known
  obtain ⟨image, isImage⟩ : ∃ image : Role, image =
      { row with description, permissions := AuthAdminService.replacePermissions row.permissions normalized } := ⟨_, rfl⟩
  have changed : AuthAdminService.changedRole row { description := some description, permissions := some permissions } =
      .ok image := by
    rw [AuthAdminService.changedRole, isImage]
    dsimp only
    rw [valid]
    rfl
  have noConflict : ¬(db.roles.rows.any fun other => other.name = row.name ∧ other.id ≠ row.id) = true := by
    rw [List.any_eq_true]
    rintro ⟨other, member, clash⟩
    obtain ⟨same, differs⟩ := of_decide_eq_true clash
    exact differs (congrArg _ (names other member row isRow same))
  have updated : AuthAdminService.updateRole db row { description := some description, permissions := some permissions } =
      .ok { db with roles := db.roles.put { image with id := row.id } } := by
    have sameName : image.name = row.name := by rw [isImage]
    rw [AuthAdminService.updateRole, custom, changed]
    dsimp only [bind, Except.bind]
    rw [if_neg (by decide), sameName, if_neg noConflict]
  refine ⟨_, { image with id := row.id }, updated, rfl, ?_, ?_, ?_, fun permission => ?_, fun row => Table.mem_put⟩
  · rw [isImage]
  · rw [isImage, ← custom]
  · rw [isImage]
  · rw [isImage]
    exact mem_replacePermissions.trans (members permission)

theorem permissionTexts_strings (texts : List String) : permissionTexts env (some (.arr (texts.map .str))) = .ok texts := by
  have same : (texts.map Json.str).map env.text = texts := by
    rw [List.map_map]
    exact List.map_id _
  rw [permissionTexts, same]

/-- What an import of the roles of `source` may rely on. -/
structure ReceivesRoles (env : ImportEnv) (source target : Database) : Prop where
  readable : ∀ role ∈ source.roles, Readable env role.id
  names : UniqueNames source
  permissions : ∀ role ∈ source.roles, ∀ permission ∈ role.permissions, permission ∈ AuthAdminService.allPermissions
  received : UniqueNames target
  builtin : ∀ role ∈ source.roles, role.builtIn = true → ∃ row ∈ target.roles, row.name = role.name ∧ row.builtIn = true
  custom : ∀ role ∈ source.roles, role.builtIn = false → ∀ row ∈ target.roles, row.name = role.name → row.builtIn = false

/-- An exported role is matched with the role of its name, or created. -/
theorem applyRole_ok (uuid4 : Supply Uuid) (names : UniqueNames state.db)
    (permissions : ∀ permission ∈ role.permissions, permission ∈ AuthAdminService.allPermissions)
    (builtin : role.builtIn = true → ∃ row ∈ state.db.roles, row.name = role.name ∧ row.builtIn = true)
    (custom : role.builtIn = false → ∀ row ∈ state.db.roles, row.name = role.name → row.builtIn = false) :
    ∃ state' image, applyRole env uuid4 state (ConfigurationExportService.role env source role) = .ok state' ∧
      state'.skipped = state.skipped ∧ state'.roleMap = assign state.roleMap (env.uuidText role.id) image.id ∧
      SameRole role image ∧ RoleStored state.db image state'.db ∧
      ∀ other ∈ state.db.roles, other.name = role.name ↔ other.id = image.id := by
  have isId : field (ConfigurationExportService.role env source role) "id" = .ok (.str (env.uuidText role.id)) := rfl
  have isName : field (ConfigurationExportService.role env source role) "name" = .ok (.str role.name) := rfl
  have isBuiltin : Json.truthy (Dict.get (ConfigurationExportService.role env source role) "built_in") = role.builtIn := by
    cases h : role.builtIn <;> simp [ConfigurationExportService.role, Dict.get, Json.truthy, h, List.lookup]
  have isDescription : env.optionalText (Dict.get (ConfigurationExportService.role env source role) "description") =
      role.description := optionalText_optional role.description
  have isPermissions : permissionTexts env (Dict.get (ConfigurationExportService.role env source role) "permissions") =
      .ok (role.permissions.insertionSort fun left right => left ≤ right) := permissionTexts_strings _
  have sorted (permission : String) :
      permission ∈ role.permissions.insertionSort (fun left right => left ≤ right) ↔ permission ∈ role.permissions :=
    List.mem_insertionSort _
  have known (permission : String) (member : permission ∈ role.permissions.insertionSort fun left right => left ≤ right) :=
    permissions permission ((sorted permission).mp member)
  have identified {row : Role} (isRow : row ∈ state.db.roles) (sameName : row.name = role.name) (other : Role)
      (member : other ∈ state.db.roles) : other.name = role.name ↔ other.id = row.id :=
    ⟨fun isOther => congrArg Role.id (names other member row isRow (isOther.trans sameName.symm)),
      fun sameId => (Table.eq_of_key_eq member isRow sameId) ▸ sameName⟩
  rw [applyRole, isId, isName]
  dsimp only [bind, Except.bind, ImportEnv.text]
  rw [isBuiltin]
  cases isKind : role.builtIn with
  | true =>
    -- a built-in role is matched by name and kept
    obtain ⟨row, isRow, sameName, rowBuiltin⟩ := builtin isKind
    obtain ⟨found, isFound⟩ := @Table.exists_first? _ _ _ _ (fun row : Role => row.name = role.name) row isRow
      (decide_eq_true sameName)
    obtain ⟨foundMember, foundName⟩ := Table.mem_of_first? isFound
    have same : found = row := names found foundMember row isRow ((of_decide_eq_true foundName).trans sameName.symm)
    rw [if_pos rfl, isFound]
    dsimp only
    rw [same, rowBuiltin, if_pos rfl]
    refine ⟨_, row, rfl, rfl, rfl, ⟨sameName, rowBuiltin.trans isKind.symm, fun isCustom => ?_⟩, fun other => ?_,
      identified isRow sameName⟩
    · rw [isKind] at isCustom
      cases isCustom
    · constructor
      · intro member
        by_cases isSame : other.id = row.id
        · exact .inl (Table.eq_of_key_eq member isRow isSame)
        · exact .inr ⟨member, isSame⟩
      · rintro (rfl | ⟨member, _⟩)
        · exact isRow
        · exact member
  | false =>
    rw [if_neg (by decide), isPermissions, isDescription]
    dsimp only
    cases found : state.db.roles.first? fun row => row.name = role.name with
    | none =>
      -- no role has the name: it is created
      have unused (other : Role) (member : other ∈ state.db.roles) : other.name ≠ role.name :=
        of_decide_eq_false (by simpa using Table.first?_eq_none_iff.mp found other member)
      obtain ⟨db', image, created, imageName, imageKind, described, members, stored, isFresh⟩ :=
        createRole_ok uuid4 role.description known unused
      dsimp only
      rw [created]
      exact ⟨_, image, rfl, rfl, rfl,
        ⟨imageName, imageKind.trans isKind.symm, fun _ => ⟨described, fun permission => (members permission).trans (sorted permission)⟩⟩,
        stored, fun other member => iff_of_false (unused other member) (isFresh other member)⟩
    | some row =>
      -- the custom role of that name is updated
      obtain ⟨isRow, rowName⟩ := Table.mem_of_first? found
      have sameName : row.name = role.name := of_decide_eq_true rowName
      have rowCustom := custom isKind row isRow sameName
      obtain ⟨db', image, updated, imageId, imageName, imageKind, described, members, stored⟩ :=
        updateRole_ok rowCustom role.description known names isRow
      dsimp only
      rw [rowCustom, if_neg (by decide), updated]
      refine ⟨_, image, rfl, rfl, by rw [imageId]; rfl,
        ⟨imageName.trans sameName, imageKind.trans isKind.symm,
          fun _ => ⟨described, fun permission => (members permission).trans (sorted permission)⟩⟩,
        stored, fun other member => ?_⟩
      rw [imageId]
      exact identified isRow sameName other member

/-! ## All roles -/

/-- What the roles that were mapped are. -/
structure Named (env : ImportEnv) (source : Database) (state : ApplyState) : Prop where
  names : UniqueNames state.db
  mapped : ∀ role ∈ source.roles, ∀ id, state.roleMap.lookup (env.uuidText role.id) = some id →
    ∃ image ∈ state.db.roles, image.id = id ∧ SameRole role image
  builtin : ∀ role ∈ source.roles, role.builtIn = true → ∃ row ∈ state.db.roles, row.name = role.name ∧ row.builtIn = true
  custom : ∀ role ∈ source.roles, role.builtIn = false → ∀ row ∈ state.db.roles, row.name = role.name → row.builtIn = false

namespace Named

theorem step (named : Named env source state) (receives : ReceivesRoles env source target) (isRole : role ∈ source.roles) :
    ∃ state', applyRole env uuid4 state (ConfigurationExportService.role env source role) = .ok state' ∧
      Named env source state' ∧ state'.skipped = state.skipped ∧
      ∃ id, state'.roleMap = assign state.roleMap (env.uuidText role.id) id := by
  obtain ⟨state', image, applied, sameSkipped, isMap, sameRole, stored, isNamed⟩ :=
    applyRole_ok uuid4 named.names (receives.permissions role isRole) (named.builtin role isRole) (named.custom role isRole)
  have isImage : image ∈ state'.db.roles := (stored image).mpr (.inl rfl)
  refine ⟨state', applied, ⟨fun left leftMember right rightMember same => ?_, fun other isOther id found => ?_,
    fun other isOther isBuiltin => ?_, fun other isOther isCustom row isRow sameName => ?_⟩, sameSkipped, image.id, isMap⟩
  · -- names stay unique
    rcases (stored left).mp leftMember with rfl | ⟨leftOld, leftOther⟩
    · rcases (stored right).mp rightMember with rfl | ⟨rightOld, rightOther⟩
      · rfl
      · exact absurd ((isNamed right rightOld).mp (same.symm.trans sameRole.name)) rightOther
    · rcases (stored right).mp rightMember with rfl | ⟨rightOld, rightOther⟩
      · exact absurd ((isNamed left leftOld).mp (same.trans sameRole.name)) leftOther
      · exact named.names left leftOld right rightOld same
  · rw [isMap, lookup_assign] at found
    split at found
    · next sameText =>
      cases found
      have same := (receives.readable other isOther).eq (receives.readable role isRole) sameText
      have isSame : other = role := Table.eq_of_key_eq isOther isRole same
      exact ⟨image, isImage, rfl, isSame ▸ sameRole⟩
    · next differs =>
      obtain ⟨old, isOld, isId, oldRole⟩ := named.mapped other isOther id found
      refine ⟨old, (stored old).mpr (.inr ⟨isOld, fun sameId => differs ?_⟩), isId, oldRole⟩
      have sameName := (isNamed old isOld).mpr sameId
      rw [receives.names other isOther role isRole (oldRole.name.symm.trans sameName)]
  · obtain ⟨row, isRow, sameName, rowBuiltin⟩ := named.builtin other isOther isBuiltin
    by_cases sameId : row.id = image.id
    · have isRoleName := (isNamed row isRow).mpr sameId
      have same := receives.names other isOther role isRole (sameName.symm.trans isRoleName)
      exact ⟨image, isImage, sameRole.name.trans (same ▸ rfl), sameRole.builtIn.trans (same ▸ isBuiltin)⟩
    · exact ⟨row, (stored row).mpr (.inr ⟨isRow, sameId⟩), sameName, rowBuiltin⟩
  · rcases (stored row).mp isRow with rfl | ⟨isOld, _⟩
    · have same := receives.names other isOther role isRole (sameName.symm.trans sameRole.name)
      exact sameRole.builtIn.trans (same ▸ isCustom)
    · exact named.custom other isOther isCustom row isOld sameName

theorem fold (named : Named env source state) (receives : ReceivesRoles env source target) {items : List Role}
    (known : ∀ role ∈ items, role ∈ source.roles) :
    ∃ state', (items.map (ConfigurationExportService.role env source)).foldlM (applyRole env uuid4) state = .ok state' ∧
      Named env source state' ∧ state'.skipped = state.skipped ∧
      (∀ key, (state.roleMap.lookup key).isSome = true → (state'.roleMap.lookup key).isSome = true) ∧
      ∀ role ∈ items, (state'.roleMap.lookup (env.uuidText role.id)).isSome = true := by
  induction items generalizing state with
  | nil => exact ⟨state, rfl, named, rfl, fun _ => id, fun _ inNil => absurd inNil List.not_mem_nil⟩
  | cons role items ih =>
    obtain ⟨middle, applied, namedMiddle, sameSkipped, id, isMap⟩ :=
      @step _ uuid4 _ _ _ _ named receives (known role List.mem_cons_self)
    obtain ⟨last, folded, namedLast, lastSkipped, kept, mapped⟩ :=
      ih namedMiddle fun other inRest => known other (List.mem_cons_of_mem _ inRest)
    have assigned (key : String) : (middle.roleMap.lookup key).isSome =
        (if key = env.uuidText role.id then some id else state.roleMap.lookup key).isSome := by
      rw [isMap, lookup_assign]
    refine ⟨last, ?_, namedLast, lastSkipped.trans sameSkipped, fun key isKnown => kept key ?_, fun other member => ?_⟩
    · rw [List.map_cons, List.foldlM_cons, applied]
      exact folded
    · rw [assigned]
      split
      · rfl
      · exact isKnown
    · rcases List.mem_cons.mp member with rfl | inRest
      · refine kept _ ?_
        rw [assigned, if_pos rfl]
        rfl
      · exact mapped other inRest

end Named

/-- The roles of an export are all mapped. -/
theorem applyRoles_export (uuid4 : Supply Uuid) (collate : String → String → Bool)
    (receives : ReceivesRoles env source target) :
    ∃ named, applyRoles env uuid4 { db := target } (ConfigurationExportService.roles env collate source) = .ok named ∧
      named.skipped = [] ∧ Named env source named ∧
      ∀ role ∈ source.roles, (named.roleMap.lookup (env.uuidText role.id)).isSome = true := by
  have start : Named env source { db := target } :=
    ⟨receives.received, fun _ _ _ found => (by cases found), receives.builtin, receives.custom⟩
  have perm := @byName_perm collate _ Role.name Role.id source.roles.rows
  obtain ⟨named, folded, isNamed, skipped, -, mapped⟩ :=
    @Named.fold _ uuid4 _ _ _ start receives (byName collate Role.name Role.id source.roles.rows)
      fun role member => perm.mem_iff.mp member
  exact ⟨named, folded, skipped, isNamed, fun role isRole => mapped role (perm.mem_iff.mpr isRole)⟩

end Roles

section Scopes

variable {env : ImportEnv} {source : Database} {cameraMap groupMap : List (String × Uuid)} {state state' : ApplyState}
  {role : Role}

/-! ## Camera scopes -/

theorem setScope_ok {db : Database} {principal : Principal} {mode : CameraScopeMode} {cameraIds groupIds : List Uuid}
    (entries : mode ≠ .selected → cameraIds = [] ∧ groupIds = [])
    (cameras : ∀ id ∈ cameraIds, (db.cameras.get? id).isSome = true)
    (groups : ∀ id ∈ groupIds, (db.cameraGroups.get? id).isSome = true) :
    ∃ db', CameraScopeService.setScope db principal mode.text cameraIds groupIds = .ok db' ∧
      db'.cameras = db.cameras ∧ CameraScopeService.ScopeSet db principal mode cameraIds groupIds db' := by
  have allowed : ¬(mode ≠ .selected ∧ (cameraIds ≠ [] ∨ groupIds ≠ [])) := by
    rintro ⟨notSelected, some⟩
    obtain ⟨noCameras, noGroups⟩ := entries notSelected
    exact some.elim (· noCameras) (· noGroups)
  have known {ρ : Type} [Keyed ρ Uuid] (table : Table ρ) (ids : List Uuid) (found : ∀ id ∈ ids, (table.get? id).isSome = true) :
      ¬(ids.any fun id => (table.get? id).isNone) = true := by
    rw [List.any_eq_true]
    rintro ⟨id, member, isNone⟩
    have isSome := found id member
    rw [Option.isNone_iff_eq_none.mp isNone] at isSome
    cases isSome
  have done : ∃ db', CameraScopeService.setScope db principal mode.text cameraIds groupIds = .ok db' ∧
      db'.cameras = db.cameras := by
    rw [CameraScopeService.setScope, CameraScopeMode.ofText?_text]
    dsimp only
    rw [if_neg allowed, if_neg (known db.cameras cameraIds cameras), if_neg (known db.cameraGroups groupIds groups)]
    refine ⟨_, rfl, ?_⟩
    dsimp only [CameraScopeService.ensureScope]
    split <;> rfl
  obtain ⟨db', done, sameCameras⟩ := done
  obtain ⟨scopeMode, isMode, set⟩ := CameraScopeService.setScope_spec done
  rw [CameraScopeMode.ofText?_text] at isMode
  cases isMode
  exact ⟨db', done, sameCameras, set⟩

/-- A scope as it is stored: entries only where cameras are selected, and only ones that exist. -/
structure ScopeSound (db : Database) (value : CameraScopeValue) : Prop where
  entries : value.mode ≠ .selected → value.cameraIds = [] ∧ value.cameraGroupIds = []
  cameras : ∀ id ∈ value.cameraIds, ∃ camera ∈ db.cameras, camera.id = id
  groups : ∀ id ∈ value.cameraGroupIds, ∃ group ∈ db.cameraGroups, group.id = id

/-- The entries of a scope are the images of those of another. -/
structure ScopeImage (env : ImportEnv) (cameraMap groupMap : List (String × Uuid)) (value image : CameraScopeValue) : Prop where
  mode : image.mode = value.mode
  cameras : ∀ id, id ∈ image.cameraIds ↔ ∃ camera ∈ value.cameraIds, cameraMap.lookup (env.uuidText camera) = some id
  groups : ∀ id, id ∈ image.cameraGroupIds ↔ ∃ group ∈ value.cameraGroupIds, groupMap.lookup (env.uuidText group) = some id

theorem mapIds_export {map : List (String × Uuid)} {ids : List Uuid}
    (known : ∀ id ∈ ids, (map.lookup (env.uuidText id)).isSome = true) :
    ∃ images, mapIds env map (ids.map fun id => .str (env.uuidText id)) = some images ∧
      (∀ image, image ∈ images ↔ ∃ id ∈ ids, map.lookup (env.uuidText id) = some image) ∧ (ids = [] → images = []) := by
  obtain ⟨images, collected, isImage⟩ := @mapM_eq_some_of_forall _ _ (fun source => map.lookup (env.text source))
    (ids.map fun id => .str (env.uuidText id)) fun source member => by
    obtain ⟨id, isId, rfl⟩ := List.mem_map.mp member
    exact known id isId
  refine ⟨images, collected, fun image => ?_, fun isNil => ?_⟩
  · rw [isImage]
    constructor
    · rintro ⟨source, member, found⟩
      obtain ⟨id, isId, rfl⟩ := List.mem_map.mp member
      exact ⟨id, isId, found⟩
    · rintro ⟨id, isId, found⟩
      exact ⟨_, List.mem_map_of_mem isId, found⟩
  · subst isNil
    exact (Option.some.inj collected).symm

/-- What an import of the camera scopes of `source` into a database with these cameras and groups may rely on. -/
structure ReceivesScopes (env : ImportEnv) (source db : Database) (cameraMap groupMap : List (String × Uuid)) : Prop where
  scopes : ∀ role ∈ source.roles, ∃ value, CameraScopeService.getScope source (.role role.id) = some value ∧
    ScopeSound source value
  cameras : ∀ camera ∈ source.cameras, ∃ image, cameraMap.lookup (env.uuidText camera.id) = some image ∧
    (db.cameras.get? image).isSome = true
  groups : ∀ group ∈ source.cameraGroups, ∃ image, groupMap.lookup (env.uuidText group.id) = some image ∧
    (db.cameraGroups.get? image).isSome = true

/-- The scope of a role is set for its image. -/
theorem applyRoleCameraScope_ok (receives : ReceivesScopes env source state.db cameraMap groupMap)
    (isRole : role ∈ source.roles) {target : Uuid} (mapped : state.roleMap.lookup (env.uuidText role.id) = some target) :
    ∃ state' value image,
      applyRoleCameraScope env cameraMap groupMap state (ConfigurationExportService.role env source role) = .ok state' ∧
        state'.skipped = state.skipped ∧ state'.roleMap = state.roleMap ∧ state'.db.cameras = state.db.cameras ∧
        state'.db.cameraGroups = state.db.cameraGroups ∧ state'.db.cameraGroupMembers = state.db.cameraGroupMembers ∧
        state'.db.roles = state.db.roles ∧
        CameraScopeService.getScope source (.role role.id) = some value ∧
        CameraScopeService.getScope state'.db (.role target) = some image ∧ ScopeImage env cameraMap groupMap value image ∧
        ∀ other ≠ Principal.role target,
          CameraScopeService.getScope state'.db other = CameraScopeService.getScope state.db other := by
  obtain ⟨value, isScope, sound⟩ := receives.scopes role isRole
  obtain ⟨cameras, mapCameras, isCamera, noCameras⟩ := @mapIds_export env cameraMap value.cameraIds fun id member => by
    obtain ⟨camera, isCamera, rfl⟩ := sound.cameras id member
    obtain ⟨image, found, -⟩ := receives.cameras camera isCamera
    exact Option.isSome_iff_exists.mpr ⟨image, found⟩
  obtain ⟨groups, mapGroups, isGroup, noGroups⟩ := @mapIds_export env groupMap value.cameraGroupIds fun id member => by
    obtain ⟨group, isGroup, rfl⟩ := sound.groups id member
    obtain ⟨image, found, -⟩ := receives.groups group isGroup
    exact Option.isSome_iff_exists.mpr ⟨image, found⟩
  obtain ⟨db', set, sameCameras, scopeSet⟩ := @setScope_ok state.db (.role target) value.mode cameras groups
    (fun notSelected => ⟨noCameras (sound.entries notSelected).1, noGroups (sound.entries notSelected).2⟩)
    (fun id member => by
      obtain ⟨sourceId, inScope, found⟩ := (isCamera id).mp member
      obtain ⟨camera, cameraMember, rfl⟩ := sound.cameras sourceId inScope
      obtain ⟨image, isImage, exists_⟩ := receives.cameras camera cameraMember
      exact Option.some.inj (isImage.symm.trans found) ▸ exists_)
    (fun id member => by
      obtain ⟨sourceId, inScope, found⟩ := (isGroup id).mp member
      obtain ⟨group, groupMember, rfl⟩ := sound.groups sourceId inScope
      obtain ⟨image, isImage, exists_⟩ := receives.groups group groupMember
      exact Option.some.inj (isImage.symm.trans found) ▸ exists_)
  obtain ⟨image, imageScope, sameMode, imageCameras, imageGroups⟩ := scopeSet.value
  have isId : field (ConfigurationExportService.role env source role) "id" = .ok (.str (env.uuidText role.id)) := rfl
  obtain ⟨scope, isValue, isMode, areCameras, areGroups⟩ : ∃ scope : Dict,
      Dict.get (ConfigurationExportService.role env source role) "camera_scope" = some (.obj scope) ∧
        field scope "mode" = .ok (.str value.mode.text) ∧
        iterate (Dict.get scope "camera_ids") = .ok (value.cameraIds.map fun id => .str (env.uuidText id)) ∧
        iterate (Dict.get scope "camera_group_ids") = .ok (value.cameraGroupIds.map fun id => .str (env.uuidText id)) := by
    have read : Dict.get (ConfigurationExportService.role env source role) "camera_scope" =
        some (cameraScope env (CameraScopeService.getScope source (.role role.id))) := rfl
    rw [read, isScope]
    exact ⟨_, rfl, rfl, rfl, rfl⟩
  obtain ⟨state', applied, isDb, isSkipped, isMap⟩ : ∃ state' : ApplyState,
      applyRoleCameraScope env cameraMap groupMap state (ConfigurationExportService.role env source role) = .ok state' ∧
        state'.db = db' ∧ state'.skipped = state.skipped ∧ state'.roleMap = state.roleMap := by
    rw [applyRoleCameraScope, isId]
    dsimp only [bind, Except.bind, ImportEnv.text]
    rw [mapped, isValue]
    dsimp only
    rw [isMode, areCameras]
    dsimp only
    rw [mapCameras, areGroups]
    dsimp only
    rw [mapGroups]
    dsimp only
    rw [set]
    exact ⟨_, rfl, rfl, rfl, rfl⟩
  refine ⟨state', value, image, applied, isSkipped, isMap, ?_⟩
  rw [isDb]
  exact ⟨sameCameras, scopeSet.groups, scopeSet.members, scopeSet.roles, isScope, imageScope,
    ⟨sameMode, fun id => (imageCameras id).trans (isCamera id), fun id => (imageGroups id).trans (isGroup id)⟩, scopeSet.others⟩

/-- The resources that scopes speak about are the same. -/
structure SameResources (db db' : Database) : Prop where
  cameras : db'.cameras = db.cameras
  groups : db'.cameraGroups = db.cameraGroups
  members : db'.cameraGroupMembers = db.cameraGroupMembers
  roles : db'.roles = db.roles

/-- A role of the target has the scope of one of the source. -/
def Granted (env : ImportEnv) (source : Database) (cameraMap groupMap : List (String × Uuid)) (db : Database) (role : Role)
    (target : Uuid) : Prop :=
  ∃ value image, CameraScopeService.getScope source (.role role.id) = some value ∧ ScopeSound source value ∧
    CameraScopeService.getScope db (.role target) = some image ∧ ScopeImage env cameraMap groupMap value image

theorem applyRoleCameraScopes_fold (receives : ReceivesScopes env source state.db cameraMap groupMap) {items : List Role}
    (nodup : items.Nodup) (known : ∀ role ∈ items, role ∈ source.roles)
    (mapped : ∀ role ∈ items, (state.roleMap.lookup (env.uuidText role.id)).isSome = true)
    (injective : ∀ role ∈ source.roles, ∀ other ∈ source.roles, ∀ id, state.roleMap.lookup (env.uuidText role.id) = some id →
      state.roleMap.lookup (env.uuidText other.id) = some id → role = other) :
    ∃ state', (items.map (ConfigurationExportService.role env source)).foldlM
        (applyRoleCameraScope env cameraMap groupMap) state = .ok state' ∧
      state'.skipped = state.skipped ∧ SameResources state.db state'.db ∧
      (∀ role ∈ items, ∀ id, state.roleMap.lookup (env.uuidText role.id) = some id →
        Granted env source cameraMap groupMap state'.db role id) ∧
      ∀ other, (∀ role ∈ items, ∀ id, state.roleMap.lookup (env.uuidText role.id) = some id → other ≠ Principal.role id) →
        CameraScopeService.getScope state'.db other = CameraScopeService.getScope state.db other := by
  induction items generalizing state with
  | nil => exact ⟨state, rfl, rfl, ⟨rfl, rfl, rfl, rfl⟩, fun _ inNil => absurd inNil List.not_mem_nil, fun _ _ => rfl⟩
  | cons role items ih =>
    obtain ⟨isNew, nodup⟩ := List.nodup_cons.mp nodup
    have isRole := known role List.mem_cons_self
    obtain ⟨target, isTarget⟩ := Option.isSome_iff_exists.mp (mapped role List.mem_cons_self)
    obtain ⟨middle, value, image, applied, sameSkipped, sameMap, sameCameras, sameGroups, sameMembers, sameRoles, isScope,
      imageScope, isImage, others⟩ := applyRoleCameraScope_ok receives isRole isTarget
    obtain ⟨_, isValue, sound⟩ := receives.scopes role isRole
    cases isScope.symm.trans isValue
    have receivesMiddle : ReceivesScopes env source middle.db cameraMap groupMap :=
      ⟨receives.scopes, sameCameras ▸ receives.cameras, sameGroups ▸ receives.groups⟩
    obtain ⟨last, folded, lastSkipped, resources, granted, untouched⟩ := ih receivesMiddle nodup
      (fun other inRest => known other (List.mem_cons_of_mem _ inRest))
      (fun other inRest => sameMap ▸ mapped other (List.mem_cons_of_mem _ inRest)) (sameMap ▸ injective)
    rw [sameMap] at granted untouched
    have isLast : CameraScopeService.getScope last.db (.role target) = some image := by
      rw [untouched (.role target) fun other inRest id isOther same => ?_, imageScope]
      cases same
      exact isNew (injective role isRole other (known other (List.mem_cons_of_mem _ inRest)) target isTarget isOther ▸ inRest)
    refine ⟨last, ?_, lastSkipped.trans sameSkipped,
      ⟨resources.cameras.trans sameCameras, resources.groups.trans sameGroups, resources.members.trans sameMembers,
        resources.roles.trans sameRoles⟩, fun other member id found => ?_, fun other apart => ?_⟩
    · rw [List.map_cons, List.foldlM_cons, applied]
      exact folded
    · rcases List.mem_cons.mp member with rfl | inRest
      · cases isTarget.symm.trans found
        exact ⟨value, image, isScope, sound, isLast, isImage⟩
      · exact granted other inRest id found
    · rw [untouched other fun role inRest => apart role (List.mem_cons_of_mem _ inRest)]
      exact others other (apart role List.mem_cons_self target isTarget)

end Scopes

/-! ## What a role sees -/

section Coverage

variable {env : ImportEnv} {uuid4 : Supply Uuid} {source target db : Database} {cameraMap : List (String × Uuid)}
  {state : GroupState}

/-- The groups of the target that are none of the source do not stand below images. -/
def Apart (source target : Database) : Prop :=
  ∀ row ∈ target.cameraGroups, (∀ group ∈ source.cameraGroups, group.name ≠ row.name) →
    ∀ parent ∈ target.cameraGroups, row.parentId = some parent.id → ∀ group ∈ source.cameraGroups, group.name ≠ parent.name

/-- The cameras of the source have different images. -/
def CamerasDistinct (env : ImportEnv) (source : Database) (cameraMap : List (String × Uuid)) : Prop :=
  ∀ camera ∈ source.cameras, ∀ other ∈ source.cameras, ∀ image,
    cameraMap.lookup (env.uuidText camera.id) = some image → cameraMap.lookup (env.uuidText other.id) = some image →
      camera.id = other.id

theorem mem_groupEdges {above below : Uuid} :
    (above, below) ∈ CameraScopeService.groupEdges db ↔
      ∃ group ∈ db.cameraGroups, group.parentId = some above ∧ group.id = below := by
  unfold CameraScopeService.groupEdges
  rw [List.mem_filterMap]
  constructor
  · rintro ⟨group, member, isEdge⟩
    obtain ⟨parent, isParent, same⟩ := Option.map_eq_some_iff.mp isEdge
    cases same
    exact ⟨group, member, isParent, rfl⟩
  · rintro ⟨group, member, isParent, rfl⟩
    exact ⟨group, member, by rw [isParent]; rfl⟩

namespace Merged

theorem image_injective (merged : Merged env source target cameraMap state) (sent : GroupsSound source)
    {group other : CameraGroup} (isGroup : group ∈ source.cameraGroups) (isOther : other ∈ source.cameraGroups) {id : Uuid}
    (isImage : state.image env group.id = some id) (otherImage : state.image env other.id = some id) : group = other := by
  obtain ⟨row, -, -⟩ := merged.stored group isGroup id isImage
  have sameName := merged.name_of_image isOther row otherImage
  exact sent.names group isGroup other isOther sameName

/-- What stands below an image is an image, of a group that stood there. -/
theorem child_of_image (merged : Merged env source target cameraMap state) (receives : Receives env uuid4 source target cameraMap)
    (apart : Apart source target) (allMapped : ∀ group ∈ source.cameraGroups, (state.image env group.id).isSome = true)
    {group row : CameraGroup} (isGroup : group ∈ source.cameraGroups) (isRow : row ∈ state.db.cameraGroups) {id : Uuid}
    (isImage : state.image env group.id = some id) (isParent : row.parentId = some id) :
    ∃ child ∈ source.cameraGroups, state.image env child.id = some row.id ∧ child.parentId = some group.id := by
  obtain ⟨groupRow, -, -⟩ := merged.stored group isGroup id isImage
  by_cases isNamed : ∃ child ∈ source.cameraGroups, child.name = row.name
  · obtain ⟨child, isChild, sameName⟩ := isNamed
    obtain ⟨childImage, isChildImage⟩ := Option.isSome_iff_exists.mp (allMapped child isChild)
    obtain ⟨childRow, -, -⟩ := merged.stored child isChild childImage isChildImage
    have same := merged.sound.names _ childRow row isRow sameName
    subst same
    refine ⟨child, isChild, isChildImage, ?_⟩
    obtain ⟨above, hasParent, aboveImage⟩ := Option.bind_eq_some_iff.mp isParent
    obtain ⟨parent, parentMember, rfl⟩ := receives.sent.exists_parent isChild hasParent
    rw [hasParent, merged.image_injective receives.sent parentMember isGroup aboveImage isImage]
  · -- a group of the target alone has a parent of the target alone
    exfalso
    have noName (child : CameraGroup) (isChild : child ∈ source.cameraGroups) : child.name ≠ row.name :=
      fun same => isNamed ⟨child, isChild, same⟩
    have isTarget : row ∈ target.cameraGroups := by
      refine (merged.others row isRow).resolve_right ?_
      rintro ⟨child, isChild, childImage⟩
      exact noName child isChild (merged.name_of_image isChild isRow childImage).symm
    obtain ⟨parent, parentMember, rfl⟩ := receives.received.exists_parent isTarget isParent
    obtain ⟨later, isLater, laterId, laterName⟩ := merged.kept parent parentMember
    have same : later = _ := Table.eq_of_key_eq isLater groupRow laterId
    refine apart row isTarget noName parent parentMember isParent group isGroup ?_
    rw [← laterName, same]

/-- Two cameras with one image are one. -/
theorem eq_of_cameraImage (distinct : CamerasDistinct env source cameraMap) {camera : Camera} (isCamera : camera ∈ source.cameras)
    {image : Uuid} (isImage : cameraMap.lookup (env.uuidText camera.id) = some image) {id : Uuid}
    (isKnown : ∃ other ∈ source.cameras, other.id = id) (otherImage : cameraMap.lookup (env.uuidText id) = some image) :
    id = camera.id := by
  obtain ⟨other, isOther, rfl⟩ := isKnown
  exact distinct other isOther camera isCamera image otherImage isImage

/-- The image of a group has the image of a camera just when the group has the camera. -/
theorem member_iff (merged : Merged env source target cameraMap state) (receives : Receives env uuid4 source target cameraMap)
    (distinct : CamerasDistinct env source cameraMap) {group : CameraGroup} (isGroup : group ∈ source.cameraGroups) {id : Uuid}
    (isImage : state.image env group.id = some id) {camera : Camera} (isCamera : camera ∈ source.cameras)
    {cameraImage : Uuid} (isCameraImage : cameraMap.lookup (env.uuidText camera.id) = some cameraImage) :
    { cameraGroupId := id, cameraId := cameraImage } ∈ state.db.cameraGroupMembers ↔
      { cameraGroupId := group.id, cameraId := camera.id } ∈ source.cameraGroupMembers := by
  obtain ⟨-, -, isMember⟩ := merged.stored group isGroup id isImage
  rw [isMember]
  constructor
  · rintro ⟨cameraId, member, found⟩
    obtain ⟨-, known⟩ := receives.members _ member
    obtain ⟨other, isOther⟩ := Option.isSome_iff_exists.mp known
    have same := eq_of_cameraImage distinct isCamera isCameraImage ⟨other, Table.get?_eq_some_iff.mp isOther⟩ found
    rwa [← same]
  · exact fun member => ⟨camera.id, member, isCameraImage⟩

/-- A camera is in the groups below some groups just when its image is in those below their images. -/
theorem covers_iff (merged : Merged env source target cameraMap state) (receives : Receives env uuid4 source target cameraMap)
    (apart : Apart source target) (distinct : CamerasDistinct env source cameraMap)
    (allMapped : ∀ group ∈ source.cameraGroups, (state.image env group.id).isSome = true)
    {value image : CameraScopeValue} (sound : ScopeSound source value)
    (isImage : ScopeImage env cameraMap state.groupMap value image) {camera : Camera} (isCamera : camera ∈ source.cameras)
    {cameraImage : Uuid} (isCameraImage : cameraMap.lookup (env.uuidText camera.id) = some cameraImage) :
    CameraScopeService.Covers state.db image cameraImage ↔ CameraScopeService.Covers source value camera.id := by
  let imageOf (id : Uuid) : Uuid := (state.image env id).getD 0
  have imageOf_eq {id image : Uuid} (isImage : state.image env id = some image) : imageOf id = image := by
    rw [show imageOf id = (state.image env id).getD 0 from rfl, isImage, Option.getD_some]
  have mapped (group : CameraGroup) (isGroup : group ∈ source.cameraGroups) : state.image env group.id = some (imageOf group.id) := by
    obtain ⟨id, isId⟩ := Option.isSome_iff_exists.mp (allMapped group isGroup)
    rw [isId, imageOf_eq isId]
  -- edges go along with the images, and back
  have along (above below : Uuid) (edge : (above, below) ∈ CameraScopeService.groupEdges source) :
      (imageOf above, imageOf below) ∈ CameraScopeService.groupEdges state.db := by
    obtain ⟨group, isGroup, isParent, rfl⟩ := mem_groupEdges.mp edge
    obtain ⟨parent, parentMember, rfl⟩ := receives.sent.exists_parent isGroup isParent
    obtain ⟨row, -, -⟩ := merged.stored group isGroup _ (mapped group isGroup)
    refine mem_groupEdges.mpr ⟨_, row, ?_, rfl⟩
    dsimp only
    rw [isParent, Option.bind_some, mapped parent parentMember]
  have back (above : Uuid) (isKnown : ∃ group ∈ source.cameraGroups, group.id = above) (below : Uuid)
      (edge : (imageOf above, below) ∈ CameraScopeService.groupEdges state.db) :
      ∃ id, (∃ group ∈ source.cameraGroups, group.id = id) ∧ imageOf id = below ∧
        (above, id) ∈ CameraScopeService.groupEdges source := by
    obtain ⟨group, isGroup, rfl⟩ := isKnown
    obtain ⟨row, isRow, isParent, rfl⟩ := mem_groupEdges.mp edge
    obtain ⟨child, isChild, childImage, hasParent⟩ :=
      merged.child_of_image receives apart allMapped isGroup isRow (mapped group isGroup) isParent
    exact ⟨child.id, ⟨child, isChild, rfl⟩, imageOf_eq childImage, mem_groupEdges.mpr ⟨child, isChild, hasParent, rfl⟩⟩
  have seeds (id : Uuid) : id ∈ image.cameraGroupIds ↔ id ∈ value.cameraGroupIds.map imageOf := by
    rw [isImage.groups, List.mem_map]
    refine exists_congr fun groupId => and_congr_right fun member => ?_
    obtain ⟨group, isGroup, rfl⟩ := sound.groups groupId member
    rw [show state.groupMap.lookup (env.uuidText group.id) = some (imageOf group.id) from mapped group isGroup, Option.some.injEq]
  -- a scope names the image of a camera just when it names the camera
  have direct : cameraImage ∈ image.cameraIds ↔ camera.id ∈ value.cameraIds := by
    rw [isImage.cameras]
    constructor
    · rintro ⟨id, member, found⟩
      exact eq_of_cameraImage distinct isCamera isCameraImage (sound.cameras id member) found ▸ member
    · exact fun member => ⟨camera.id, member, isCameraImage⟩
  have inGroup (group : CameraGroup) (isGroup : group ∈ source.cameraGroups) :=
    merged.member_iff receives distinct isGroup (mapped group isGroup) isCamera isCameraImage
  -- the paths below the two selections are images of each other
  have throughGroups : (∃ id, ReachableFrom (CameraScopeService.groupEdges state.db) image.cameraGroupIds id ∧
        { cameraGroupId := id, cameraId := cameraImage } ∈ state.db.cameraGroupMembers) ↔
      ∃ id, ReachableFrom (CameraScopeService.groupEdges source) value.cameraGroupIds id ∧
        { cameraGroupId := id, cameraId := camera.id } ∈ source.cameraGroupMembers := by
    constructor
    · rintro ⟨id, reachable, member⟩
      obtain ⟨groupId, ⟨group, isGroup, rfl⟩, rfl, path⟩ :=
        (reachable.mono fun id member => (seeds id).mp member).of_map sound.groups back
      exact ⟨group.id, path, (inGroup group isGroup).mp member⟩
    · rintro ⟨id, reachable, member⟩
      obtain ⟨known, -⟩ := receives.members _ member
      obtain ⟨group, isGroup⟩ := Option.isSome_iff_exists.mp known
      obtain ⟨groupMember, rfl⟩ := Table.get?_eq_some_iff.mp isGroup
      exact ⟨imageOf group.id, (reachable.map along).mono fun id member => (seeds id).mpr member,
        (inGroup group groupMember).mpr member⟩
  rw [CameraScopeService.Covers, CameraScopeService.Covers, isImage.mode, direct, throughGroups]

end Merged

/-! ## The round trip -/

/-- What the services keep of groups, roles and scopes. -/
structure AccessSound (db : Database) : Prop where
  groups : GroupsSound db
  members : ∀ member ∈ db.cameraGroupMembers, (db.cameraGroups.get? member.cameraGroupId).isSome = true ∧
    (db.cameras.get? member.cameraId).isSome = true
  names : UniqueNames db
  permissions : ∀ role ∈ db.roles, ∀ permission ∈ role.permissions, permission ∈ AuthAdminService.allPermissions
  hasScope : ∀ role ∈ db.roles, ∃ value, CameraScopeService.getScope db (.role role.id) = some value
  scopes : ∀ principal value, CameraScopeService.getScope db principal = some value → ScopeSound db value

/-- The target has the built-in roles of the source under their names, and can tell the groups of the two apart
    by name; a new id is none of the source. -/
structure Compatible (env : ImportEnv) (uuid4 : Supply Uuid) (source target : Database) : Prop where
  readableGroups : ∀ group ∈ source.cameraGroups, Readable env group.id
  readableRoles : ∀ role ∈ source.roles, Readable env role.id
  builtin : ∀ role ∈ source.roles, role.builtIn = true → ∃ row ∈ target.roles, row.name = role.name ∧ row.builtIn = true
  custom : ∀ role ∈ source.roles, role.builtIn = false → ∀ row ∈ target.roles, row.name = role.name → row.builtIn = false
  named : ∀ row ∈ target.cameraGroups, ∀ group ∈ source.cameraGroups, row.id = group.id → row.name = group.name
  fresh : ∀ used, ∀ group ∈ source.cameraGroups, uuid4.next used ≠ group.id
  apart : Apart source target

/-- The cameras of the source were mapped, to different cameras of the target. -/
structure CamerasMapped (env : ImportEnv) (source db : Database) (cameraMap : List (String × Uuid)) : Prop where
  known : ∀ camera ∈ source.cameras, ∃ image, cameraMap.lookup (env.uuidText camera.id) = some image ∧
    (db.cameras.get? image).isSome = true
  distinct : CamerasDistinct env source cameraMap

theorem roleScope_allows_iff {role camera : Uuid} {value : CameraScopeValue}
    (isScope : CameraScopeService.getScope db (.role role) = some value) :
    (CameraScopeService.roleScope db role).allows camera = true ↔ CameraScopeService.Covers db value camera := by
  rw [CameraScopeService.roleScope, isScope]
  exact CameraScopeService.allows_iff_covers

/-- The roles and groups of an export are imported without one that is skipped, and a role sees the image of a camera
    just when it saw the camera.  Between the roles and the groups the devices and cameras are imported, which leaves
    the roles and the groups. -/
theorem roles_see_the_same (collate : String → String → Bool) (sent : AccessSound source) (received : AccessSound target)
    (compatible : Compatible env uuid4 source target) :
    ∃ named, applyRoles env uuid4 { db := target } (ConfigurationExportService.roles env collate source) = .ok named ∧
      named.skipped = [] ∧
      ∀ (db : Database) (cameraMap : List (String × Uuid)), db.roles = named.db.roles →
        db.cameraGroups = target.cameraGroups → CamerasMapped env source db cameraMap →
        ∃ grouped granted, applyGroupsAndScopes env uuid4 db named.roleMap cameraMap
            (ConfigurationExportService.roles env collate source) (cameraGroups env collate source)
            (cameraGroupMembers env source) = .ok (grouped, granted) ∧
          grouped.skipped = [] ∧ granted.skipped = [] ∧
          ∀ role ∈ source.roles, ∃ image ∈ granted.db.roles, SameRole role image ∧
            ∀ camera ∈ source.cameras, ∀ cameraImage, cameraMap.lookup (env.uuidText camera.id) = some cameraImage →
              (CameraScopeService.roleScope granted.db image.id).allows cameraImage =
                (CameraScopeService.roleScope source role.id).allows camera.id := by
  have receivesRoles : ReceivesRoles env source target :=
    ⟨compatible.readableRoles, sent.names, sent.permissions, received.names, compatible.builtin, compatible.custom⟩
  obtain ⟨named, applied, noneSkipped, isNamed, rolesMapped⟩ := applyRoles_export uuid4 collate receivesRoles
  refine ⟨named, applied, noneSkipped, fun db cameraMap sameRoles sameGroups camerasMapped => ?_⟩
  have receives : Receives env uuid4 source db cameraMap :=
    { sent := sent.groups
      members := sent.members
      received := ⟨received.groups.hierarchical.congr sameGroups, sameGroups ▸ received.groups.names,
        sameGroups ▸ received.groups.clean⟩
      readable := compatible.readableGroups
      cameras := camerasMapped.known
      named := sameGroups ▸ compatible.named
      fresh := compatible.fresh }
  have apart : Apart source db := fun row isRow noName parent isParent =>
    compatible.apart row (sameGroups ▸ isRow) noName parent (sameGroups ▸ isParent)
  obtain ⟨grouped, groupsApplied, groupsSkipped, merged, allMapped⟩ := applyCameraGroups_export collate receives
  have groupedRoles : grouped.db.roles = named.db.roles := by rw [merged.rest, sameRoles]
  have groupedCameras : grouped.db.cameras = db.cameras := by rw [merged.rest]
  have receivesScopes : ReceivesScopes env source grouped.db cameraMap grouped.groupMap :=
    { scopes := fun role isRole => by
        obtain ⟨value, isScope⟩ := sent.hasScope role isRole
        exact ⟨value, isScope, sent.scopes _ value isScope⟩
      cameras := groupedCameras ▸ camerasMapped.known
      groups := fun group isGroup => by
        obtain ⟨image, isImage⟩ := Option.isSome_iff_exists.mp (allMapped group isGroup)
        obtain ⟨row, -, -⟩ := merged.stored group isGroup image isImage
        exact ⟨image, isImage, Option.isSome_iff_exists.mpr ⟨_, Table.get?_of_mem row⟩⟩ }
  -- roles with one image would have one name
  have injective (role : Role) (isRole : role ∈ source.roles) (other : Role) (isOther : other ∈ source.roles) (id : Uuid)
      (found : named.roleMap.lookup (env.uuidText role.id) = some id)
      (otherFound : named.roleMap.lookup (env.uuidText other.id) = some id) : role = other := by
    obtain ⟨image, isImage, rfl, sameRole⟩ := isNamed.mapped role isRole id found
    obtain ⟨otherImage, isOtherImage, sameId, otherSame⟩ := isNamed.mapped other isOther _ otherFound
    have same : otherImage = image := Table.eq_of_key_eq isOtherImage isImage sameId
    exact sent.names role isRole other isOther (sameRole.name.symm.trans (same ▸ otherSame.name))
  have perm := @byName_perm collate _ Role.name Role.id source.roles.rows
  obtain ⟨granted, scopesApplied, scopesSkipped, resources, isGranted, -⟩ :=
    @applyRoleCameraScopes_fold env source cameraMap grouped.groupMap { db := grouped.db, roleMap := named.roleMap }
      receivesScopes (byName collate Role.name Role.id source.roles.rows)
      (perm.nodup_iff.mpr source.roles.keysNodup.of_map) (fun role member => perm.mem_iff.mp member)
      (fun role member => rolesMapped role (perm.mem_iff.mp member)) injective
  have composed : applyGroupsAndScopes env uuid4 db named.roleMap cameraMap
      (ConfigurationExportService.roles env collate source) (cameraGroups env collate source)
      (cameraGroupMembers env source) = .ok (grouped, granted) := by
    rw [applyGroupsAndScopes, groupsApplied]
    dsimp only [bind, Except.bind, applyRoleCameraScopes, ConfigurationExportService.roles]
    rw [scopesApplied]
  refine ⟨grouped, granted, composed, groupsSkipped, scopesSkipped, fun role isRole => ?_⟩
  obtain ⟨id, found⟩ := Option.isSome_iff_exists.mp (rolesMapped role isRole)
  obtain ⟨image, isImage, rfl, sameRole⟩ := isNamed.mapped role isRole id found
  obtain ⟨value, scope, isValue, sound, isScope, isScopeImage⟩ := isGranted role (perm.mem_iff.mpr isRole) image.id found
  have inGranted : image ∈ granted.db.roles := by rwa [resources.roles, groupedRoles]
  refine ⟨image, inGranted, sameRole, fun camera isCamera cameraImage isCameraImage => ?_⟩
  have covers := merged.covers_iff receives apart camerasMapped.distinct allMapped sound isScopeImage isCamera isCameraImage
  have sameCover := @CameraScopeService.covers_of_same grouped.db granted.db scope cameraImage resources.groups resources.members
  rw [Bool.eq_iff_iff, roleScope_allows_iff isScope, roleScope_allows_iff isValue, sameCover, covers]

end Coverage

theorem hallSource_access : AccessSound hallSource where
  groups := hallSource_sound
  members := receives_hall.members
  names _ isRole _ isOther _ := (List.mem_singleton.mp isRole).trans (List.mem_singleton.mp isOther).symm
  permissions role isRole permission member := by
    rw [List.mem_singleton.mp isRole] at member
    rw [List.mem_singleton.mp member]
    decide
  hasScope role isRole := by
    rw [List.mem_singleton.mp isRole]
    exact ⟨_, rfl⟩
  scopes principal value isScope := by
    have isGuard : principal = .role 3 := by
      obtain ⟨scope, found, -⟩ := Option.map_eq_some_iff.mp isScope
      obtain ⟨member, isPrincipal⟩ := Table.get?_eq_some_iff.mp found
      rw [← isPrincipal, List.mem_singleton.mp member]
      rfl
    subst isGuard
    have known : CameraScopeService.getScope hallSource (.role 3) =
        some { mode := .selected, cameraIds := [], cameraGroupIds := [1] } := rfl
    cases isScope.symm.trans known
    refine ⟨fun differs => absurd rfl differs, fun _ inNil => absurd inNil List.not_mem_nil, fun id member => ?_⟩
    exact ⟨{ id := 1, name := "site" }, List.mem_cons_of_mem _ List.mem_cons_self, (List.mem_singleton.mp member).symm⟩

theorem hallTarget_access : AccessSound hallTarget where
  groups := hallTarget_sound
  members _ isMember := absurd isMember (Table.not_mem_empty _)
  names _ isRole := absurd isRole (Table.not_mem_empty _)
  permissions _ isRole := absurd isRole (Table.not_mem_empty _)
  hasScope _ isRole := absurd isRole (Table.not_mem_empty _)
  scopes _ _ isScope := by cases isScope

theorem compatible_hall : Compatible uuidEnv laterIds hallSource hallTarget where
  readableGroups := receives_hall.readable
  readableRoles role isRole := by
    rw [List.mem_singleton.mp isRole]
    exact readable_uuid (by norm_num)
  builtin role isRole isBuiltin := by
    rw [List.mem_singleton.mp isRole] at isBuiltin
    cases isBuiltin
  custom _ _ _ _ isRow := absurd isRow (Table.not_mem_empty _)
  named := receives_hall.named
  fresh := receives_hall.fresh
  apart row isRow _ parent _ isParent := by
    rw [hallTarget_groups isRow] at isParent
    cases isParent

/-- The guard sees the camera of the hall in the other installation too. -/
theorem roles_see_the_same_hall : ∃ named grouped granted,
    applyRoles uuidEnv laterIds { db := hallTarget } (ConfigurationExportService.roles uuidEnv (· ≤ ·) hallSource) = .ok named ∧
      applyGroupsAndScopes uuidEnv laterIds { hallTarget with roles := named.db.roles } named.roleMap hallCameras
        (ConfigurationExportService.roles uuidEnv (· ≤ ·) hallSource) (cameraGroups uuidEnv (· ≤ ·) hallSource)
        (cameraGroupMembers uuidEnv hallSource) = .ok (grouped, granted) ∧
      ∃ image ∈ granted.db.roles, image.name = "guard" ∧
        (CameraScopeService.roleScope granted.db image.id).allows 8 = true := by
  have mapped (db : Database) (sameCameras : db.cameras = hallTarget.cameras) :
      CamerasMapped uuidEnv hallSource db hallCameras :=
    { known := sameCameras ▸ receives_hall.cameras
      distinct := fun camera isCamera other isOther _ _ _ => by
        rw [List.mem_singleton.mp isCamera, List.mem_singleton.mp isOther] }
  obtain ⟨named, applied, -, imports⟩ := roles_see_the_same (· ≤ ·) hallSource_access hallTarget_access compatible_hall
  obtain ⟨grouped, granted, composed, -, -, sees⟩ :=
    imports { hallTarget with roles := named.db.roles } hallCameras rfl rfl (mapped _ rfl)
  obtain ⟨image, isImage, same, allows⟩ := sees _ (List.mem_singleton.mpr rfl)
  refine ⟨named, grouped, granted, applied, composed, image, isImage, same.name, ?_⟩
  rw [allows _ (List.mem_singleton.mpr rfl) 8 hallCameras_lookup]
  rfl

end ZeroNvr.ConfigurationImportService
