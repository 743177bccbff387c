import ZeroNvr.System.ImportReferences
import ZeroNvr.Verified.AccessRoundTrip

/-! # What an export passes

An import is validated before anything is applied.  The roles, groups and members
that an installation exports pass: they carry no field of a secret, their ids are
distinct, and what they refer to is in the bundle.
-/

namespace ZeroNvr.ConfigurationImportService

open Lib CameraGroupService ConfigurationExportService

/-! ## Values that pass -/

theorem forM_eq_ok {α : Type} {check : α → Result Unit} {values : List α} :
    values.forM check = .ok () ↔ ∀ value ∈ values, check value = .ok () := by
  induction values with
  | nil => exact iff_of_true rfl fun _ inNil => absurd inNil List.not_mem_nil
  | cons value values ih =>
    change check value >>= (fun _ => values.forM check) = .ok () ↔ _
    rw [bind_eq_ok, List.forall_mem_cons]
    constructor
    · rintro ⟨⟨⟩, passes, rest⟩
      exact ⟨passes, ih.mp rest⟩
    · rintro ⟨passes, rest⟩
      exact ⟨(), passes, ih.mpr rest⟩

theorem rejectSecretsOfArray_ok {values : List Json} (pass : ∀ value ∈ values, rejectSecretFields value = .ok ()) :
    rejectSecretsOfArray values = .ok () := by
  induction values with
  | nil => rfl
  | cons value values ih =>
    obtain ⟨passes, rest⟩ := List.forall_mem_cons.mp pass
    rw [rejectSecretsOfArray, passes]
    exact ih rest

theorem rejectSecretsOfObject_cons {key : String} {child : Json} {fields : List (String × Json)}
    (allowed : lower key ∉ forbiddenKeys) (passes : rejectSecretFields child = .ok ())
    (rest : rejectSecretsOfObject fields = .ok ()) : rejectSecretsOfObject ((key, child) :: fields) = .ok () := by
  rw [rejectSecretsOfObject, if_neg allowed, passes]
  exact rest

theorem rejectSecretFields_texts {α : Type} (values : List α) (text : α → String) :
    rejectSecretFields (.arr (values.map fun value => .str (text value))) = .ok () := by
  apply rejectSecretsOfArray_ok
  intro value member
  obtain ⟨_, -, rfl⟩ := List.mem_map.mp member
  rfl

theorem rejectSecretFields_optional (text : Option String) : rejectSecretFields (optional text) = .ok () := by
  cases text <;> rfl

/-- Ids that are texts, not empty and distinct, are collected. -/
theorem idSet_ok {ρ : Type} {rows : List ρ} {item : ρ → Dict} {id : ρ → String}
    (isId : ∀ row, Dict.get (item row) "id" = some (.str (id row))) (nonempty : ∀ row ∈ rows, id row ≠ "")
    (distinct : (rows.map id).Nodup) : idSet (rows.map item) = .ok (rows.map id) := by
  induction rows using List.reverseRecOn with
  | nil => rfl
  | append_singleton rows row ih =>
    rw [List.map_append, List.map_singleton] at distinct ⊢
    obtain ⟨before, -, apart⟩ := List.nodup_append.mp distinct
    have isNew : id row ∉ rows.map id := fun inBefore => apart _ inBefore _ (List.mem_singleton_self _) rfl
    have collected := ih (fun other member => nonempty other (List.mem_append_left _ member)) before
    rw [idSet] at collected ⊢
    rw [List.foldlM_append, collected, List.map_append, List.map_singleton]
    refine bind_eq_ok.mpr ⟨_, rfl, ?_⟩
    rw [List.foldlM_cons, isId]
    dsimp only
    rw [if_neg (nonempty row (List.mem_append_right _ (List.mem_singleton_self row))), if_neg isNew]
    rfl

theorem requireRef_ok {id : String} {allowed : List String} (known : id ∈ allowed) :
    requireRef (some (.str id)) allowed = .ok id := if_pos known

theorem requireRefs_ok {α : Type} {values : List α} {text : α → String} {allowed : List String}
    (known : ∀ value ∈ values, text value ∈ allowed) :
    requireRefs (some (.arr (values.map fun value => .str (text value)))) allowed = .ok () := by
  rw [requireRefs, iterate]
  apply forM_eq_ok.mpr
  intro value member
  obtain ⟨id, isId, rfl⟩ := List.mem_map.mp member
  rw [requireRef_ok (known id isId)]
  rfl

/-! ## The access of an installation -/

section Exported

variable {env : ImportEnv} {collate : String → String → Bool} {source : Database}

/-- The ids of groups and roles are read back, and no id is blank. -/
structure ReadsBack (env : ImportEnv) (source : Database) : Prop where
  groups : ∀ group ∈ source.cameraGroups, Readable env group.id
  roles : ∀ role ∈ source.roles, Readable env role.id
  blank : env.parseUuid "" = none

/-! ### No field of a secret -/

theorem rejectSecretFields_role (role : Role) :
    rejectSecretFields (.obj (ConfigurationExportService.role env source role)) = .ok () := by
  have scope (value : Option CameraScopeValue) : rejectSecretFields (cameraScope env value) = .ok () := by
    cases value with
    | none => rfl
    | some value =>
      exact rejectSecretsOfObject_cons (by decide) rfl <|
        rejectSecretsOfObject_cons (by decide) (rejectSecretFields_texts _ _) <|
        rejectSecretsOfObject_cons (by decide) (rejectSecretFields_texts _ _) rfl
  exact rejectSecretsOfObject_cons (by decide) rfl <| rejectSecretsOfObject_cons (by decide) rfl <|
    rejectSecretsOfObject_cons (by decide) (rejectSecretFields_optional _) <|
    rejectSecretsOfObject_cons (by decide) rfl <|
    rejectSecretsOfObject_cons (by decide) (rejectSecretFields_texts _ id) <|
    rejectSecretsOfObject_cons (by decide) (scope _) rfl

theorem rejectSecretFields_cameraGroup (group : CameraGroup) :
    rejectSecretFields (.obj (cameraGroup env group)) = .ok () :=
  rejectSecretsOfObject_cons (by decide) rfl <| rejectSecretsOfObject_cons (by decide) rfl <|
    rejectSecretsOfObject_cons (by decide) (rejectSecretFields_optional _) <|
    rejectSecretsOfObject_cons (by decide) (rejectSecretFields_optional _) rfl

theorem rejectSecretFields_cameraGroupMember (member : CameraGroupMember) :
    rejectSecretFields (.obj (cameraGroupMember env member)) = .ok () :=
  rejectSecretsOfObject_cons (by decide) rfl <| rejectSecretsOfObject_cons (by decide) rfl rfl

/-! ### References that lead to a resource -/

theorem idSet_byName {ρ : Type} [Keyed ρ Uuid] (table : Table ρ) (name : ρ → String) {item : ρ → Dict}
    (isId : ∀ row, Dict.get (item row) "id" = some (.str (env.uuidText (Keyed.key row))))
    (readable : ∀ row ∈ table, Readable env (Keyed.key row)) (blank : env.parseUuid "" = none) :
    ∃ ids, idSet ((byName collate name Keyed.key table.rows).map item) = .ok ids ∧
      ∀ row ∈ table, env.uuidText (Keyed.key row) ∈ ids := by
  have perm := @byName_perm collate ρ name Keyed.key table.rows
  have member {row : ρ} : row ∈ byName collate name Keyed.key table.rows ↔ row ∈ table := perm.mem_iff
  refine ⟨_, idSet_ok isId (fun row isRow isBlank => ?_) ?_, fun row isRow => List.mem_map_of_mem (member.mpr isRow)⟩
  · -- a blank text would be read as the id
    have read := readable row (member.mp isRow)
    rw [Readable, isBlank, blank] at read
    cases read
  · refine (perm.nodup_iff.mpr table.keysNodup.of_map).map_on fun row isRow other isOther same => ?_
    apply Table.eq_of_key_eq (member.mp isRow) (member.mp isOther)
    exact (readable row (member.mp isRow)).eq (readable other (member.mp isOther)) same

variable {parsed : ParsedSections} {ids : ReferenceIds}

/-- The references of a bundle with the cameras and groups of the installation. -/
structure Lists (env : ImportEnv) (source : Database) (ids : ReferenceIds) : Prop where
  groups : ∀ group ∈ source.cameraGroups, env.uuidText group.id ∈ ids.groupIds
  cameras : ∀ camera ∈ source.cameras, env.uuidText camera.id ∈ ids.cameraIds

/-- A group refers to its parent, which is another group of the bundle. -/
theorem parent_valid (readable : ∀ group ∈ source.cameraGroups, Readable env group.id) (sound : GroupsSound source)
    (lists : Lists env source ids) {group : CameraGroup} (isGroup : group ∈ source.cameraGroups) {parent : Uuid}
    (isParent : group.parentId = some parent) :
    requireRef (some (.str (env.uuidText parent))) ids.groupIds = .ok (env.uuidText parent) ∧
      env.uuidText group.id ≠ env.uuidText parent := by
  obtain ⟨row, isRow, rfl⟩ := sound.exists_parent isGroup isParent
  refine ⟨requireRef_ok (lists.groups row isRow), fun same => ?_⟩
  have isSelf : group.id = row.id := (readable group isGroup).eq (readable row isRow) same
  apply sound.hierarchical.acyclic group.id
  apply Relation.TransGen.single
  rw [ParentOf, parentById_of_mem isGroup, isParent, isSelf]

theorem member_valid (sound : AccessSound source) (lists : Lists env source ids) {member : CameraGroupMember}
    (isMember : member ∈ source.cameraGroupMembers) :
    env.uuidText member.cameraGroupId ∈ ids.groupIds ∧ env.uuidText member.cameraId ∈ ids.cameraIds := by
  obtain ⟨isGroup, isCamera⟩ := sound.members member isMember
  obtain ⟨group, found⟩ := Option.isSome_iff_exists.mp isGroup
  obtain ⟨camera, foundCamera⟩ := Option.isSome_iff_exists.mp isCamera
  obtain ⟨inGroups, isId⟩ := Table.get?_eq_some_iff.mp found
  obtain ⟨inCameras, isCameraId⟩ := Table.get?_eq_some_iff.mp foundCamera
  exact ⟨isId ▸ lists.groups group inGroups, isCameraId ▸ lists.cameras camera inCameras⟩

/-- The groups, the members and the scopes of an export refer to resources of the bundle. -/
theorem validateGroupReferences_ok (readable : ∀ group ∈ source.cameraGroups, Readable env group.id) (sound : AccessSound source)
    (lists : Lists env source ids) (isRoles : parsed.roles = ConfigurationExportService.roles env collate source)
    (isGroups : parsed.groups = cameraGroups env collate source) (isMembers : parsed.members = cameraGroupMembers env source) :
    validateGroupReferences parsed ids = .ok () := by
  rw [validateGroupReferences, isRoles, isGroups, isMembers]
  refine bind_eq_ok.mpr ⟨(), forM_eq_ok.mpr fun item isItem => ?_, bind_eq_ok.mpr ⟨(), forM_eq_ok.mpr fun item isItem => ?_,
    forM_eq_ok.mpr fun item isItem => ?_⟩⟩
  · obtain ⟨group, isRow, rfl⟩ := List.mem_map.mp isItem
    have isGroup : group ∈ source.cameraGroups := (byName_perm _ _ _).mem_iff.mp isRow
    have isField : Dict.get (cameraGroup env group) "parent_id" = some (uuid env group.parentId) := rfl
    cases isParent : group.parentId with
    | none =>
      rw [isField, isParent]
      rfl
    | some parent =>
      obtain ⟨resolved, other⟩ := parent_valid readable sound.groups lists isGroup isParent
      rw [isField, isParent]
      change requireRef (some (.str (env.uuidText parent))) ids.groupIds >>= _ = _
      rw [resolved]
      apply if_neg
      rw [Json.beq_str_iff]
      exact fun same => other (Json.str.inj (Option.some.inj same))
  · obtain ⟨member, isRow, rfl⟩ := List.mem_map.mp isItem
    obtain ⟨groupKnown, cameraKnown⟩ := member_valid sound lists (mem_byGroup.mp isRow)
    exact bind_eq_ok.mpr ⟨_, requireRef_ok groupKnown, bind_eq_ok.mpr ⟨_, requireRef_ok cameraKnown, rfl⟩⟩
  · obtain ⟨role, isRow, rfl⟩ := List.mem_map.mp isItem
    have isRole : role ∈ source.roles := (byName_perm _ _ _).mem_iff.mp isRow
    obtain ⟨value, isScope⟩ := sound.hasScope role isRole
    obtain ⟨-, isCamera, isGroup⟩ := sound.scopes _ value isScope
    have isField : Dict.get (ConfigurationExportService.role env source role) "camera_scope" =
        some (cameraScope env (CameraScopeService.getScope source (.role role.id))) := rfl
    rw [isField, isScope]
    refine bind_eq_ok.mpr ⟨_, rfl, bind_eq_ok.mpr ⟨(), requireRefs_ok fun id isId => ?_, requireRefs_ok fun id isId => ?_⟩⟩
    · obtain ⟨camera, inCameras, rfl⟩ := isCamera id isId
      exact lists.cameras camera inCameras
    · obtain ⟨group, inGroups, rfl⟩ := isGroup id isId
      exact lists.groups group inGroups

/-- The roles, groups and members of an export pass the validation of every bundle that has them and the cameras of the
    installation: no field is one of a secret, ids are distinct, and references lead to a resource. -/
theorem exported_access_valid (collate : String → String → Bool) (reads : ReadsBack env source) (sound : AccessSound source) :
    (∀ item ∈ ConfigurationExportService.roles env collate source ++ cameraGroups env collate source ++
        cameraGroupMembers env source, rejectSecretFields (.obj item) = .ok ()) ∧
      ∃ roleIds groupIds, idSet (ConfigurationExportService.roles env collate source) = .ok roleIds ∧
        idSet (cameraGroups env collate source) = .ok groupIds ∧
        ∀ (parsed : ParsedSections) (ids : ReferenceIds), parsed.roles = ConfigurationExportService.roles env collate source →
          parsed.groups = cameraGroups env collate source → parsed.members = cameraGroupMembers env source →
          ids.groupIds = groupIds → (∀ camera ∈ source.cameras, env.uuidText camera.id ∈ ids.cameraIds) →
          validateGroupReferences parsed ids = .ok () := by
  constructor
  · intro item member
    rcases List.mem_append.mp member with isAccess | isMember
    · rcases List.mem_append.mp isAccess with isRole | isGroup
      · obtain ⟨role, -, rfl⟩ := List.mem_map.mp isRole
        exact rejectSecretFields_role role
      · obtain ⟨group, -, rfl⟩ := List.mem_map.mp isGroup
        exact rejectSecretFields_cameraGroup group
    · obtain ⟨row, -, rfl⟩ := List.mem_map.mp isMember
      exact rejectSecretFields_cameraGroupMember row
  · obtain ⟨roleIds, areRoles, -⟩ := @idSet_byName env collate _ _ source.roles Role.name
      (ConfigurationExportService.role env source) (fun _ => rfl) reads.roles reads.blank
    obtain ⟨groupIds, areGroups, isIds⟩ := @idSet_byName env collate _ _ source.cameraGroups CameraGroup.name
      (cameraGroup env) (fun _ => rfl) reads.groups reads.blank
    refine ⟨roleIds, groupIds, areRoles, areGroups, fun parsed ids isRoles isGroups isMembers same cameras => ?_⟩
    exact validateGroupReferences_ok reads.groups sound ⟨same ▸ isIds, cameras⟩ isRoles isGroups isMembers

end Exported

/-- A bundle with the hall, its site and the guard. -/
theorem exported_access_valid_hall : ∃ (parsed : ParsedSections) (ids : ReferenceIds),
    parsed.groups = cameraGroups uuidEnv (· ≤ ·) hallSource ∧ ids.cameraIds = [uuidEnv.uuidText 5] ∧
      validateGroupReferences parsed ids = .ok () := by
  have reads : ReadsBack uuidEnv hallSource :=
    { groups := receives_hall.readable
      roles := fun role isRole => by
        rw [List.mem_singleton.mp isRole]
        exact readable_uuid (by norm_num)
      blank := rfl }
  obtain ⟨-, roleIds, groupIds, -, -, valid⟩ := exported_access_valid (· ≤ ·) reads hallSource_access
  refine ⟨⟨_, [], [], [], [], [], [], _, _, [], [], [], [], [], none, []⟩,
    ⟨roleIds, [], [], [], [uuidEnv.uuidText 5], [], groupIds, [], [], []⟩, rfl, rfl,
    valid _ _ rfl rfl rfl rfl fun camera isCamera => ?_⟩
  rw [List.mem_singleton.mp isCamera]
  exact List.mem_singleton_self _

end ZeroNvr.ConfigurationImportService
