import ZeroNvr.Core.Errors
import ZeroNvr.Lib.Outcome
import ZeroNvr.Lib.Worklist
import ZeroNvr.Models

/-! # Camera scopes

The scope of a principal says which cameras it may see: all of them, none, or
selected cameras together with the members of selected groups and of the groups
below those.
-/

namespace ZeroNvr

open Lib

structure EffectiveCameraScope where
  allCameras : Bool
  cameraIds : List Uuid

def EffectiveCameraScope.allows (scope : EffectiveCameraScope) (cameraId : Uuid) : Bool :=
  scope.allCameras || scope.cameraIds.contains cameraId

structure CameraScopeValue where
  mode : CameraScopeMode
  cameraIds : List Uuid
  cameraGroupIds : List Uuid

def ScopeEntryTarget.cameraId? : ScopeEntryTarget → Option Uuid
  | .camera id => some id
  | .cameraGroup _ => none

def ScopeEntryTarget.cameraGroupId? : ScopeEntryTarget → Option Uuid
  | .camera _ => none
  | .cameraGroup id => some id

def CameraScopeMode.ofText? : String → Option CameraScopeMode
  | "all" => some .all
  | "selected" => some .selected
  | "none" => some .none
  | _ => none

namespace CameraScopeService

/-! ## Stored scopes -/

def ensureScope (db : Database) (principal : Principal) (mode : CameraScopeMode) : Database :=
  match db.principalCameraScopes.get? principal with
  | some _ => db
  | none =>
    { db with principalCameraScopes := db.principalCameraScopes.put { principal, scopeMode := mode } }

def entriesOf (db : Database) (principal : Principal) : List ScopeEntryTarget :=
  (db.principalCameraScopeEntries.select fun entry => entry.principal = principal).map
    PrincipalCameraScopeEntry.target

/-- `sorted(ids, key=str)`. -/
def sortedIds (ids : List Uuid) : List Uuid := ids.insertionSort fun left right => left ≤ right

def getScope (db : Database) (principal : Principal) : Option CameraScopeValue :=
  (db.principalCameraScopes.get? principal).map fun scope =>
    { mode := scope.scopeMode
      cameraIds := sortedIds ((entriesOf db principal).filterMap ScopeEntryTarget.cameraId?)
      cameraGroupIds := sortedIds ((entriesOf db principal).filterMap ScopeEntryTarget.cameraGroupId?) }

/-- The targets a scope is stored with. -/
def scopeTargets (mode : CameraScopeMode) (cameraIds cameraGroupIds : List Uuid) : List ScopeEntryTarget :=
  match mode with
  | .selected =>
    (sortedIds cameraIds.dedup).map ScopeEntryTarget.camera ++
      (sortedIds cameraGroupIds.dedup).map ScopeEntryTarget.cameraGroup
  | _ => []

/-- The entries of the principal, replaced by the given ones. -/
def replaceEntries (entries : Table PrincipalCameraScopeEntry) (principal : Principal)
    (targets : List ScopeEntryTarget) : Table PrincipalCameraScopeEntry :=
  targets.foldl (fun entries target => entries.put { principal, target }) (entries.keep (·.principal ≠ principal))

def setScope (db : Database) (principal : Principal) (mode : String) (cameraIds cameraGroupIds : List Uuid) :
    Result Database :=
  match CameraScopeMode.ofText? mode with
  | none => .error (apiError 400 "invalid_camera_scope_mode" "Camera scope mode must be all, selected, or none.")
  | some scopeMode =>
    if scopeMode ≠ .selected ∧ (cameraIds ≠ [] ∨ cameraGroupIds ≠ []) then
      .error (apiError 400 "camera_scope_entries_not_allowed"
        "Camera/group entries are allowed only for selected scope.")
    else if cameraIds.any fun id => (db.cameras.get? id).isNone then
      .error (apiError 400 "invalid_camera_ids" "One or more cameras do not exist.")
    else if cameraGroupIds.any fun id => (db.cameraGroups.get? id).isNone then
      .error (apiError 400 "invalid_camera_group_ids" "One or more camera groups do not exist.")
    else
      let ensured := ensureScope db principal scopeMode
      .ok { ensured with
        principalCameraScopes := ensured.principalCameraScopes.modify principal fun scope => { scope with scopeMode }
        principalCameraScopeEntries := replaceEntries ensured.principalCameraScopeEntries principal
          (scopeTargets scopeMode cameraIds cameraGroupIds) }

/-! ## Effective scopes -/

/-- Each group that has a parent, below it. -/
def groupEdges (db : Database) : List (Uuid × Uuid) :=
  db.cameraGroups.rows.filterMap fun group => group.parentId.map fun parent => (parent, group.id)

/-- `_expand_group_camera_ids`: the members of the groups and of all groups below them. -/
def expandGroupCameraIds (db : Database) (selectedGroupIds : List Uuid) : List Uuid :=
  let expanded := walk (groupEdges db) (selectedGroupIds.length + (groupEdges db).length) selectedGroupIds []
  (db.cameraGroupMembers.select fun member => member.cameraGroupId ∈ expanded).map CameraGroupMember.cameraId

def cameraIdsForScope (db : Database) (value : CameraScopeValue) : EffectiveCameraScope :=
  match value.mode with
  | .all => { allCameras := true, cameraIds := [] }
  | .none => { allCameras := false, cameraIds := [] }
  | .selected =>
    { allCameras := false, cameraIds := value.cameraIds ++ expandGroupCameraIds db value.cameraGroupIds }

/-- What one role lets its holders see. -/
def roleScope (db : Database) (roleId : Uuid) : EffectiveCameraScope :=
  match getScope db (.role roleId) with
  | none => { allCameras := false, cameraIds := [] }
  | some value => cameraIdsForScope db value

/-- A scope of the user's own comes before those of the roles, which are put together. -/
def effectiveScope (db : Database) (userId : Uuid) (roleIds : List Uuid) : EffectiveCameraScope :=
  match getScope db (.user userId) with
  | some value => cameraIdsForScope db value
  | none =>
    let scopes := roleIds.map (roleScope db)
    match scopes.find? EffectiveCameraScope.allCameras with
    | some scope => scope
    | none => { allCameras := false, cameraIds := scopes.flatMap EffectiveCameraScope.cameraIds }

/-! ## What a scope covers -/

/-- A scope covers a camera: all, one that is selected, or one in a group at or below a selected group. -/
def Covers (db : Database) (value : CameraScopeValue) (cameraId : Uuid) : Prop :=
  value.mode = .all ∨ (value.mode = .selected ∧ (cameraId ∈ value.cameraIds ∨
    ∃ groupId, ReachableFrom (groupEdges db) value.cameraGroupIds groupId ∧
      { cameraGroupId := groupId, cameraId } ∈ db.cameraGroupMembers))

theorem mem_expandGroupCameraIds {db : Database} {selectedGroupIds : List Uuid} {cameraId : Uuid} :
    cameraId ∈ expandGroupCameraIds db selectedGroupIds ↔
      ∃ groupId, ReachableFrom (groupEdges db) selectedGroupIds groupId ∧
        { cameraGroupId := groupId, cameraId } ∈ db.cameraGroupMembers := by
  unfold expandGroupCameraIds
  simp only [List.mem_map, Table.mem_select, decide_eq_true_eq, mem_walk_start (le_refl _)]
  constructor
  · rintro ⟨⟨groupId, _⟩, ⟨member, reachable⟩, rfl⟩
    exact ⟨groupId, reachable, member⟩
  · rintro ⟨groupId, reachable, member⟩
    exact ⟨_, ⟨member, reachable⟩, rfl⟩

theorem allows_iff_covers {db : Database} {value : CameraScopeValue} {cameraId : Uuid} :
    (cameraIdsForScope db value).allows cameraId = true ↔ Covers db value cameraId := by
  obtain ⟨mode, cameraIds, cameraGroupIds⟩ := value
  unfold cameraIdsForScope Covers EffectiveCameraScope.allows
  cases mode with
  | all | none => simp
  | selected => simp [mem_expandGroupCameraIds]

/-- Holding several roles covers what one of them does. -/
theorem effectiveScope_allows_iff {db : Database} {userId : Uuid} {roleIds : List Uuid} {cameraId : Uuid}
    (noOwn : getScope db (.user userId) = none) :
    (effectiveScope db userId roleIds).allows cameraId = true ↔
      ∃ roleId ∈ roleIds, (roleScope db roleId).allows cameraId = true := by
  unfold effectiveScope
  rw [noOwn]
  dsimp only
  split
  next scope found =>
    have isAll := List.find?_some found
    obtain ⟨roleId, member, rfl⟩ := List.mem_map.mp (List.mem_of_find?_eq_some found)
    have allows : (roleScope db roleId).allows cameraId = true := by rw [EffectiveCameraScope.allows, isAll, Bool.true_or]
    exact ⟨fun _ => ⟨roleId, member, allows⟩, fun _ => allows⟩
  next notFound =>
    have notAll (roleId : Uuid) (member : roleId ∈ roleIds) : (roleScope db roleId).allCameras = false := by
      have := List.find?_eq_none.mp notFound _ (List.mem_map_of_mem member)
      rwa [Bool.not_eq_true] at this
    simp only [EffectiveCameraScope.allows, Bool.false_or, List.contains_iff_mem, List.mem_flatMap, List.mem_map,
      exists_exists_and_eq_and]
    refine exists_congr fun roleId => and_congr_right fun member => ?_
    rw [notAll roleId member, Bool.false_or, List.contains_iff_mem]

/-- A scope covers the same cameras wherever the groups are the same. -/
theorem covers_of_same {db db' : Database} {value : CameraScopeValue} {cameraId : Uuid}
    (groups : db'.cameraGroups = db.cameraGroups) (members : db'.cameraGroupMembers = db.cameraGroupMembers) :
    Covers db' value cameraId ↔ Covers db value cameraId := by
  unfold Covers groupEdges
  rw [groups, members]

/-! ## What setting a scope changes -/

section Changes

variable {db db' : Database} {principal other : Principal}

theorem mem_foldl_put {targets : List ScopeEntryTarget} {entries : Table PrincipalCameraScopeEntry}
    {entry : PrincipalCameraScopeEntry} :
    entry ∈ targets.foldl (fun entries target => entries.put { principal, target }) entries ↔
      entry ∈ entries ∨ (entry.principal = principal ∧ entry.target ∈ targets) := by
  induction targets generalizing entries with
  | nil => simp
  | cons target targets ih =>
    rw [List.foldl_cons, ih, Table.mem_put]
    obtain ⟨entryPrincipal, entryTarget⟩ := entry
    simp only [Keyed.key, id_eq, ne_eq, PrincipalCameraScopeEntry.mk.injEq, List.mem_cons]
    tauto

theorem mem_entriesOf {target : ScopeEntryTarget} :
    target ∈ entriesOf db principal ↔ { principal, target } ∈ db.principalCameraScopeEntries := by
  unfold entriesOf
  simp only [List.mem_map, Table.mem_select, decide_eq_true_eq]
  constructor
  · rintro ⟨⟨_, _⟩, ⟨member, rfl⟩, rfl⟩
    exact member
  · exact fun member => ⟨_, ⟨member, rfl⟩, rfl⟩

theorem mem_cameraIds_of_entries {targets : List ScopeEntryTarget} {id : Uuid} :
    id ∈ targets.filterMap ScopeEntryTarget.cameraId? ↔ .camera id ∈ targets := by
  rw [List.mem_filterMap]
  constructor
  · rintro ⟨target, member, isId⟩
    cases target with
    | camera other => exact Option.some.inj isId ▸ member
    | cameraGroup other => cases isId
  · exact fun member => ⟨_, member, rfl⟩

theorem mem_cameraGroupIds_of_entries {targets : List ScopeEntryTarget} {id : Uuid} :
    id ∈ targets.filterMap ScopeEntryTarget.cameraGroupId? ↔ .cameraGroup id ∈ targets := by
  rw [List.mem_filterMap]
  constructor
  · rintro ⟨target, member, isId⟩
    cases target with
    | camera other => cases isId
    | cameraGroup other => exact Option.some.inj isId ▸ member
  · exact fun member => ⟨_, member, rfl⟩

theorem mem_sortedIds {ids : List Uuid} {id : Uuid} : id ∈ sortedIds ids ↔ id ∈ ids := by
  unfold sortedIds
  exact List.mem_insertionSort _

theorem mem_scopeTargets_camera {mode : CameraScopeMode} {cameraIds cameraGroupIds : List Uuid} {id : Uuid} :
    .camera id ∈ scopeTargets mode cameraIds cameraGroupIds ↔ mode = .selected ∧ id ∈ cameraIds := by
  cases mode <;> simp [scopeTargets, mem_sortedIds]

theorem mem_scopeTargets_cameraGroup {mode : CameraScopeMode} {cameraIds cameraGroupIds : List Uuid} {id : Uuid} :
    .cameraGroup id ∈ scopeTargets mode cameraIds cameraGroupIds ↔ mode = .selected ∧ id ∈ cameraGroupIds := by
  cases mode <;> simp [scopeTargets, mem_sortedIds]

theorem mem_replaceEntries {targets : List ScopeEntryTarget} {entries : Table PrincipalCameraScopeEntry}
    {target : ScopeEntryTarget} :
    { principal, target } ∈ replaceEntries entries principal targets ↔ target ∈ targets := by
  unfold replaceEntries
  rw [mem_foldl_put, Table.mem_keep]
  simp

/-- The entries of the other principals stay, in their order. -/
theorem select_replaceEntries {targets : List ScopeEntryTarget} {entries : Table PrincipalCameraScopeEntry}
    (differs : other ≠ principal) :
    (replaceEntries entries principal targets).select (fun entry => entry.principal = other) =
      entries.select fun entry => entry.principal = other := by
  have start : (entries.keep (·.principal ≠ principal)).select (fun entry => entry.principal = other) =
      entries.select fun entry => entry.principal = other := by
    refine Table.select_keep fun entry _ isOther => ?_
    rw [decide_eq_true_eq] at isOther ⊢
    exact isOther ▸ differs
  unfold replaceEntries
  generalize entries.keep (·.principal ≠ principal) = kept at start ⊢
  induction targets generalizing kept with
  | nil => exact start
  | cons target targets ih =>
    refine ih (kept.put { principal, target }) ((Table.select_put fun entry same => ?_).trans start)
    have isNew : entry = { principal, target } := same
    rw [isNew, decide_eq_false_iff_not]
    exact differs.symm

/-- What setting the scope of a principal leaves: the value that was asked for, and everything else. -/
structure ScopeSet (db : Database) (principal : Principal) (mode : CameraScopeMode) (cameraIds cameraGroupIds : List Uuid)
    (db' : Database) : Prop where
  value : ∃ value, getScope db' principal = some value ∧ value.mode = mode ∧
    (∀ id, id ∈ value.cameraIds ↔ id ∈ cameraIds) ∧ ∀ id, id ∈ value.cameraGroupIds ↔ id ∈ cameraGroupIds
  others : ∀ other ≠ principal, getScope db' other = getScope db other
  roles : db'.roles = db.roles
  groups : db'.cameraGroups = db.cameraGroups
  members : db'.cameraGroupMembers = db.cameraGroupMembers

theorem get?_ensureScope (mode : CameraScopeMode) (other : Principal) :
    (ensureScope db principal mode).principalCameraScopes.get? other =
      if other = principal then some ((db.principalCameraScopes.get? principal).getD { principal, scopeMode := mode })
      else db.principalCameraScopes.get? other := by
  unfold ensureScope
  cases found : db.principalCameraScopes.get? principal with
  | some scope =>
    dsimp only [Option.getD_some]
    split
    next same => rw [same, found]
    next => rfl
  | none => exact Table.get?_put other

theorem ensureScope_same (mode : CameraScopeMode) :
    (ensureScope db principal mode).principalCameraScopeEntries = db.principalCameraScopeEntries ∧
      (ensureScope db principal mode).roles = db.roles ∧
      (ensureScope db principal mode).cameraGroups = db.cameraGroups ∧
      (ensureScope db principal mode).cameraGroupMembers = db.cameraGroupMembers := by
  unfold ensureScope
  split <;> exact ⟨rfl, rfl, rfl, rfl⟩

theorem setScope_spec {mode : String} {cameraIds cameraGroupIds : List Uuid}
    (done : setScope db principal mode cameraIds cameraGroupIds = .ok db') :
    ∃ scopeMode, CameraScopeMode.ofText? mode = some scopeMode ∧
      ScopeSet db principal scopeMode cameraIds cameraGroupIds db' := by
  unfold setScope at done
  split at done
  next => cases done
  next scopeMode isMode =>
    split at done
    next => cases done
    next entriesAllowed =>
    split at done
    next => cases done
    split at done
    next => cases done
    next =>
    cases done
    obtain ⟨sameEntries, sameRoles, sameGroups, sameMembers⟩ := @ensureScope_same db principal scopeMode
    refine ⟨scopeMode, isMode, ?_, fun other differs => ?_, sameRoles, sameGroups, sameMembers⟩
    · unfold getScope
      rw [Table.get?_modify, if_pos rfl, get?_ensureScope, if_pos rfl, Option.map_some, Option.map_some]
      have ifSelected (ids : List Uuid) (noneElse : scopeMode ≠ .selected → ids = []) (id : Uuid) :
          scopeMode = .selected ∧ id ∈ ids ↔ id ∈ ids := by
        refine and_iff_right_of_imp fun member => ?_
        by_contra notSelected
        rw [noneElse notSelected] at member
        cases member
      refine ⟨_, rfl, rfl, fun id => ?_, fun id => ?_⟩
      · rw [mem_sortedIds, mem_cameraIds_of_entries, mem_entriesOf, mem_replaceEntries, mem_scopeTargets_camera]
        exact ifSelected cameraIds (fun notSelected => by_contra fun some => entriesAllowed ⟨notSelected, .inl some⟩) id
      · rw [mem_sortedIds, mem_cameraGroupIds_of_entries, mem_entriesOf, mem_replaceEntries, mem_scopeTargets_cameraGroup]
        exact ifSelected cameraGroupIds (fun notSelected => by_contra fun some => entriesAllowed ⟨notSelected, .inr some⟩) id
    · unfold getScope entriesOf
      rw [Table.get?_modify, if_neg differs, get?_ensureScope, if_neg differs]
      dsimp only
      rw [select_replaceEntries differs, sameEntries]

end Changes

end CameraScopeService

end ZeroNvr
