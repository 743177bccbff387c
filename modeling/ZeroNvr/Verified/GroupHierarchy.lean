import ZeroNvr.Lib.Ancestry
import ZeroNvr.Lib.Run
import ZeroNvr.System.ImportCameraGroups

/-! # The hierarchy of camera groups

A group is put below another one only if it is none of its ancestors, whoever
puts it there, so that no group is ever above itself.
-/

namespace ZeroNvr.CameraGroupService

open Lib

/-- `parent_by_id`. -/
def parentById (db : Database) (groupId : Uuid) : Option Uuid := (db.cameraGroups.get? groupId).bind CameraGroup.parentId

/-- No group is above itself, and every parent exists. -/
structure Hierarchical (db : Database) : Prop where
  acyclic : Acyclic (parentById db)
  closed : ∀ group above, parentById db group = some above → (db.cameraGroups.get? above).isSome = true

theorem parentById_congr {db db' : Database} (same : db'.cameraGroups = db.cameraGroups) : parentById db' = parentById db := by
  funext group
  rw [parentById, parentById, same]

theorem Hierarchical.congr {db db' : Database} (hierarchical : Hierarchical db) (same : db'.cameraGroups = db.cameraGroups) :
    Hierarchical db' where
  acyclic := parentById_congr same ▸ hierarchical.acyclic
  closed group above isParent := by
    rw [same]
    exact hierarchical.closed group above (parentById_congr same ▸ isParent)

/-! ## Validation -/

/-- A walk that ends has not met the group. -/
theorem not_ancestor_of_walkParents {db : Database} {groupId : Uuid} (closed : Hierarchical db) {fuel : Nat}
    {seen : List Uuid} {current : CameraGroup} (walked : walkParents db (some groupId) fuel seen current = .ok ())
    (nodup : seen.Nodup) (rows : ∀ id ∈ seen, id ∈ db.cameraGroups.rows.map CameraGroup.id)
    (member : current ∈ db.cameraGroups) (enough : db.cameraGroups.rows.length + 1 ≤ fuel + seen.length) :
    ¬AncestorOrSelf (parentById db) current.id groupId := by
  induction fuel generalizing seen current with
  | zero =>
    have fits := (List.subperm_of_subset nodup rows).length_le
    rw [List.length_map] at fits
    omega
  | succ fuel ih =>
    rw [walkParents] at walked
    split at walked
    · cases walked
    next isNew =>
    split at walked
    · cases walked
    next notGroup =>
    have isRow : db.cameraGroups.get? current.id = some current := Table.get?_of_mem member
    have isParent : parentById db current.id = current.parentId := by rw [parentById, isRow, Option.bind_some]
    intro path
    rcases Relation.ReflTransGen.cases_head path with same | ⟨above, step, rest⟩
    · exact notGroup (congrArg some same.symm)
    have hasParent : current.parentId = some above := isParent.symm.trans step
    obtain ⟨parent, isAbove⟩ := Option.isSome_iff_exists.mp (closed.closed current.id above step)
    rw [hasParent, Option.bind_some, isAbove] at walked
    have isId : parent.id = above := Table.key_of_get? isAbove
    refine ih walked (List.nodup_cons.mpr ⟨isNew, nodup⟩) (fun id inSeen => ?_) (Table.mem_of_get? isAbove) ?_ (isId ▸ rest)
    · rcases List.mem_cons.mp inSeen with rfl | earlier
      · exact List.mem_map_of_mem member
      · exact rows id earlier
    · rw [List.length_cons]
      omega

theorem validateParent_spec {db : Database} {above : Uuid} {groupId : Option Uuid} (hierarchical : Hierarchical db)
    (valid : validateParent db (some above) groupId = .ok ()) :
    (db.cameraGroups.get? above).isSome = true ∧
      ∀ group, groupId = some group → ¬AncestorOrSelf (parentById db) above group := by
  rw [validateParent] at valid
  split at valid
  · cases valid
  split at valid
  · cases valid
  next parent isParent =>
  refine ⟨by rw [isParent]; rfl, ?_⟩
  rintro group rfl
  have isId : parent.id = above := Table.key_of_get? isParent
  exact isId ▸ not_ancestor_of_walkParents hierarchical valid List.nodup_nil (fun _ member => (by cases member))
    (Table.mem_of_get? isParent) (by simp)

/-! ## Changes -/

theorem replaceMembers_groups {db db' : Database} {groupId : Uuid} {cameraIds : List Uuid}
    (replaced : replaceMembers db groupId cameraIds = .ok db') : db'.cameraGroups = db.cameraGroups := by
  rw [replaceMembers] at replaced
  obtain ⟨normalized, _, stored⟩ := bind_eq_ok.mp replaced
  cases stored
  rfl

/-- A new group below an existing one. -/
theorem Hierarchical.create {uuid4 : Supply Uuid} {db db' : Database} {name : String} {description : Option String}
    {parentId : Option Uuid} {cameraIds : List Uuid} {group : CameraGroup} (hierarchical : Hierarchical db)
    (created : create uuid4 db name description parentId cameraIds = .ok (db', group)) : Hierarchical db' := by
  rw [CameraGroupService.create] at created
  split at created
  · cases created
  obtain ⟨⟨⟩, valid, created⟩ := bind_eq_ok.mp created
  split at created
  · cases created
  dsimp only at created
  split at created
  · cases created
  next cameraGroups inserted =>
  obtain ⟨stored, replaced, isResult⟩ := bind_eq_ok.mp created
  cases isResult
  refine @Hierarchical.congr { db with cameraGroups } _ ?_ (replaceMembers_groups replaced)
  have lookup (id : Uuid) : cameraGroups.get? id = if db.cameraGroups.newKey uuid4 = id
      then some { id := db.cameraGroups.newKey uuid4, name := strip name, description := cleanDescription description, parentId }
      else db.cameraGroups.get? id := Table.get?_insert? inserted id
  have isNew : db.cameraGroups.get? (db.cameraGroups.newKey uuid4) = none :=
    Table.get?_eq_none_iff.mpr fun row member => Table.newKey_fresh db.cameraGroups uuid4 member
  have parents (id : Uuid) : parentById { db with cameraGroups } id =
      if db.cameraGroups.newKey uuid4 = id then parentId else parentById db id := by
    rw [parentById, lookup]
    split
    · rw [Option.bind_some]
    · rw [parentById]
  have parentExists (above : Uuid) (isParent : parentId = some above) : (db.cameraGroups.get? above).isSome = true := by
    rw [isParent] at valid
    exact (validateParent_spec hierarchical valid).1
  have kept (id : Uuid) (isRow : (db.cameraGroups.get? id).isSome = true) : (cameraGroups.get? id).isSome = true := by
    obtain ⟨row, found⟩ := Option.isSome_iff_exists.mp isRow
    rw [Table.get?_insert?_of_get? inserted found]
    rfl
  refine ⟨@acyclic_update _ _ _ _ (db.cameraGroups.newKey uuid4) hierarchical.acyclic (fun id isOther => ?_)
    fun above isParent path => ?_, fun id above isParent => ?_⟩
  · rw [parents, if_neg (Ne.symm isOther)]
  · -- nothing leads to an id that is new
    rw [parents, if_pos rfl] at isParent
    rcases Relation.ReflTransGen.cases_tail path with same | ⟨last, _, step⟩
    · have isRow := parentExists above isParent
      rw [← same, isNew] at isRow
      cases isRow
    · have isRow := hierarchical.closed last _ step
      rw [isNew] at isRow
      cases isRow
  · rw [parents] at isParent
    split at isParent
    · exact kept above (parentExists above isParent)
    · exact kept above (hierarchical.closed id above isParent)

/-- A group that stays where it is, or goes below one that it is not above. -/
theorem Hierarchical.update {db db' : Database} {group : CameraGroup} {changes : CameraGroupChanges}
    (hierarchical : Hierarchical db) (isRow : db.cameraGroups.get? group.id = some group)
    (updated : update db group changes = .ok db') : Hierarchical db' := by
  rw [CameraGroupService.update] at updated
  obtain ⟨renamed, isRenamed, updated⟩ := bind_eq_ok.mp updated
  obtain ⟨moved, isMoved, updated⟩ := bind_eq_ok.mp updated
  have renamedSame : renamed.id = group.id ∧ renamed.parentId = group.parentId := by
    rw [changedName] at isRenamed
    split at isRenamed
    · cases isRenamed
      exact ⟨rfl, rfl⟩
    · split at isRenamed
      · cases isRenamed
      · cases isRenamed
        exact ⟨rfl, rfl⟩
  have movedParent : moved.parentId = group.parentId ∨ ∀ above, moved.parentId = some above →
      (db.cameraGroups.get? above).isSome = true ∧ ¬AncestorOrSelf (parentById db) above group.id := by
    rw [changedParent] at isMoved
    split at isMoved
    · cases isMoved
      exact .inl renamedSame.2
    · next parentId _ =>
      obtain ⟨⟨⟩, valid, isMoved⟩ := bind_eq_ok.mp isMoved
      cases isMoved
      refine .inr fun above isParent => ?_
      dsimp only at isParent
      subst isParent
      obtain ⟨parentExists, notAncestor⟩ := validateParent_spec hierarchical valid
      exact ⟨parentExists, notAncestor group.id (congrArg some renamedSame.1)⟩
  split at updated
  · cases updated
  have stored : Hierarchical { db with cameraGroups := db.cameraGroups.put { moved with id := group.id } } := by
    have lookup (id : Uuid) : (db.cameraGroups.put { moved with id := group.id }).get? id =
        if id = group.id then some { moved with id := group.id } else db.cameraGroups.get? id := Table.get?_put id
    have parents (id : Uuid) : parentById { db with cameraGroups := db.cameraGroups.put { moved with id := group.id } } id =
        if id = group.id then moved.parentId else parentById db id := by
      rw [parentById, lookup]
      split
      · rw [Option.bind_some]
      · rw [parentById]
    have kept (id : Uuid) (known : (db.cameraGroups.get? id).isSome = true) :
        ((db.cameraGroups.put { moved with id := group.id }).get? id).isSome = true := by
      rw [lookup]
      split
      · rfl
      · exact known
    have groupParent : parentById db group.id = group.parentId := by rw [parentById, isRow, Option.bind_some]
    rcases movedParent with same | checked
    · have unmoved : parentById { db with cameraGroups := db.cameraGroups.put { moved with id := group.id } } =
          parentById db := by
        funext id
        rw [parents]
        split
        · next isGroup => rw [isGroup, groupParent, same]
        · rfl
      exact ⟨unmoved ▸ hierarchical.acyclic,
        fun id above isParent => kept above (hierarchical.closed id above (unmoved ▸ isParent))⟩
    · refine ⟨@acyclic_update _ _ _ _ group.id hierarchical.acyclic (fun id isOther => ?_) fun above isParent => ?_,
        fun id above isParent => ?_⟩
      · rw [parents, if_neg isOther]
      · rw [parents, if_pos rfl] at isParent
        exact (checked above isParent).2
      · rw [parents] at isParent
        split at isParent
        · exact kept above (checked above isParent).1
        · exact kept above (hierarchical.closed id above isParent)
  split at updated
  · cases updated
    exact stored
  · exact stored.congr (replaceMembers_groups updated)

/-- A group without children may go. -/
theorem Hierarchical.delete {db db' : Database} {group : CameraGroup} (hierarchical : Hierarchical db)
    (deleted : delete db group = .ok db') : Hierarchical db' := by
  rw [CameraGroupService.delete] at deleted
  split at deleted
  · cases deleted
  next noChild =>
  split at deleted
  · cases deleted
  cases deleted
  have fewer (id above : Uuid)
      (isParent : (((db.cameraGroups.remove group.id).get? id).bind CameraGroup.parentId) = some above) :
      parentById db id = some above := by
    rw [Table.get?_remove] at isParent
    split at isParent
    · cases isParent
    · exact isParent
  refine ⟨hierarchical.acyclic.mono fewer, fun id above isParent => ?_⟩
  have isParent := fewer id above isParent
  dsimp only
  rw [Table.get?_remove]
  split
  · next isGroup =>
    obtain ⟨child, isChild, hasParent⟩ := Option.bind_eq_some_iff.mp isParent
    refine absurd (List.any_eq_true.mpr ⟨child, Table.mem_of_get? isChild, decide_eq_true ?_⟩) noChild
    rw [hasParent, isGroup]
  · exact hierarchical.closed id above isParent

/-! ## Imports -/

open ConfigurationImportService in
theorem Hierarchical.upsert {env : ImportEnv} {uuid4 : Supply Uuid} {db : Database} {item : Dict}
    {targetParent : Option Uuid} {targetCameras : List Uuid} {result : Database × Uuid × String}
    (hierarchical : Hierarchical db)
    (upserted : upsertCameraGroup env uuid4 db item targetParent targetCameras = .ok result) : Hierarchical result.1 := by
  rw [upsertCameraGroup] at upserted
  obtain ⟨source, _, upserted⟩ := bind_eq_ok.mp upserted
  obtain ⟨name, _, upserted⟩ := bind_eq_ok.mp upserted
  dsimp only at upserted
  split at upserted
  · obtain ⟨⟨stored, group⟩, created, isResult⟩ := bind_eq_ok.mp upserted
    cases isResult
    exact hierarchical.create created
  · next group isExisting =>
    obtain ⟨stored, updated, isResult⟩ := bind_eq_ok.mp upserted
    cases isResult
    have isRow : group ∈ db.cameraGroups := by
      rw [existingGroup, Option.or_eq_some_iff] at isExisting
      rcases isExisting with found | ⟨_, found⟩
      · exact Table.mem_of_get? found
      · exact (Table.mem_of_first? found).1
    exact hierarchical.update (Table.get?_of_mem isRow) updated

open ConfigurationImportService in
theorem Hierarchical.importGroups {env : ImportEnv} {uuid4 : Supply Uuid} {state state' : GroupState} {groups members : List Dict}
    {cameraMap : List (String × Uuid)} (hierarchical : Hierarchical state.db)
    (applied : applyCameraGroups env uuid4 state groups members cameraMap = .ok state') : Hierarchical state'.db := by
  rw [applyCameraGroups] at applied
  obtain ⟨members, _, applied⟩ := bind_eq_ok.mp applied
  obtain ⟨⟨last, pending⟩, passed, isResult⟩ := bind_eq_ok.mp applied
  cases isResult
  have onePass {acc acc' : GroupState × List Dict} {item : Dict} (kept : Hierarchical acc.1.db)
      (passed : applyCameraGroup env uuid4 cameraMap members acc item = .ok acc') : Hierarchical acc'.1.db := by
    rw [applyCameraGroup] at passed
    obtain ⟨sourceId, _, passed⟩ := bind_eq_ok.mp passed
    dsimp only at passed
    split at passed
    · obtain ⟨⟨db, target, action⟩, upserted, isResult⟩ := bind_eq_ok.mp passed
      cases isResult
      exact kept.upsert upserted
    · cases passed
      exact kept
  have passes {count : Nat} {state last : GroupState} {waiting pending : List Dict} (kept : Hierarchical state.db)
      (passed : applyPasses env uuid4 cameraMap members count state waiting = .ok (last, pending)) : Hierarchical last.db := by
    induction count generalizing state waiting with
    | zero =>
      cases passed
      exact kept
    | succ count ih =>
      rw [applyPasses] at passed
      obtain ⟨⟨next, remaining⟩, folded, passed⟩ := bind_eq_ok.mp passed
      have nextKept : Hierarchical next.db :=
        @foldlM_invariant _ _ _ _ (fun acc : GroupState × List Dict => Hierarchical acc.1.db) waiting
          (fun _ _ _ _ kept step => onePass kept step) _ _ kept folded
      dsimp only at passed
      split at passed
      · exact ih nextKept passed
      · cases passed
        exact nextKept
  have kept : Hierarchical last.db := passes hierarchical passed
  exact kept

/-! ## Runs -/

inductive GroupChange where
  | create | update | delete | importGroups | other

/-- What a committed change does to the database; a refused one is rolled back. -/
inductive GroupStep : Database → GroupChange → Database → Prop
  | create {db db' : Database} (uuid4 : Supply Uuid) (name : String) (description : Option String)
      (parentId : Option Uuid) (cameraIds : List Uuid) (group : CameraGroup)
      (created : create uuid4 db name description parentId cameraIds = .ok (db', group)) : GroupStep db .create db'
  | update {db db' : Database} (group : CameraGroup) (changes : CameraGroupChanges)
      (isRow : db.cameraGroups.get? group.id = some group) (updated : update db group changes = .ok db') :
    GroupStep db .update db'
  | delete {db db' : Database} (group : CameraGroup) (isRow : db.cameraGroups.get? group.id = some group)
      (deleted : delete db group = .ok db') : GroupStep db .delete db'
  | importGroups (env : ImportEnv) (uuid4 : Supply Uuid)
      (state state' : ConfigurationImportService.GroupState) (groups members : List Dict) (cameraMap : List (String × Uuid))
      (applied : ConfigurationImportService.applyCameraGroups env uuid4 state groups members cameraMap = .ok state') :
    GroupStep state.db .importGroups state'.db
  | other {db db' : Database} (same : db'.cameraGroups = db.cameraGroups) : GroupStep db .other db'

theorem Hierarchical.step {db db' : Database} {change : GroupChange} (hierarchical : Hierarchical db)
    (step : GroupStep db change db') : Hierarchical db' := by
  cases step with
  | create uuid4 name description parentId cameraIds group created => exact hierarchical.create created
  | update group changes isRow updated => exact hierarchical.update isRow updated
  | delete group isRow deleted => exact hierarchical.delete deleted
  | importGroups env uuid4 state state' groups members cameraMap applied => exact hierarchical.importGroups applied
  | other same => exact hierarchical.congr same

theorem Hierarchical.run {db db' : Database} {changes : List GroupChange} (hierarchical : Hierarchical db)
    (run : Run GroupStep db changes db') : Hierarchical db' :=
  @Run.invariant _ _ _ Hierarchical (fun _ _ _ kept step => kept.step step) _ _ _ run hierarchical

/-- Without groups there is no cycle. -/
theorem hierarchical_of_empty {db : Database} (noGroups : db.cameraGroups = Table.empty) : Hierarchical db := by
  have noParent (id : Uuid) : parentById db id = none := by
    rw [parentById, noGroups]
    rfl
  refine ⟨fun node cycle => ?_, fun group above isParent => ?_⟩
  · obtain ⟨above, step, _⟩ := Relation.TransGen.head'_iff.mp cycle
    rw [ParentOf, noParent] at step
    cases step
  · rw [noParent] at isParent
    cases isParent

end ZeroNvr.CameraGroupService
