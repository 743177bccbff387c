import ZeroNvr.System.ExportAccess
import ZeroNvr.Verified.GroupHierarchy

/-! # Merging the camera groups of a bundle

Groups are matched by id or by name.  An installation that takes the groups of
another one in has them afterwards as they were there, with the same parents and
the images of the same cameras.
-/

namespace ZeroNvr.CameraGroupService

open Lib ConfigurationImportService

/-! ## Sound groups -/

/-- What the service keeps of the groups: a hierarchy, with names that are clean and unique. -/
structure GroupsSound (db : Database) : Prop where
  hierarchical : Hierarchical db
  names : ∀ group ∈ db.cameraGroups, ∀ other ∈ db.cameraGroups, group.name = other.name → group = other
  clean : ∀ group ∈ db.cameraGroups, strip group.name = group.name ∧ group.name ≠ "" ∧
    cleanDescription group.description = group.description

/-- A group is stored with its cameras, and nothing else is changed. -/
structure GroupStored (db : Database) (group : CameraGroup) (cameraIds : List Uuid) (db' : Database) : Prop where
  groups : ∀ row, row ∈ db'.cameraGroups ↔ row = group ∨ (row ∈ db.cameraGroups ∧ row.id ≠ group.id)
  members : ∀ member, member ∈ db'.cameraGroupMembers ↔
    (member.cameraGroupId = group.id ∧ member.cameraId ∈ cameraIds) ∨
      (member.cameraGroupId ≠ group.id ∧ member ∈ db.cameraGroupMembers)
  rest : db' = { db with cameraGroups := db'.cameraGroups, cameraGroupMembers := db'.cameraGroupMembers }

theorem parentById_of_mem {db : Database} {group : CameraGroup} (member : group ∈ db.cameraGroups) :
    parentById db group.id = group.parentId := by
  rw [parentById, show db.cameraGroups.get? group.id = some group from Table.get?_of_mem member, Option.bind_some]

/-- A parent is a group. -/
theorem GroupsSound.exists_parent {db : Database} (sound : GroupsSound db) {group : CameraGroup}
    (member : group ∈ db.cameraGroups) {above : Uuid} (isParent : group.parentId = some above) :
    ∃ parent ∈ db.cameraGroups, parent.id = above := by
  have known := sound.hierarchical.closed group.id above ((parentById_of_mem member).trans isParent)
  obtain ⟨parent, found⟩ := Option.isSome_iff_exists.mp known
  obtain ⟨isRow, isId⟩ := Table.get?_eq_some_iff.mp found
  exact ⟨parent, isRow, isId⟩

section GroupStored

variable {db db' : Database} {group : CameraGroup} {cameraIds : List Uuid}

theorem GroupStored.get? (stored : GroupStored db group cameraIds db') (id : Uuid) :
    db'.cameraGroups.get? id = if id = group.id then some group else db.cameraGroups.get? id := by
  split
  · next same => exact Table.get?_eq_some_iff.mpr ⟨(stored.groups group).mpr (.inl rfl), same.symm⟩
  · next differs =>
    cases found : db.cameraGroups.get? id with
    | some row =>
      obtain ⟨member, isId⟩ := Table.get?_eq_some_iff.mp found
      have isOther : row.id ≠ group.id := fun same => differs (isId.symm.trans same)
      exact Table.get?_eq_some_iff.mpr ⟨(stored.groups row).mpr (.inr ⟨member, isOther⟩), isId⟩
    | none =>
      refine Table.get?_eq_none_iff.mpr fun row member isId => ?_
      rcases (stored.groups row).mp member with rfl | ⟨old, _⟩
      · exact differs isId.symm
      · exact Table.get?_eq_none_iff.mp found row old isId

theorem GroupStored.parentById (stored : GroupStored db group cameraIds db') (id : Uuid) :
    parentById db' id = if id = group.id then group.parentId else CameraGroupService.parentById db id := by
  rw [CameraGroupService.parentById, stored.get?]
  split
  · rfl
  · rfl

/-- The names stay unique when no other group has the one that is stored. -/
theorem GroupsSound.stored (sound : GroupsSound db) (stored : GroupStored db group cameraIds db')
    (hierarchical : Hierarchical db') (unused : ∀ other ∈ db.cameraGroups, other.name = group.name → other.id = group.id)
    (clean : strip group.name = group.name ∧ group.name ≠ "" ∧ cleanDescription group.description = group.description) :
    GroupsSound db' where
  hierarchical := hierarchical
  names row member other otherMember same := by
    rcases (stored.groups row).mp member with rfl | ⟨old, isOther⟩
    · rcases (stored.groups other).mp otherMember with rfl | ⟨otherOld, differs⟩
      · rfl
      · exact absurd (unused other otherOld same.symm) differs
    · rcases (stored.groups other).mp otherMember with rfl | ⟨otherOld, differs⟩
      · exact absurd (unused row old same) isOther
      · exact sound.names row old other otherOld same
  clean row member := by
    rcases (stored.groups row).mp member with rfl | ⟨old, _⟩
    · exact clean
    · exact sound.clean row old

end GroupStored

/-! ## Changes that succeed -/

/-- In a hierarchy no walk up comes back, so only the group itself can stop it. -/
theorem walkParents_ok {db : Database} (hierarchical : Hierarchical db) {groupId : Option Uuid} {fuel : Nat} {seen : List Uuid}
    {current : CameraGroup} (member : current ∈ db.cameraGroups)
    (below : ∀ id ∈ seen, Relation.TransGen (ParentOf (parentById db)) id current.id)
    (notAncestor : ∀ id, groupId = some id → ¬AncestorOrSelf (parentById db) current.id id) :
    walkParents db groupId fuel seen current = .ok () := by
  induction fuel generalizing seen current with
  | zero => rfl
  | succ fuel ih =>
    have isNew : current.id ∉ seen := fun inSeen => hierarchical.acyclic current.id (below current.id inSeen)
    have isOther : groupId ≠ some current.id := fun same => notAncestor current.id same .refl
    have isRow : db.cameraGroups.get? current.id = some current := Table.get?_of_mem member
    rw [walkParents, if_neg isNew, if_neg isOther]
    split
    · rfl
    · next parent isParent =>
      have step : ParentOf (parentById db) current.id parent.id := by
        obtain ⟨above, hasParent, found⟩ := Option.bind_eq_some_iff.mp isParent
        have isId : parent.id = above := Table.key_of_get? found
        rw [ParentOf, parentById, isRow, Option.bind_some, hasParent, isId]
      obtain ⟨above, _, found⟩ := Option.bind_eq_some_iff.mp isParent
      apply ih (Table.mem_of_get? found)
      · intro id inSeen
        rcases List.mem_cons.mp inSeen with rfl | earlier
        · exact .single step
        · exact (below id earlier).tail step
      · exact fun id isGroup path => notAncestor id isGroup (.head step path)

theorem validateParent_ok {db : Database} (hierarchical : Hierarchical db) {parentId groupId : Option Uuid}
    (known : ∀ above, parentId = some above → (db.cameraGroups.get? above).isSome = true)
    (notAncestor : ∀ above, parentId = some above → ∀ id, groupId = some id → ¬AncestorOrSelf (parentById db) above id) :
    validateParent db parentId groupId = .ok () := by
  cases parentId with
  | none => rfl
  | some above =>
    obtain ⟨parent, found⟩ := Option.isSome_iff_exists.mp (known above rfl)
    have isId : parent.id = above := Table.key_of_get? found
    have notSelf : groupId ≠ some above := fun same => notAncestor above rfl above same .refl
    rw [validateParent, if_neg notSelf, found]
    apply walkParents_ok hierarchical (Table.mem_of_get? found)
    · exact fun _ inNil => absurd inNil List.not_mem_nil
    · exact fun id isGroup => isId ▸ notAncestor above rfl id isGroup

theorem replaceMembers_ok {db : Database} (groupId : Uuid) {cameraIds : List Uuid}
    (known : ∀ id ∈ cameraIds, (db.cameras.get? id).isSome = true) :
    ∃ db', replaceMembers db groupId cameraIds = .ok db' ∧ db' = { db with cameraGroupMembers := db'.cameraGroupMembers } ∧
      ∀ member, member ∈ db'.cameraGroupMembers ↔ (member.cameraGroupId = groupId ∧ member.cameraId ∈ cameraIds) ∨
        (member.cameraGroupId ≠ groupId ∧ member ∈ db.cameraGroupMembers) := by
  have mem_foldl (ids : List Uuid) (members : Table CameraGroupMember) (member : CameraGroupMember) :
      member ∈ ids.foldl (fun members cameraId => members.put { cameraGroupId := groupId, cameraId }) members ↔
        (member.cameraGroupId = groupId ∧ member.cameraId ∈ ids) ∨ member ∈ members := by
    induction ids generalizing members with
    | nil => simp
    | cons id ids ih =>
      obtain ⟨memberGroup, memberCamera⟩ := member
      rw [List.foldl_cons, ih, Table.mem_put]
      simp only [Keyed.key, id_eq, ne_eq, CameraGroupMember.mk.injEq, List.mem_cons]
      tauto
  have sorted (id : Uuid) : id ∈ cameraIds.dedup.insertionSort (fun left right => left ≤ right) ↔ id ∈ cameraIds := by
    rw [List.mem_insertionSort, List.mem_dedup]
  have valid : ¬((cameraIds.dedup.insertionSort fun left right => left ≤ right).any fun id =>
      (db.cameras.get? id).isNone) = true := by
    rw [List.any_eq_true]
    rintro ⟨id, member, isNone⟩
    have isSome := known id ((sorted id).mp member)
    rw [Option.isNone_iff_eq_none.mp isNone] at isSome
    cases isSome
  rw [replaceMembers, validateCameraIds, if_neg valid]
  refine ⟨_, rfl, rfl, fun member => ?_⟩
  dsimp only
  rw [mem_foldl, sorted, Table.mem_keep, decide_eq_true_eq]
  exact or_congr Iff.rfl and_comm

section Changes

variable {db : Database} {name : String} {description : Option String} {parentId : Option Uuid} {cameraIds : List Uuid}

theorem create_ok (uuid4 : Supply Uuid) (sound : GroupsSound db) (isClean : strip name = name) (nonempty : name ≠ "")
    (described : cleanDescription description = description)
    (known : ∀ above, parentId = some above → (db.cameraGroups.get? above).isSome = true)
    (unused : ∀ other ∈ db.cameraGroups, other.name ≠ name) (cameras : ∀ id ∈ cameraIds, (db.cameras.get? id).isSome = true) :
    ∃ db', create uuid4 db name description parentId cameraIds =
        .ok (db', { id := db.cameraGroups.newKey uuid4, name, description, parentId }) ∧
      GroupStored db { id := db.cameraGroups.newKey uuid4, name, description, parentId } cameraIds db' := by
  have noConflict : ¬(db.cameraGroups.rows.any fun other => other.name = name) = true := by
    rw [List.any_eq_true]
    rintro ⟨other, member, same⟩
    exact unused other member (of_decide_eq_true same)
  have valid : validateParent db parentId none = .ok () :=
    validateParent_ok sound.hierarchical known fun _ _ _ isNone => by cases isNone
  rw [create, isClean, if_neg nonempty, valid, described]
  dsimp only [bind, Except.bind]
  rw [if_neg noConflict]
  have isFresh (row : CameraGroup) (member : row ∈ db.cameraGroups) : row.id ≠ db.cameraGroups.newKey uuid4 :=
    Table.newKey_fresh db.cameraGroups uuid4 member
  cases inserted : db.cameraGroups.insert? { id := db.cameraGroups.newKey uuid4, name, description, parentId } with
  | none =>
    obtain ⟨row, member, same⟩ := Table.insert?_eq_none inserted
    exact absurd same (isFresh row member)
  | some cameraGroups =>
    obtain ⟨db', replaced, rest, members⟩ :=
      @replaceMembers_ok { db with cameraGroups } (db.cameraGroups.newKey uuid4) cameraIds cameras
    dsimp only
    rw [replaced]
    refine ⟨db', rfl, fun row => ?_, members, ?_⟩
    · rw [rest]
      refine (Table.mem_insert? inserted).trans ⟨?_, ?_⟩
      · rintro (member | isNew)
        · exact .inr ⟨member, isFresh row member⟩
        · exact .inl isNew
      · rintro (isNew | ⟨member, _⟩)
        · exact .inr isNew
        · exact .inl member
    · rw [rest]

theorem update_ok {group : CameraGroup} (sound : GroupsSound db) (isClean : strip name = name) (nonempty : name ≠ "")
    (described : cleanDescription description = description)
    (known : ∀ above, parentId = some above → (db.cameraGroups.get? above).isSome = true)
    (notAncestor : ∀ above, parentId = some above → ¬AncestorOrSelf (parentById db) above group.id)
    (unused : ∀ other ∈ db.cameraGroups, other.name = name → other.id = group.id)
    (cameras : ∀ id ∈ cameraIds, (db.cameras.get? id).isSome = true) :
    ∃ db', update db group
        { name := some name, description := some description, parentId := some parentId, cameraIds := some cameraIds } =
          .ok db' ∧
      GroupStored db { id := group.id, name, description, parentId } cameraIds db' := by
  have noConflict : ¬(db.cameraGroups.rows.any fun other => other.name = name ∧ other.id ≠ group.id) = true := by
    rw [List.any_eq_true]
    rintro ⟨other, member, clash⟩
    obtain ⟨same, differs⟩ := of_decide_eq_true clash
    exact differs (unused other member same)
  have valid : validateParent db parentId (some group.id) = .ok () :=
    validateParent_ok sound.hierarchical known fun above isParent id isGroup =>
      Option.some.inj isGroup ▸ notAncestor above isParent
  have renamed : changedName group { name := some name, description := some description, parentId := some parentId,
                                     cameraIds := some cameraIds } = .ok { group with name } := by
    rw [changedName]
    dsimp only
    rw [isClean, if_neg nonempty]
  rw [update, renamed]
  dsimp only [bind, Except.bind, changedParent, Option.map_some, Option.getD_some]
  rw [valid, described]
  dsimp only
  rw [if_neg noConflict]
  obtain ⟨db', replaced, rest, members⟩ := @replaceMembers_ok
    { db with cameraGroups := db.cameraGroups.put { id := group.id, name, description, parentId } } group.id cameraIds cameras
  refine ⟨db', replaced, fun row => ?_, members, ?_⟩
  · rw [rest]
    exact Table.mem_put
  · rw [rest]

end Changes

end ZeroNvr.CameraGroupService

namespace ZeroNvr.ConfigurationImportService

open Lib CameraGroupService ConfigurationExportService

section Merge

variable {env : ImportEnv} {uuid4 : Supply Uuid}

/-- The text of an id is read back as the id. -/
def Readable (env : ImportEnv) (id : Uuid) : Prop := env.parseUuid (env.uuidText id) = some id

theorem Readable.eq {id other : Uuid} (readable : Readable env id) (otherReadable : Readable env other)
    (same : env.uuidText id = env.uuidText other) : id = other := by
  have parsed : some id = some other := by rw [← readable, ← otherReadable, same]
  exact Option.some.inj parsed

/-! ## One group -/

/-- An exported group is stored over the group of its name, or else as a new one. -/
theorem upsertCameraGroup_ok (uuid4 : Supply Uuid) {db : Database} {group : CameraGroup} {parent : Option Uuid}
    {cameraIds : List Uuid} (sound : GroupsSound db)
    (clean : strip group.name = group.name ∧ group.name ≠ "" ∧ cleanDescription group.description = group.description)
    (readable : Readable env group.id) (named : ∀ row ∈ db.cameraGroups, row.id = group.id → row.name = group.name)
    (known : ∀ above, parent = some above → (db.cameraGroups.get? above).isSome = true)
    (notAncestor : ∀ row ∈ db.cameraGroups, row.name = group.name →
      ∀ above, parent = some above → ¬AncestorOrSelf (parentById db) above row.id)
    (cameras : ∀ id ∈ cameraIds, (db.cameras.get? id).isSome = true) :
    ∃ db' target action, upsertCameraGroup env uuid4 db (cameraGroup env group) parent cameraIds = .ok (db', target, action) ∧
      GroupStored db { id := target, name := group.name, description := group.description, parentId := parent } cameraIds db' ∧
      GroupsSound db' ∧
      ((∃ row ∈ db.cameraGroups, row.id = target ∧ row.name = group.name) ∨
        (target = db.cameraGroups.newKey uuid4 ∧ ∀ row ∈ db.cameraGroups, row.name ≠ group.name)) := by
  obtain ⟨isClean, nonempty, described⟩ := clean
  have isSource : sourceUuid env (cameraGroup env group) = .ok group.id := by
    have isText : env.text ((Dict.get (cameraGroup env group) "id").getD .null) = env.uuidText group.id := rfl
    rw [sourceUuid, isText, readable]
  have isName : field (cameraGroup env group) "name" = .ok (.str group.name) := rfl
  have isDescription : env.optionalText (Dict.get (cameraGroup env group) "description") = group.description :=
    optionalText_optional group.description
  -- the group with the id of the item has its name as well, so the name decides
  have existing (row : CameraGroup) (found : existingGroup db group.id group.name = some row) :
      row ∈ db.cameraGroups ∧ row.name = group.name := by
    rcases Option.or_eq_some_iff.mp found with byId | ⟨_, found⟩
    · obtain ⟨member, isId⟩ := Table.get?_eq_some_iff.mp byId
      exact ⟨member, named row member isId⟩
    · obtain ⟨member, sameName⟩ := Table.mem_of_first? found
      exact ⟨member, of_decide_eq_true sameName⟩
  cases found : existingGroup db group.id group.name with
  | none =>
    have unused (row : CameraGroup) (member : row ∈ db.cameraGroups) : row.name ≠ group.name := fun same => by
      obtain ⟨-, noName⟩ := Option.or_eq_none_iff.mp found
      have differs := Table.first?_eq_none_iff.mp noName row member
      exact absurd same (of_decide_eq_false differs)
    obtain ⟨db', created, stored⟩ := create_ok uuid4 sound isClean nonempty described known unused cameras
    have upserted : upsertCameraGroup env uuid4 db (cameraGroup env group) parent cameraIds =
        .ok (db', db.cameraGroups.newKey uuid4, "created") := by
      rw [upsertCameraGroup, isSource, isName]
      dsimp only [bind, Except.bind, ImportEnv.text]
      rw [isDescription, found]
      dsimp only
      rw [created]
    refine ⟨db', _, _, upserted, stored, ?_, .inr ⟨rfl, unused⟩⟩
    exact sound.stored stored (sound.hierarchical.upsert upserted) (fun row member same => absurd same (unused row member))
      ⟨isClean, nonempty, described⟩
  | some row =>
    obtain ⟨member, sameName⟩ := existing row found
    have unused (other : CameraGroup) (otherMember : other ∈ db.cameraGroups) (same : other.name = group.name) :
        other.id = row.id := congrArg _ (sound.names other otherMember row member (same.trans sameName.symm))
    obtain ⟨db', updated, stored⟩ :=
      update_ok sound isClean nonempty described known (notAncestor row member sameName) unused cameras
    have upserted : upsertCameraGroup env uuid4 db (cameraGroup env group) parent cameraIds =
        .ok (db', row.id, "updated") := by
      rw [upsertCameraGroup, isSource, isName]
      dsimp only [bind, Except.bind, ImportEnv.text]
      rw [isDescription, found]
      dsimp only
      rw [updated]
    refine ⟨db', _, _, upserted, stored, ?_, .inl ⟨row, member, rfl, sameName⟩⟩
    exact sound.stored stored (sound.hierarchical.upsert upserted) unused ⟨isClean, nonempty, described⟩

theorem lookup_assign (map : List (String × Uuid)) (key : String) (value : Uuid) (other : String) :
    (assign map key value).lookup other = if other = key then some value else map.lookup other := by
  rw [assign, List.lookup_cons]
  by_cases same : other = key
  · rw [if_pos same, beq_iff_eq.mpr same]
  · rw [if_neg same, beq_eq_false_iff_ne.mpr same]
    dsimp only
    induction map with
    | nil => rfl
    | cons entry map ih =>
      by_cases isKey : entry.1 = key
      · have notOther : (other == entry.1) = false := beq_eq_false_iff_ne.mpr fun isOther => same (isOther.trans isKey)
        rw [List.filter_cons_of_neg (by simpa using isKey), ih, List.lookup_cons, notOther]
      · rw [List.filter_cons_of_pos (by simpa using isKey), List.lookup_cons, List.lookup_cons, ih]

/-! ## What an import may rely on -/

/-- The cameras of the source are mapped to cameras of the target, its groups can be told apart from those
    of the target by their names, and a new id is none of the source. -/
structure Receives (env : ImportEnv) (uuid4 : Supply Uuid) (source target : Database) (cameraMap : List (String × Uuid)) :
    Prop where
  sent : GroupsSound source
  members : ∀ member ∈ source.cameraGroupMembers, (source.cameraGroups.get? member.cameraGroupId).isSome = true ∧
    (source.cameras.get? member.cameraId).isSome = true
  received : GroupsSound target
  readable : ∀ group ∈ source.cameraGroups, Readable env group.id
  cameras : ∀ camera ∈ source.cameras, ∃ image, cameraMap.lookup (env.uuidText camera.id) = some image ∧
    (target.cameras.get? image).isSome = true
  named : ∀ row ∈ target.cameraGroups, ∀ group ∈ source.cameraGroups, row.id = group.id → row.name = group.name
  fresh : ∀ used, ∀ group ∈ source.cameraGroups, uuid4.next used ≠ group.id

variable {source target : Database} {cameraMap : List (String × Uuid)} {members : List (String × String)}

/-- The camera is the image of a member of the group. -/
def MemberImage (env : ImportEnv) (source : Database) (cameraMap : List (String × Uuid)) (groupId camera : Uuid) : Prop :=
  ∃ cameraId, { cameraGroupId := groupId, cameraId } ∈ source.cameraGroupMembers ∧
    cameraMap.lookup (env.uuidText cameraId) = some camera

/-- The cameras of each group of the source, as the `member_map` gives them. -/
def MembersMapped (env : ImportEnv) (source target : Database) (cameraMap : List (String × Uuid))
    (members : List (String × String)) : Prop :=
  ∀ group ∈ source.cameraGroups, ∃ ids,
    ((members.filter fun entry => entry.1 = env.uuidText group.id).mapM fun entry => cameraMap.lookup entry.2) = some ids ∧
      (∀ id, id ∈ ids ↔ MemberImage env source cameraMap group.id id) ∧ ∀ id ∈ ids, (target.cameras.get? id).isSome = true

theorem memberMap_export (env : ImportEnv) (rows : List CameraGroupMember) :
    memberMap env (rows.map (cameraGroupMember env)) =
      .ok (rows.map fun member => (env.uuidText member.cameraGroupId, env.uuidText member.cameraId)) := by
  induction rows with
  | nil => rfl
  | cons member rows ih =>
    rw [memberMap] at ih ⊢
    rw [List.map_cons, List.mapM_cons, ih]
    rfl

theorem Receives.memberMap (receives : Receives env uuid4 source target cameraMap) :
    ∃ members, memberMap env (cameraGroupMembers env source) = .ok members ∧
      MembersMapped env source target cameraMap members := by
  refine ⟨_, memberMap_export env _, fun group isGroup => ?_⟩
  generalize isRows : byGroup source.cameraGroupMembers.rows = rows
  have inRows (member : CameraGroupMember) : member ∈ rows ↔ member ∈ source.cameraGroupMembers := isRows ▸ mem_byGroup
  have ofGroup (member : CameraGroupMember) (isMember : member ∈ source.cameraGroupMembers) :
      env.uuidText member.cameraGroupId = env.uuidText group.id ↔ member.cameraGroupId = group.id := by
    obtain ⟨known, -⟩ := receives.members member isMember
    obtain ⟨row, found⟩ := Option.isSome_iff_exists.mp known
    obtain ⟨isRow, isId⟩ := Table.get?_eq_some_iff.mp found
    have readable : Readable env member.cameraGroupId := isId ▸ receives.readable row isRow
    exact ⟨readable.eq (receives.readable group isGroup), congrArg _⟩
  have mapped (member : CameraGroupMember) (isMember : member ∈ source.cameraGroupMembers) :
      ∃ image, cameraMap.lookup (env.uuidText member.cameraId) = some image ∧ (target.cameras.get? image).isSome = true := by
    obtain ⟨-, known⟩ := receives.members member isMember
    obtain ⟨camera, found⟩ := Option.isSome_iff_exists.mp known
    obtain ⟨isCamera, isId⟩ := Table.get?_eq_some_iff.mp found
    exact isId ▸ receives.cameras camera isCamera
  have selected (entry : String × String) :
      entry ∈ (rows.map fun member => (env.uuidText member.cameraGroupId, env.uuidText member.cameraId)).filter
          (fun entry => entry.1 = env.uuidText group.id) ↔
        ∃ cameraId, { cameraGroupId := group.id, cameraId } ∈ source.cameraGroupMembers ∧
          entry = (env.uuidText group.id, env.uuidText cameraId) := by
    rw [List.mem_filter, List.mem_map, decide_eq_true_eq]
    constructor
    · rintro ⟨⟨member, isMember, rfl⟩, same⟩
      have isMember := (inRows member).mp isMember
      have isGroup := (ofGroup member isMember).mp same
      obtain ⟨groupId, cameraId⟩ := member
      cases isGroup
      exact ⟨cameraId, isMember, rfl⟩
    · rintro ⟨cameraId, isMember, rfl⟩
      exact ⟨⟨_, (inRows _).mpr isMember, rfl⟩, rfl⟩
  obtain ⟨ids, collected, isIds⟩ := @mapM_eq_some_of_forall _ _ (fun entry : String × String => cameraMap.lookup entry.2)
    ((rows.map fun member => (env.uuidText member.cameraGroupId, env.uuidText member.cameraId)).filter
      fun entry => entry.1 = env.uuidText group.id) fun entry member => by
    obtain ⟨cameraId, isMember, rfl⟩ := (selected entry).mp member
    obtain ⟨image, found, -⟩ := mapped _ isMember
    exact Option.isSome_iff_exists.mpr ⟨image, found⟩
  have isImage (id : Uuid) : id ∈ ids ↔ MemberImage env source cameraMap group.id id := by
    rw [isIds]
    constructor
    · rintro ⟨entry, member, found⟩
      obtain ⟨cameraId, isMember, rfl⟩ := (selected entry).mp member
      exact ⟨cameraId, isMember, found⟩
    · rintro ⟨cameraId, isMember, found⟩
      exact ⟨_, (selected _).mpr ⟨cameraId, isMember, rfl⟩, found⟩
  refine ⟨ids, collected, isImage, fun id member => ?_⟩
  obtain ⟨cameraId, isMember, found⟩ := (isImage id).mp member
  obtain ⟨image, isMapped, exists_⟩ := mapped _ isMember
  exact Option.some.inj (isMapped.symm.trans found) ▸ exists_

end Merge

end ZeroNvr.ConfigurationImportService
