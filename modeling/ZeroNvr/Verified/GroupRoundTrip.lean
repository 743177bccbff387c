import ZeroNvr.Core.UuidText
import ZeroNvr.Verified.GroupMerging

/-! # The camera groups of an export, imported

Each pass over the groups that wait applies those whose parents are mapped.  A
group at the top of those that wait is always among them, so no group waits when
the passes end.
-/

namespace ZeroNvr.ConfigurationImportService

open Lib CameraGroupService ConfigurationExportService

section Passes

variable {env : ImportEnv} {uuid4 : Supply Uuid} {source target : Database} {cameraMap : List (String × Uuid)}
  {members : List (String × String)} {state state' : GroupState} {group : CameraGroup}

/-! ## The groups so far -/

/-- The image of a group of the source, if it has been applied. -/
def GroupState.image (env : ImportEnv) (state : GroupState) (id : Uuid) : Option Uuid := state.groupMap.lookup (env.uuidText id)

/-- What the groups that were applied are, and that the others are those of the target. -/
structure Merged (env : ImportEnv) (source target : Database) (cameraMap : List (String × Uuid)) (state : GroupState) :
    Prop where
  sound : GroupsSound state.db
  stored : ∀ group ∈ source.cameraGroups, ∀ id, state.image env group.id = some id →
    { id, name := group.name, description := group.description, parentId := group.parentId.bind (state.image env) } ∈
        state.db.cameraGroups ∧
      (∀ above, group.parentId = some above → (state.image env above).isSome = true) ∧
      ∀ camera, { cameraGroupId := id, cameraId := camera } ∈ state.db.cameraGroupMembers ↔
        MemberImage env source cameraMap group.id camera
  named : ∀ row ∈ state.db.cameraGroups, ∀ group ∈ source.cameraGroups, row.id = group.id → row.name = group.name
  kept : ∀ row ∈ target.cameraGroups, ∃ later ∈ state.db.cameraGroups, later.id = row.id ∧ later.name = row.name
  others : ∀ row ∈ state.db.cameraGroups,
    row ∈ target.cameraGroups ∨ ∃ group ∈ source.cameraGroups, state.image env group.id = some row.id
  otherMembers : ∀ member : CameraGroupMember,
    (∀ group ∈ source.cameraGroups, state.image env group.id ≠ some member.cameraGroupId) →
      (member ∈ state.db.cameraGroupMembers ↔ member ∈ target.cameraGroupMembers)
  rest : state.db = { target with
    cameraGroups := state.db.cameraGroups, cameraGroupMembers := state.db.cameraGroupMembers }

/-- A group can be applied once its parent has been. -/
def GroupState.Ready (env : ImportEnv) (state : GroupState) (group : CameraGroup) : Prop :=
  ∀ above, group.parentId = some above → (state.image env above).isSome = true

theorem targetParent_ready (ready : state.Ready env group) :
    targetParent env state.groupMap (cameraGroup env group) = some (group.parentId.bind (state.image env)) := by
  rcases group with ⟨id, name, description, none | above⟩
  · rfl
  · obtain ⟨image, isImage⟩ := Option.isSome_iff_exists.mp (ready above rfl)
    have found : targetParent env state.groupMap (cameraGroup env ⟨id, name, description, some above⟩) =
        (state.image env above).map some := rfl
    rw [found, Option.bind_some, isImage, Option.map_some]

theorem targetParent_waits (waits : ¬state.Ready env group) :
    targetParent env state.groupMap (cameraGroup env group) = none := by
  rcases group with ⟨id, name, description, none | above⟩
  · exact absurd (fun _ isNone => by cases isNone) waits
  · have found : targetParent env state.groupMap (cameraGroup env ⟨id, name, description, some above⟩) =
        (state.image env above).map some := rfl
    have unmapped : state.image env above = none := by
      cases isImage : state.image env above with
      | none => rfl
      | some image => exact absurd (fun _ same => by cases same; rw [isImage]; rfl) waits
    rw [found, unmapped, Option.map_none]

/-- A group that waits is put to those that wait. -/
theorem applyCameraGroup_waits (waits : ¬state.Ready env group) (waiting : List Dict) :
    applyCameraGroup env uuid4 cameraMap members (state, waiting) (cameraGroup env group) =
      .ok (state, waiting ++ [cameraGroup env group]) := by
  have isId : field (cameraGroup env group) "id" = .ok (.str (env.uuidText group.id)) := rfl
  rw [applyCameraGroup, isId]
  dsimp only [bind, Except.bind]
  rw [targetParent_waits waits]

namespace Merged

/-- The groups above the image of a group are images as well. -/
theorem image_of_ancestor (merged : Merged env source target cameraMap state) (sent : GroupsSound source)
    (isGroup : group ∈ source.cameraGroups) {id above : Uuid} (isImage : state.image env group.id = some id)
    (path : AncestorOrSelf (parentById state.db) id above) :
    ∃ other ∈ source.cameraGroups, state.image env other.id = some above := by
  induction path with
  | refl => exact ⟨group, isGroup, isImage⟩
  | @tail middle last _ step ih =>
    obtain ⟨other, isOther, otherImage⟩ := ih
    obtain ⟨isRow, -, -⟩ := merged.stored other isOther middle otherImage
    have isParent : parentById state.db middle = other.parentId.bind (state.image env) := parentById_of_mem isRow
    obtain ⟨sourceParent, hasParent, parentImage⟩ := Option.bind_eq_some_iff.mp (isParent.symm.trans step)
    obtain ⟨parent, parentMember, rfl⟩ := sent.exists_parent isOther hasParent
    exact ⟨parent, parentMember, parentImage⟩

/-- An image has the name of its group. -/
theorem name_of_image (merged : Merged env source target cameraMap state) (isGroup : group ∈ source.cameraGroups)
    {row : CameraGroup} (isRow : row ∈ state.db.cameraGroups) (isImage : state.image env group.id = some row.id) :
    row.name = group.name := by
  obtain ⟨stored, -, -⟩ := merged.stored group isGroup row.id isImage
  have same := Table.eq_of_key_eq isRow stored rfl
  rw [same]

/-- A group that waits for nothing is no ancestor of the one it goes below. -/
theorem not_ancestor (merged : Merged env source target cameraMap state) (sent : GroupsSound source)
    (isGroup : group ∈ source.cameraGroups) (unmapped : state.image env group.id = none) {row : CameraGroup}
    (isRow : row ∈ state.db.cameraGroups) (sameName : row.name = group.name) {above : Uuid}
    (isParent : group.parentId.bind (state.image env) = some above) :
    ¬AncestorOrSelf (parentById state.db) above row.id := by
  intro path
  obtain ⟨sourceParent, hasParent, parentImage⟩ := Option.bind_eq_some_iff.mp isParent
  obtain ⟨parent, parentMember, rfl⟩ := sent.exists_parent isGroup hasParent
  obtain ⟨other, isOther, otherImage⟩ := merged.image_of_ancestor sent parentMember parentImage path
  have isName := merged.name_of_image isOther isRow otherImage
  have same := sent.names other isOther group isGroup (isName.symm.trans sameName)
  rw [same, unmapped] at otherImage
  cases otherImage

/-- What storing one more group leaves. -/
theorem store (merged : Merged env source target cameraMap state) (receives : Receives env uuid4 source target cameraMap)
    (isGroup : group ∈ source.cameraGroups) (unmapped : state.image env group.id = none) (ready : state.Ready env group)
    {cameraIds : List Uuid} (isImage : ∀ id, id ∈ cameraIds ↔ MemberImage env source cameraMap group.id id) {id : Uuid}
    (stored : GroupStored state.db
      { id, name := group.name, description := group.description, parentId := group.parentId.bind (state.image env) }
      cameraIds state'.db)
    (sound : GroupsSound state'.db)
    (origin : (∃ row ∈ state.db.cameraGroups, row.id = id ∧ row.name = group.name) ∨
      (id = state.db.cameraGroups.newKey uuid4 ∧ ∀ row ∈ state.db.cameraGroups, row.name ≠ group.name))
    (images : ∀ other ∈ source.cameraGroups,
      state'.image env other.id = if other.id = group.id then some id else state.image env other.id) :
    Merged env source target cameraMap state' := by
  -- what has the id already has the name of the group
  have named (row : CameraGroup) (isRow : row ∈ state.db.cameraGroups) (isId : row.id = id) : row.name = group.name := by
    rcases origin with ⟨old, isOld, oldId, oldName⟩ | ⟨isNew, -⟩
    · have same := Table.eq_of_key_eq isRow isOld (isId.trans oldId.symm)
      rw [same, oldName]
    · exact absurd (isId.trans isNew) (Table.newKey_fresh state.db.cameraGroups uuid4 isRow)
  have isOther (other : CameraGroup) (otherMember : other ∈ source.cameraGroups) {image : Uuid}
      (otherImage : state.image env other.id = some image) : other.id ≠ group.id ∧ image ≠ id := by
    have differs : other.id ≠ group.id := fun same => by
      rw [same, unmapped] at otherImage
      cases otherImage
    refine ⟨differs, fun isId => ?_⟩
    obtain ⟨isRow, -, -⟩ := merged.stored other otherMember image otherImage
    have sameName := named _ isRow isId
    exact differs (congrArg _ (receives.sent.names other otherMember group isGroup sameName))
  have later (other : CameraGroup) (otherMember : other ∈ source.cameraGroups) {image : Uuid}
      (otherImage : state.image env other.id = some image) : state'.image env other.id = some image := by
    rw [images other otherMember, if_neg (isOther other otherMember otherImage).1, otherImage]
  have sameParent (other : CameraGroup) (otherMember : other ∈ source.cameraGroups) (isReady : state.Ready env other) :
      other.parentId.bind (state'.image env) = other.parentId.bind (state.image env) ∧ state'.Ready env other := by
    cases hasParent : other.parentId with
    | none => exact ⟨rfl, fun above isAbove => by rw [hasParent] at isAbove; cases isAbove⟩
    | some above =>
      obtain ⟨parent, parentMember, rfl⟩ := receives.sent.exists_parent otherMember hasParent
      obtain ⟨image, parentImage⟩ := Option.isSome_iff_exists.mp (isReady parent.id hasParent)
      have still := later parent parentMember parentImage
      refine ⟨by rw [Option.bind_some, Option.bind_some, still, parentImage], fun above isAbove => ?_⟩
      cases hasParent.symm.trans isAbove
      rw [still]
      rfl
  refine ⟨sound, fun other otherMember image otherImage => ?_, fun row isRow other otherMember sameId => ?_,
    fun row isRow => ?_, fun row isRow => ?_, fun member apart => ?_, ?_⟩
  · by_cases isSame : other.id = group.id
    · -- the group itself
      have same : other = group := Table.eq_of_key_eq otherMember isGroup isSame
      subst same
      rw [images other otherMember, if_pos rfl] at otherImage
      cases otherImage
      obtain ⟨parentSame, stillReady⟩ := sameParent other isGroup ready
      refine ⟨?_, stillReady, fun camera => ?_⟩
      · rw [parentSame]
        exact (stored.groups _).mpr (.inl rfl)
      · rw [stored.members]
        simp [isImage]
    · -- a group from before
      rw [images other otherMember, if_neg isSame] at otherImage
      obtain ⟨isRow, isReady, isMember⟩ := merged.stored other otherMember image otherImage
      obtain ⟨parentSame, stillReady⟩ := sameParent other otherMember isReady
      obtain ⟨-, differs⟩ := isOther other otherMember otherImage
      refine ⟨?_, stillReady, fun camera => ?_⟩
      · rw [parentSame]
        exact (stored.groups _).mpr (.inr ⟨isRow, differs⟩)
      · rw [stored.members, ← isMember]
        simp [differs]
  · rcases (stored.groups row).mp isRow with rfl | ⟨isOld, -⟩
    · rcases origin with ⟨old, isOld, oldId, oldName⟩ | ⟨isNew, -⟩
      · rw [← merged.named old isOld other otherMember (oldId.trans sameId), oldName]
      · exact absurd (isNew.symm.trans sameId) (receives.fresh _ other otherMember)
    · exact merged.named row isOld other otherMember sameId
  · obtain ⟨old, isOld, oldId, oldName⟩ := merged.kept row isRow
    by_cases isId : old.id = id
    · exact ⟨_, (stored.groups _).mpr (.inl rfl), isId.symm.trans oldId, (named old isOld isId).symm.trans oldName⟩
    · exact ⟨old, (stored.groups _).mpr (.inr ⟨isOld, isId⟩), oldId, oldName⟩
  · rcases (stored.groups row).mp isRow with rfl | ⟨isOld, -⟩
    · exact .inr ⟨group, isGroup, by rw [images group isGroup, if_pos rfl]⟩
    · refine (merged.others row isOld).imp_right ?_
      rintro ⟨other, otherMember, otherImage⟩
      exact ⟨other, otherMember, later other otherMember otherImage⟩
  · have differs : member.cameraGroupId ≠ id := fun isId => by
      refine apart group isGroup ?_
      rw [images group isGroup, if_pos rfl, isId]
    have before := merged.otherMembers member fun other otherMember otherImage =>
      apart other otherMember (later other otherMember otherImage)
    rw [stored.members, ← before]
    simp [differs]
  · rw [stored.rest, merged.rest]

/-- A group whose parent has been applied is applied. -/
theorem apply (merged : Merged env source target cameraMap state) (receives : Receives env uuid4 source target cameraMap)
    (membersMapped : MembersMapped env source target cameraMap members) (isGroup : group ∈ source.cameraGroups)
    (unmapped : state.image env group.id = none) (ready : state.Ready env group) (waiting : List Dict) :
    ∃ state' id, applyCameraGroup env uuid4 cameraMap members (state, waiting) (cameraGroup env group) =
        .ok (state', waiting) ∧ Merged env source target cameraMap state' ∧ state'.skipped = state.skipped ∧
      ∀ other ∈ source.cameraGroups,
        state'.image env other.id = if other.id = group.id then some id else state.image env other.id := by
  obtain ⟨ids, collected, isImage, camerasKnown⟩ := membersMapped group isGroup
  have known (above : Uuid) (isParent : group.parentId.bind (state.image env) = some above) :
      (state.db.cameraGroups.get? above).isSome = true := by
    obtain ⟨sourceParent, hasParent, parentImage⟩ := Option.bind_eq_some_iff.mp isParent
    obtain ⟨parent, parentMember, rfl⟩ := receives.sent.exists_parent isGroup hasParent
    obtain ⟨isRow, -, -⟩ := merged.stored parent parentMember above parentImage
    exact Option.isSome_iff_exists.mpr ⟨_, Table.get?_of_mem isRow⟩
  have cameras (id : Uuid) (member : id ∈ ids) : (state.db.cameras.get? id).isSome = true := by
    rw [merged.rest]
    exact camerasKnown id member
  obtain ⟨db', id, action, upserted, stored, sound, origin⟩ :=
    upsertCameraGroup_ok uuid4 merged.sound (receives.sent.clean group isGroup) (receives.readable group isGroup)
      (fun row isRow => merged.named row isRow group isGroup) known
      (fun row isRow sameName above => merged.not_ancestor receives.sent isGroup unmapped isRow sameName) cameras
  have isId : field (cameraGroup env group) "id" = .ok (.str (env.uuidText group.id)) := rfl
  obtain ⟨state', applied, isDb, isMap, isSkipped⟩ : ∃ state' : GroupState,
      applyCameraGroup env uuid4 cameraMap members (state, waiting) (cameraGroup env group) = .ok (state', waiting) ∧
        state'.db = db' ∧ state'.groupMap = assign state.groupMap (env.uuidText group.id) id ∧
        state'.skipped = state.skipped := by
    rw [applyCameraGroup, isId]
    dsimp only [bind, Except.bind, ImportEnv.text]
    rw [targetParent_ready ready, collected]
    dsimp only
    rw [upserted]
    exact ⟨_, rfl, rfl, rfl, rfl⟩
  have images (other : CameraGroup) (otherMember : other ∈ source.cameraGroups) :
      state'.image env other.id = if other.id = group.id then some id else state.image env other.id := by
    rw [GroupState.image, isMap, lookup_assign]
    by_cases same : other.id = group.id
    · rw [if_pos (congrArg _ same), if_pos same]
    · rw [if_neg fun sameText => same ((receives.readable other otherMember).eq (receives.readable group isGroup) sameText),
        if_neg same]
      rfl
  rw [← isDb] at stored sound
  exact ⟨state', id, applied, merged.store receives isGroup unmapped ready isImage stored sound origin images, isSkipped, images⟩

/-! ## Passes -/

/-- A pass leaves the groups waiting whose parents were not applied before they came up. -/
theorem pass (merged : Merged env source target cameraMap state) (receives : Receives env uuid4 source target cameraMap)
    (membersMapped : MembersMapped env source target cameraMap members) {groups : List CameraGroup} (nodup : groups.Nodup)
    (pending : ∀ group ∈ groups, group ∈ source.cameraGroups ∧ state.image env group.id = none) (waiting : List Dict) :
    ∃ (state' : GroupState) (left : List CameraGroup),
      (groups.map (cameraGroup env)).foldlM (applyCameraGroup env uuid4 cameraMap members) (state, waiting) =
          .ok (state', waiting ++ left.map (cameraGroup env)) ∧
      Merged env source target cameraMap state' ∧ state'.skipped = state.skipped ∧ left.Sublist groups ∧
      (∀ group ∈ source.cameraGroups,
        state'.image env group.id = none ↔ state.image env group.id = none ∧ (group ∈ groups → group ∈ left)) ∧
      ∀ group ∈ left, ¬state.Ready env group := by
  induction groups generalizing state waiting with
  | nil =>
    refine ⟨state, [], ?_, merged, rfl, .slnil, fun group _ => ?_, fun _ inNil => absurd inNil List.not_mem_nil⟩
    · rw [List.map_nil, List.append_nil]
      rfl
    · exact ⟨fun unmapped => ⟨unmapped, id⟩, And.left⟩
  | cons group groups ih =>
    obtain ⟨isNew, nodup⟩ := List.nodup_cons.mp nodup
    obtain ⟨isGroup, unmapped⟩ := pending group List.mem_cons_self
    have rest (other : CameraGroup) (inRest : other ∈ groups) := pending other (List.mem_cons_of_mem _ inRest)
    rw [List.map_cons, List.foldlM_cons]
    by_cases ready : state.Ready env group
    · obtain ⟨middle, id, applied, mergedMiddle, sameSkipped, images⟩ :=
        merged.apply receives membersMapped isGroup unmapped ready waiting
      have unmappedMiddle (other : CameraGroup) (otherMember : other ∈ source.cameraGroups) :
          middle.image env other.id = none ↔ state.image env other.id = none ∧ other ≠ group := by
        rw [images other otherMember]
        by_cases same : other = group
        · simp [same]
        · have differs : other.id ≠ group.id := fun sameId => same (Table.eq_of_key_eq otherMember isGroup sameId)
          simp [same, differs]
      obtain ⟨last, left, folded, mergedLast, lastSkipped, sublist, lastImages, notReady⟩ := ih mergedMiddle nodup
        (fun other inRest => ⟨(rest other inRest).1, (unmappedMiddle other (rest other inRest).1).mpr
          ⟨(rest other inRest).2, fun same => isNew (same ▸ inRest)⟩⟩) waiting
      refine ⟨last, left, ?_, mergedLast, lastSkipped.trans sameSkipped, sublist.cons group, fun other otherMember => ?_,
        fun other inLeft isReady => notReady other inLeft fun above isParent => ?_⟩
      · rw [applied]
        exact folded
      · rw [lastImages other otherMember, unmappedMiddle other otherMember, List.mem_cons]
        have notLeft : group ∉ left := fun inLeft => isNew (sublist.subset inLeft)
        constructor
        · rintro ⟨⟨isNone, differs⟩, stays⟩
          exact ⟨isNone, fun member => stays (member.resolve_left differs)⟩
        · rintro ⟨isNone, stays⟩
          exact ⟨⟨isNone, fun same => notLeft (same ▸ stays (.inl same))⟩, fun member => stays (.inr member)⟩
      · -- what is ready stays ready
        obtain ⟨otherMember, -⟩ := rest other (sublist.subset inLeft)
        obtain ⟨parent, parentMember, rfl⟩ := receives.sent.exists_parent otherMember isParent
        rw [images parent parentMember]
        split
        · rfl
        · exact isReady parent.id isParent
    · rw [applyCameraGroup_waits ready]
      obtain ⟨last, left, folded, mergedLast, lastSkipped, sublist, lastImages, notReady⟩ :=
        ih merged nodup rest (waiting ++ [cameraGroup env group])
      refine ⟨last, group :: left, ?_, mergedLast, lastSkipped, sublist.cons_cons group, fun other otherMember => ?_,
        fun other inLeft => ?_⟩
      · have inOrder : waiting ++ (group :: left).map (cameraGroup env) =
            waiting ++ [cameraGroup env group] ++ left.map (cameraGroup env) := by rw [List.map_cons, List.append_cons]
        rw [inOrder]
        exact folded
      · rw [lastImages other otherMember, List.mem_cons, List.mem_cons]
        refine and_congr_right fun _ => ⟨fun stays => .imp_right stays, fun stays inRest => ?_⟩
        rcases stays (.inr inRest) with rfl | inLeft
        · exact absurd inRest isNew
        · exact inLeft
      · rcases List.mem_cons.mp inLeft with rfl | inLeft
        · exact ready
        · exact notReady other inLeft

/-- A pass in which every group waits finds none to wait. -/
theorem nil_of_waiting (sent : GroupsSound source) {groups : List CameraGroup}
    (pending : ∀ group ∈ source.cameraGroups, state.image env group.id = none → group ∈ groups)
    (known : ∀ group ∈ groups, group ∈ source.cameraGroups) (waits : ∀ group ∈ groups, ¬state.Ready env group) :
    groups = [] := by
  by_contra nonempty
  obtain ⟨top, member, isTop⟩ := @Acyclic.exists_top _ _ sent.hierarchical.acyclic (groups.map CameraGroup.id)
    fun isNil => nonempty (List.map_eq_nil_iff.mp isNil)
  obtain ⟨group, inGroups, rfl⟩ := List.mem_map.mp member
  refine waits group inGroups fun above isParent => ?_
  obtain ⟨parent, parentMember, rfl⟩ := sent.exists_parent (known group inGroups) isParent
  -- a parent that were not applied would wait as well
  by_contra unmapped
  have isNone : state.image env parent.id = none := Option.not_isSome_iff_eq_none.mp unmapped
  have inNodes := @List.mem_map_of_mem _ _ _ _ CameraGroup.id (pending parent parentMember isNone)
  exact isTop parent.id ((parentById_of_mem (known group inGroups)).trans isParent) inNodes

/-- As many passes as there are groups apply them all. -/
theorem passes (merged : Merged env source target cameraMap state) (receives : Receives env uuid4 source target cameraMap)
    (membersMapped : MembersMapped env source target cameraMap members) {count : Nat} {groups : List CameraGroup}
    (enough : groups.length ≤ count) (nodup : groups.Nodup)
    (pending : ∀ group, group ∈ groups ↔ group ∈ source.cameraGroups ∧ state.image env group.id = none) :
    ∃ state', applyPasses env uuid4 cameraMap members count state (groups.map (cameraGroup env)) = .ok (state', []) ∧
      Merged env source target cameraMap state' ∧ state'.skipped = state.skipped ∧
      ∀ group ∈ source.cameraGroups, (state'.image env group.id).isSome = true := by
  have mapped (state : GroupState) (none : ∀ group, ¬(group ∈ source.cameraGroups ∧ state.image env group.id = none))
      (group : CameraGroup) (isGroup : group ∈ source.cameraGroups) : (state.image env group.id).isSome = true :=
    Option.ne_none_iff_isSome.mp fun isNone => none group ⟨isGroup, isNone⟩
  induction count generalizing state groups with
  | zero =>
    have isNil : groups = [] := List.length_eq_zero_iff.mp (Nat.le_zero.mp enough)
    subst isNil
    exact ⟨state, rfl, merged, rfl, mapped state fun group isPending => absurd ((pending group).mpr isPending) List.not_mem_nil⟩
  | succ count ih =>
    obtain ⟨middle, left, folded, mergedMiddle, sameSkipped, sublist, images, notReady⟩ :=
      merged.pass receives membersMapped nodup (fun group inGroups => (pending group).mp inGroups) []
    have leftPending (group : CameraGroup) :
        group ∈ left ↔ group ∈ source.cameraGroups ∧ middle.image env group.id = none := by
      constructor
      · intro inLeft
        obtain ⟨isGroup, isNone⟩ := (pending group).mp (sublist.subset inLeft)
        exact ⟨isGroup, (images group isGroup).mpr ⟨isNone, fun _ => inLeft⟩⟩
      · rintro ⟨isGroup, isNone⟩
        obtain ⟨wasNone, stays⟩ := (images group isGroup).mp isNone
        exact stays ((pending group).mpr ⟨isGroup, wasNone⟩)
    rw [applyPasses, folded]
    dsimp only [bind, Except.bind]
    rw [List.nil_append, List.length_map, List.length_map]
    split
    · next fewer =>
      -- some group was applied: the next pass has fewer
      obtain ⟨last, passed, mergedLast, lastSkipped, allMapped⟩ :=
        ih mergedMiddle (by omega) (nodup.sublist sublist) leftPending
      exact ⟨last, passed, mergedLast, lastSkipped.trans sameSkipped, allMapped⟩
    · next notFewer =>
      -- every group waited, so there was none
      have same : left = groups := sublist.eq_of_length_le (not_lt.mp notFewer)
      have isNil : groups = [] := nil_of_waiting receives.sent (fun group isGroup isNone => (pending group).mpr ⟨isGroup, isNone⟩)
        (fun group inGroups => ((pending group).mp inGroups).1) (same ▸ notReady)
      rw [same, isNil] at leftPending ⊢
      exact ⟨middle, rfl, mergedMiddle, sameSkipped,
        mapped middle fun group isPending => absurd ((leftPending group).mpr isPending) List.not_mem_nil⟩

end Merged

/-- Before a group is applied all are those of the target. -/
theorem merged_start (receives : Receives env uuid4 source target cameraMap) :
    Merged env source target cameraMap { db := target } where
  sound := receives.received
  stored group isGroup id isImage := by cases isImage
  named := receives.named
  kept row isRow := ⟨row, isRow, rfl, rfl⟩
  others row isRow := .inl isRow
  otherMembers _ _ := Iff.rfl
  rest := rfl

/-- The groups of an export are all applied. -/
theorem applyCameraGroups_export (collate : String → String → Bool)
    (receives : Receives env uuid4 source target cameraMap) :
    ∃ state, applyCameraGroups env uuid4 { db := target } (cameraGroups env collate source) (cameraGroupMembers env source)
        cameraMap = .ok state ∧
      state.skipped = [] ∧ Merged env source target cameraMap state ∧
      ∀ group ∈ source.cameraGroups, (state.image env group.id).isSome = true := by
  obtain ⟨members, isMembers, membersMapped⟩ := receives.memberMap
  have perm := @byName_perm collate _ CameraGroup.name CameraGroup.id source.cameraGroups.rows
  have nodup : (byName collate CameraGroup.name CameraGroup.id source.cameraGroups.rows).Nodup :=
    perm.nodup_iff.mpr source.cameraGroups.keysNodup.of_map
  have enough : (byName collate CameraGroup.name CameraGroup.id source.cameraGroups.rows).length ≤
      (cameraGroups env collate source).length := by rw [cameraGroups, List.length_map]
  obtain ⟨state, passed, merged, skipped, mapped⟩ :=
    (merged_start receives).passes receives membersMapped enough nodup fun group => by
      rw [perm.mem_iff]
      exact ⟨fun member => ⟨member, rfl⟩, And.left⟩
  refine ⟨state, ?_, skipped, merged, mapped⟩
  have unchanged : { state with skipped := state.skipped ++ [] } = state := by
    rw [List.append_nil]
  rw [applyCameraGroups, isMembers]
  dsimp only [bind, Except.bind]
  rw [← cameraGroups] at passed
  rw [passed]
  exact congrArg _ unchanged

/-! ## The groups after an import -/

/-- The groups of the source stand in a database as they stood there, under other ids. -/
structure Recreated (env : ImportEnv) (source : Database) (cameraMap : List (String × Uuid)) (image : Uuid → Uuid)
    (db : Database) : Prop where
  injective : ∀ group ∈ source.cameraGroups, ∀ other ∈ source.cameraGroups, image group.id = image other.id → group = other
  groups : ∀ group ∈ source.cameraGroups, { group with id := image group.id, parentId := group.parentId.map image } ∈ db.cameraGroups
  members : ∀ group ∈ source.cameraGroups, ∀ camera,
    { cameraGroupId := image group.id, cameraId := camera } ∈ db.cameraGroupMembers ↔
      MemberImage env source cameraMap group.id camera

/-- Every group of an export is created or updated, whatever the order, and ends below the image of its
    parent with the images of its cameras; the other groups of the target stay. -/
theorem camera_groups_recreated (collate : String → String → Bool) (receives : Receives env uuid4 source target cameraMap) :
    ∃ state image, applyCameraGroups env uuid4 { db := target } (cameraGroups env collate source)
        (cameraGroupMembers env source) cameraMap = .ok state ∧
      state.skipped = [] ∧ GroupsSound state.db ∧ Recreated env source cameraMap image state.db ∧
      (∀ group ∈ source.cameraGroups, state.groupMap.lookup (env.uuidText group.id) = some (image group.id)) ∧
      ∀ id, (∀ group ∈ source.cameraGroups, image group.id ≠ id) →
        state.db.cameraGroups.get? id = target.cameraGroups.get? id ∧
          ∀ camera, { cameraGroupId := id, cameraId := camera } ∈ state.db.cameraGroupMembers ↔
            { cameraGroupId := id, cameraId := camera } ∈ target.cameraGroupMembers := by
  obtain ⟨state, applied, skipped, merged, allMapped⟩ := applyCameraGroups_export collate receives
  let image (id : Uuid) : Uuid := (state.image env id).getD 0
  have mapped (group : CameraGroup) (isGroup : group ∈ source.cameraGroups) :
      state.image env group.id = some (image group.id) := by
    obtain ⟨id, isId⟩ := Option.isSome_iff_exists.mp (allMapped group isGroup)
    rw [show image group.id = (state.image env group.id).getD 0 from rfl, isId, Option.getD_some]
  refine ⟨state, image, applied, skipped, merged.sound, ⟨fun group isGroup other isOther same => ?_, fun group isGroup => ?_,
    fun group isGroup => ?_⟩, mapped, fun id apart => ⟨?_, fun camera => ?_⟩⟩
  · obtain ⟨row, -, -⟩ := merged.stored group isGroup _ (mapped group isGroup)
    have sameName := merged.name_of_image isOther row ((mapped other isOther).trans (congrArg some same.symm))
    exact receives.sent.names group isGroup other isOther sameName
  · obtain ⟨row, -, -⟩ := merged.stored group isGroup _ (mapped group isGroup)
    have sameParent : group.parentId.bind (state.image env) = group.parentId.map image := by
      cases hasParent : group.parentId with
      | none => rfl
      | some above =>
        obtain ⟨parent, parentMember, rfl⟩ := receives.sent.exists_parent isGroup hasParent
        rw [Option.bind_some, Option.map_some, mapped parent parentMember]
    rwa [sameParent] at row
  · exact (merged.stored group isGroup _ (mapped group isGroup)).2.2
  · have notImage (row : CameraGroup) (isId : row.id = id) :
        ¬∃ group ∈ source.cameraGroups, state.image env group.id = some row.id := by
      rintro ⟨group, isGroup, isImage⟩
      rw [mapped group isGroup, isId] at isImage
      exact apart group isGroup (Option.some.inj isImage)
    cases found : target.cameraGroups.get? id with
    | some row =>
      obtain ⟨isRow, isId⟩ := Table.get?_eq_some_iff.mp found
      obtain ⟨later, isLater, laterId, -⟩ := merged.kept row isRow
      have laterIs : later.id = id := laterId.trans isId
      have inTarget := (merged.others later isLater).resolve_right (notImage later laterIs)
      have same : later = row := Table.eq_of_key_eq inTarget isRow laterId
      exact Table.get?_eq_some_iff.mpr ⟨same ▸ isLater, isId⟩
    | none =>
      refine Table.get?_eq_none_iff.mpr fun row isRow isId => ?_
      have inTarget := (merged.others row isRow).resolve_right (notImage row isId)
      exact Table.get?_eq_none_iff.mp found row inTarget isId
  · refine merged.otherMembers _ fun group isGroup isImage => apart group isGroup ?_
    exact Option.some.inj ((mapped group isGroup).symm.trans isImage)

/-! ### A hall below a site -/

/-- Ids as `str(uuid)` writes them and `uuid.UUID` reads them. -/
def uuidEnv : ImportEnv where
  str _ := ""
  parseUuid text := (UUID.parse text.toList).map UUID.int
  uuidText := UUID.text
  normalizeTime _ := .ok ()

theorem readable_uuid {id : Uuid} (small : id < 2 ^ 128) : Readable uuidEnv id := by
  have parsed : UUID.parse (UUID.text id).toList = some ⟨id % 2 ^ 128, Nat.mod_lt _ (by positivity)⟩ := by
    rw [UUID.text, String.toList_ofList, UUID.parse_str]
  unfold Readable uuidEnv
  dsimp only
  rw [parsed, Option.map_some]
  exact congrArg some (Nat.mod_eq_of_lt small)

/-- Ids above those that an installation started with. -/
def laterIds : Supply Uuid where
  next used := Supply.counting.next (1000 :: used)
  fresh used member := Supply.counting.fresh (1000 :: used) (List.mem_cons_of_mem _ member)

theorem laterIds_large (used : List Uuid) : 1000 < laterIds.next used := by
  have large : 1000 ≤ (1000 :: used).foldr max 0 := le_max_left _ _
  exact Nat.lt_succ_of_le large

theorem hallGroups_nodup : ([{ id := 2, name := "hall", parentId := some 1 }, { id := 1, name := "site" }].map
    CameraGroup.id).Nodup := by decide

/-- A hall with a camera, below a site that a role sees. -/
def hallSource : Database :=
  { cameras := .single { id := 5 }
    cameraGroups := ⟨[{ id := 2, name := "hall", parentId := some 1 }, { id := 1, name := "site" }], hallGroups_nodup⟩
    cameraGroupMembers := .single { cameraGroupId := 2, cameraId := 5 }
    roles := .single { id := 3, name := "guard", permissions := ["camera.view"] }
    principalCameraScopes := .single { principal := .role 3, scopeMode := .selected }
    principalCameraScopeEntries := .single { principal := .role 3, target := .cameraGroup 1 } }

/-- Another installation, with the camera under another id and an empty hall. -/
def hallTarget : Database :=
  { cameras := .single { id := 8 }
    cameraGroups := .single { id := 30, name := "hall" } }

theorem hallSource_groups {group : CameraGroup} (isGroup : group ∈ hallSource.cameraGroups) :
    group = { id := 2, name := "hall", parentId := some 1 } ∨ group = { id := 1, name := "site" } := by
  rcases List.mem_cons.mp isGroup with rfl | isSite
  · exact .inl rfl
  · exact .inr (List.mem_singleton.mp isSite)

theorem hallTarget_groups {group : CameraGroup} (isGroup : group ∈ hallTarget.cameraGroups) :
    group = { id := 30, name := "hall" } := List.mem_singleton.mp isGroup

theorem hallSource_sound : GroupsSound hallSource where
  hierarchical := by
    have parents (id above : Uuid) (isParent : parentById hallSource id = some above) : id = 2 ∧ above = 1 := by
      obtain ⟨group, found, hasParent⟩ := Option.bind_eq_some_iff.mp isParent
      obtain ⟨isGroup, isId⟩ := Table.get?_eq_some_iff.mp found
      rcases hallSource_groups isGroup with rfl | rfl
      · exact ⟨isId.symm, (Option.some.inj hasParent).symm⟩
      · cases hasParent
    refine ⟨fun node cycle => ?_, fun group above isParent => ?_⟩
    · obtain ⟨above, step, path⟩ := Relation.TransGen.head'_iff.mp cycle
      obtain ⟨rfl, rfl⟩ := parents node above step
      rcases Relation.ReflTransGen.cases_head path with same | ⟨next, step, -⟩
      · cases same
      · exact absurd (parents 1 next step).1 (by decide)
    · obtain ⟨-, rfl⟩ := parents group above isParent
      rfl
  names group isGroup other isOther same := by
    rcases hallSource_groups isGroup with rfl | rfl <;> rcases hallSource_groups isOther with rfl | rfl
    · rfl
    · exact absurd same (by decide)
    · exact absurd same (by decide)
    · rfl
  clean group isGroup := by
    rcases hallSource_groups isGroup with rfl | rfl
    · exact ⟨rfl, by decide, rfl⟩
    · exact ⟨rfl, by decide, rfl⟩

theorem hallTarget_sound : GroupsSound hallTarget where
  hierarchical := by
    have noParent (id above : Uuid) : parentById hallTarget id ≠ some above := fun isParent => by
      obtain ⟨group, found, hasParent⟩ := Option.bind_eq_some_iff.mp isParent
      rw [hallTarget_groups (Table.mem_of_get? found)] at hasParent
      cases hasParent
    refine ⟨fun node cycle => ?_, fun group above isParent => absurd isParent (noParent group above)⟩
    obtain ⟨above, step, -⟩ := Relation.TransGen.head'_iff.mp cycle
    exact noParent node above step
  names group isGroup other isOther _ := (hallTarget_groups isGroup).trans (hallTarget_groups isOther).symm
  clean group isGroup := by
    rw [hallTarget_groups isGroup]
    exact ⟨rfl, by decide, rfl⟩

def hallCameras : List (String × Uuid) := [(UUID.text 5, 8)]

theorem hallCameras_lookup : hallCameras.lookup (uuidEnv.uuidText 5) = some 8 := List.lookup_cons_self

theorem receives_hall : Receives uuidEnv laterIds hallSource hallTarget hallCameras where
  sent := hallSource_sound
  members member isMember := by
    rw [List.mem_singleton.mp isMember]
    exact ⟨rfl, rfl⟩
  received := hallTarget_sound
  readable group isGroup := by
    rcases hallSource_groups isGroup with rfl | rfl
    · exact readable_uuid (by norm_num)
    · exact readable_uuid (by norm_num)
  cameras camera isCamera := by
    rw [List.mem_singleton.mp isCamera]
    exact ⟨8, hallCameras_lookup, rfl⟩
  named row isRow group isGroup same := by
    rw [hallTarget_groups isRow] at same
    rcases hallSource_groups isGroup with rfl | rfl
    · exact absurd same (by decide)
    · exact absurd same (by decide)
  fresh used group isGroup same := by
    have large := laterIds_large used
    rcases hallSource_groups isGroup with rfl | rfl
    · exact absurd (same ▸ large) (by decide)
    · exact absurd (same ▸ large) (by decide)

/-- The hall is exported before the site, and yet ends below it. -/
theorem camera_groups_recreated_hall : ∃ (state : GroupState) (image : Uuid → Uuid),
    applyCameraGroups uuidEnv laterIds { db := hallTarget } (cameraGroups uuidEnv (· ≤ ·) hallSource)
        (cameraGroupMembers uuidEnv hallSource) hallCameras = .ok state ∧
      { id := image 2, name := "hall", parentId := some (image 1) } ∈ state.db.cameraGroups := by
  obtain ⟨state, image, applied, -, -, recreated, -⟩ := camera_groups_recreated (· ≤ ·) receives_hall
  have isGroup : { id := 2, name := "hall", parentId := some 1 } ∈ hallSource.cameraGroups := List.mem_cons_self
  exact ⟨state, image, applied, recreated.groups _ isGroup⟩

end Passes

end ZeroNvr.ConfigurationImportService
