import ZeroNvr.Auth.CameraScope
import ZeroNvr.Storage.Retention
import ZeroNvr.Verified.GroupHierarchy

/-! # Scopes and policies of groups

Scopes walk down from the groups they select, and the retention planner up from
the groups a camera is in.  Both come to the pairs of a group and one at or
above it, so they agree on which groups hold a camera, and the planner knows how
far above it each of them is.
-/

namespace ZeroNvr

open Lib

namespace CameraScopeService

open CameraGroupService (parentById)

/-! ## Scopes -/

theorem mem_groupEdges {db : Database} {source target : Uuid} :
    (source, target) ∈ groupEdges db ↔ parentById db target = some source := by
  unfold groupEdges parentById
  rw [List.mem_filterMap, Option.bind_eq_some_iff]
  constructor
  · rintro ⟨group, member, isEdge⟩
    obtain ⟨parent, isParent, same⟩ := Option.map_eq_some_iff.mp isEdge
    cases same
    exact ⟨group, Table.get?_of_mem member, isParent⟩
  · rintro ⟨group, found, isParent⟩
    refine ⟨group, Table.mem_of_get? found, ?_⟩
    have isId : group.id = target := Table.key_of_get? found
    rw [isParent, Option.map_some, isId]

/-- What lies below a group is what it is above. -/
theorem reachableFrom_groupEdges {db : Database} {selected : List Uuid} {groupId : Uuid} :
    ReachableFrom (groupEdges db) selected groupId ↔
      ∃ above ∈ selected, AncestorOrSelf (parentById db) groupId above := by
  refine exists_congr fun above => and_congr_right fun _ => ?_
  have swapped : (fun source target => (source, target) ∈ groupEdges db) = Function.swap (ParentOf (parentById db)) := by
    funext source target
    exact propext mem_groupEdges
  rw [swapped, Relation.reflTransGen_swap]
  rfl

/-- A selected group covers the cameras of the groups that it is or is above. -/
theorem covers_selected_iff {db : Database} {value : CameraScopeValue} {cameraId : Uuid} (isSelected : value.mode = .selected) :
    Covers db value cameraId ↔ cameraId ∈ value.cameraIds ∨ ∃ groupId ∈ value.cameraGroupIds,
      ∃ direct, { cameraGroupId := direct, cameraId } ∈ db.cameraGroupMembers ∧
        AncestorOrSelf (parentById db) direct groupId := by
  unfold Covers
  simp only [isSelected, reachableFrom_groupEdges, true_and]
  rw [or_iff_right (by nofun)]
  refine or_congr_right ⟨?_, ?_⟩
  · rintro ⟨direct, ⟨groupId, selected, path⟩, member⟩
    exact ⟨groupId, selected, direct, member, path⟩
  · rintro ⟨groupId, selected, direct, member, path⟩
    exact ⟨direct, ⟨groupId, selected, path⟩, member⟩

theorem roleScope_allows_iff {db : Database} {roleId cameraId : Uuid} {value : CameraScopeValue}
    (isValue : getScope db (.role roleId) = some value) :
    (roleScope db roleId).allows cameraId = true ↔ Covers db value cameraId := by
  unfold roleScope
  rw [isValue]
  exact allows_iff_covers

end CameraScopeService

namespace RetentionPlanner

open CameraGroupService (parentById)

/-! ## Distances -/

/-- The group is so many steps above one that the camera is in. -/
def Distance (db : Database) (cameraId groupId : Uuid) (distance : Nat) : Prop :=
  ∃ direct, { cameraGroupId := direct, cameraId } ∈ db.cameraGroupMembers ∧ Above (parentById db) direct distance groupId

theorem exists_distance_iff {db : Database} {cameraId groupId : Uuid} :
    (∃ distance, Distance db cameraId groupId distance) ↔
      ∃ direct, { cameraGroupId := direct, cameraId } ∈ db.cameraGroupMembers ∧
        AncestorOrSelf (parentById db) direct groupId := by
  constructor
  · rintro ⟨distance, direct, member, isAbove⟩
    exact ⟨direct, member, ancestorOrSelf_iff.mpr ⟨distance, isAbove⟩⟩
  · rintro ⟨direct, member, path⟩
    obtain ⟨distance, isAbove⟩ := ancestorOrSelf_iff.mp path
    exact ⟨distance, direct, member, isAbove⟩

theorem lookup_filter_ne {depths : List (Uuid × Nat)} {current node : Uuid} (differs : node ≠ current) :
    (depths.filter (·.1 ≠ current)).lookup node = depths.lookup node := by
  induction depths with
  | nil => rfl
  | cons entry depths ih =>
    obtain ⟨key, depth⟩ := entry
    by_cases isCurrent : key = current
    · have notNode : (node == key) = false := by rw [beq_eq_false_iff_ne, isCurrent]; exact differs
      rw [List.filter_cons_of_neg (by simpa using isCurrent), ih, List.lookup_cons, notNode]
    · rw [List.filter_cons_of_pos (by simpa using isCurrent), List.lookup_cons, List.lookup_cons, ih]

/-- A depth that no lookup finds is none. -/
theorem not_given_of_lookup_none {given : Uuid → Nat → Prop} {depths : List (Uuid × Nat)} {current : Uuid}
    (least : LeastDepths given depths) (notFound : depths.lookup current = none) (depth : Nat) : ¬given current depth := by
  classical
  intro isGiven
  have isSome : ∃ depth, given current depth := ⟨depth, isGiven⟩
  have found := (least current (Nat.find isSome)).mpr ⟨Nat.find_spec isSome, fun other => Nat.find_min' isSome⟩
  rw [notFound] at found
  cases found

theorem records_recordDepth : Records recordDepth := by
  intro given depths current depth least
  have others (node : Uuid) (each : Nat) (differs : node ≠ current) :
      (given node each ∧ ∀ other, given node other → each ≤ other) ↔
        (given node each ∨ node = current ∧ each = depth) ∧
          ∀ other, (given node other ∨ node = current ∧ other = depth) → each ≤ other := by
    simp only [differs, false_and, or_false]
  rw [recordDepth]
  split
  next previous found =>
    obtain ⟨isGiven, isLeast⟩ := (least current previous).mp found
    split
    next less =>
      intro node each
      by_cases isCurrent : node = current
      · subst isCurrent
        rw [List.lookup_cons_self, Option.some.injEq]
        constructor
        · rintro rfl
          refine ⟨.inr ⟨rfl, rfl⟩, fun other isOther => ?_⟩
          rcases isOther with isOther | ⟨_, rfl⟩
          · exact less.le.trans (isLeast other isOther)
          · exact le_rfl
        · rintro ⟨isEach, eachLeast⟩
          rcases isEach with isEach | ⟨_, rfl⟩
          · have := isLeast each isEach
            have := eachLeast depth (.inr ⟨rfl, rfl⟩)
            omega
          · rfl
      · rw [List.lookup_cons, beq_eq_false_iff_ne.mpr isCurrent, lookup_filter_ne isCurrent, least]
        exact others node each isCurrent
    next notLess =>
      refine least.congr (fun _ _ => .inl) fun node each isEach => ?_
      rcases isEach with isEach | ⟨rfl, rfl⟩
      · exact ⟨each, le_rfl, isEach⟩
      · exact ⟨previous, Nat.le_of_not_lt notLess, isGiven⟩
  next notFound =>
    intro node each
    by_cases isCurrent : node = current
    · subst isCurrent
      rw [List.lookup_cons_self, Option.some.injEq]
      constructor
      · rintro rfl
        exact ⟨.inr ⟨rfl, rfl⟩, fun other isOther =>
          (isOther.resolve_left (not_given_of_lookup_none least notFound other)).2.ge⟩
      · rintro ⟨isEach, _⟩
        exact (isEach.resolve_left (not_given_of_lookup_none least notFound each)).2.symm
    · rw [List.lookup_cons, beq_eq_false_iff_ne.mpr isCurrent, least]
      exact others node each isCurrent

/-- Each pass but the last visits another group, and what is no group has no parent. -/
theorem walksUp_walkAncestors {db : Database} {passes : Nat} {current : Option Uuid} {depth : Nat}
    {visited : List Uuid} {depths : List (Uuid × Nat)} (nodup : visited.Nodup)
    (rows : ∀ id ∈ visited, parentById db id = none ∧ current = none ∨ id ∈ db.cameraGroups.rows.map CameraGroup.id)
    (enough : db.cameraGroups.rows.length + 1 ≤ passes + visited.length ∨ current = none) :
    WalksUp (parentById db) recordDepth current depth visited depths
      (walkAncestors (parentById db) passes current depth visited depths) := by
  induction passes generalizing current depth visited depths with
  | zero =>
    cases current with
    | none => exact .top _ _ _
    | some current =>
      have fits := (List.subperm_of_subset nodup fun id member => (rows id member).resolve_left nofun).length_le
      rw [List.length_map] at fits
      rcases enough with enough | isNone
      · omega
      · cases isNone
  | succ passes ih =>
    cases current with
    | none => exact .top _ _ _
    | some current =>
      rw [walkAncestors]
      split
      next isVisited => exact .seen isVisited
      next isNew =>
      refine .up isNew (ih (List.nodup_cons.mpr ⟨isNew, nodup⟩) (fun id member => ?_) ?_)
      · rcases List.mem_cons.mp member with rfl | earlier
        · cases isRow : db.cameraGroups.get? id with
          | none =>
            have noParent : parentById db id = none := by rw [parentById, isRow, Option.bind_none]
            exact .inl ⟨noParent, noParent⟩
          | some row =>
            have isId : row.id = id := Table.key_of_get? isRow
            exact .inr (isId ▸ List.mem_map_of_mem (Table.mem_of_get? isRow))
        · exact .inr ((rows id earlier).resolve_left nofun)
      · rcases enough with enough | isNone
        · refine .inl ?_
          rw [List.length_cons]
          omega
        · cases isNone

/-- The loop over the ancestors of a group comes to its end. -/
theorem walksUp_start (db : Database) (direct : Uuid) (depths : List (Uuid × Nat)) :
    WalksUp (parentById db) recordDepth (some direct) 0 [] depths
      (walkAncestors (parentById db) (db.cameraGroups.rows.length + 1) (some direct) 0 [] depths) :=
  walksUp_walkAncestors List.nodup_nil (fun _ member => (by cases member)) (.inl le_rfl)

theorem leastDepths_groupDepths (db : Database) (cameraId : Uuid) :
    LeastDepths (Distance db cameraId) (groupDepths db cameraId) := by
  have folded (directs : List Uuid) (given : Uuid → Nat → Prop) (depths : List (Uuid × Nat))
      (least : LeastDepths given depths) :
      LeastDepths (fun groupId distance => given groupId distance ∨
          ∃ direct ∈ directs, Above (parentById db) direct distance groupId)
        (directs.foldl (fun depths directId =>
          walkAncestors (parentById db) (db.cameraGroups.rows.length + 1) (some directId) 0 [] depths) depths) := by
    induction directs generalizing given depths with
    | nil => exact least.congr (fun _ _ => .inl) fun _ each isGiven => ⟨each, le_rfl, isGiven.resolve_right (by simp)⟩
    | cons direct directs ih =>
      refine (ih _ _ ((walksUp_start db direct depths).least_start records_recordDepth least)).congr
        (fun groupId distance isGiven => ?_) fun groupId distance isGiven => ⟨distance, le_rfl, ?_⟩
      · simpa only [List.mem_cons, exists_eq_or_imp, or_assoc] using isGiven
      · simpa only [List.mem_cons, exists_eq_or_imp, or_assoc] using isGiven
  have noDepths : LeastDepths (fun _ _ => False) ([] : List (Uuid × Nat)) := fun node depth => by simp
  refine (folded _ _ [] noDepths).congr (fun groupId distance isGiven => ?_) fun groupId distance isGiven => ⟨distance, le_rfl, ?_⟩
  · obtain ⟨direct, isDirect, isAbove⟩ := isGiven.resolve_left id
    obtain ⟨⟨directId, memberId⟩, selected, rfl⟩ := List.mem_map.mp isDirect
    obtain ⟨member, isCamera⟩ := Table.mem_select.mp selected
    rw [decide_eq_true_eq] at isCamera
    subst isCamera
    exact ⟨_, member, isAbove⟩
  · obtain ⟨direct, member, isAbove⟩ := isGiven
    exact .inr ⟨direct, List.mem_map.mpr ⟨_, Table.mem_select.mpr ⟨member, decide_eq_true rfl⟩, rfl⟩, isAbove⟩

/-! ## Policies -/

/-- An enabled policy of the given scope. -/
def Assigned (db : Database) (scope : RetentionScope) (policy : RetentionPolicy) : Prop :=
  policy ∈ db.retentionPolicies ∧ policy.scope = scope ∧ policy.enabled = true

/-- An enabled policy of a group that is so far above the camera. -/
def AtDistance (db : Database) (cameraId : Uuid) (policy : RetentionPolicy) (distance : Nat) : Prop :=
  ∃ groupId, Assigned db (.cameraGroup groupId) policy ∧ Distance db cameraId groupId distance

/-- No group policy is less far above the camera. -/
def Nearest (db : Database) (cameraId : Uuid) (policy : RetentionPolicy) : Prop :=
  ∃ distance, AtDistance db cameraId policy distance ∧ ∀ other each, AtDistance db cameraId other each → distance ≤ each

/-- What a choice among candidates comes to. -/
inductive Picks (candidates : RetentionPolicy → Prop) (code : String) : Result (Option RetentionPolicy) → Prop
  | none (noCandidate : ∀ policy, ¬candidates policy) : Picks candidates code (.ok none)
  | one {policy : RetentionPolicy} (isCandidate : candidates policy) (only : ∀ other, candidates other → other = policy) :
    Picks candidates code (.ok (some policy))
  | several {policy other : RetentionPolicy} (isCandidate : candidates policy) (otherToo : candidates other)
      (differ : policy ≠ other) :
    Picks candidates code (.error (apiError 409 code "Retention policy selection is ambiguous."))

/-- The policy that a camera is recorded with, else the one of the camera, else the nearest one of a group, else the
    global one. -/
inductive Chosen (db : Database) (cameraId : Uuid) : Result (Option RetentionPolicy) → Prop
  | explicit {policyId : Uuid} {policy : RetentionPolicy}
      (isExplicit : (db.recordingPolicies.get? cameraId).bind RecordingPolicy.retentionPolicyId = some policyId)
      (isPolicy : db.retentionPolicies.get? policyId = some policy) (enabled : policy.enabled = true) :
    Chosen db cameraId (.ok (some policy))
  | unavailable {policyId : Uuid}
      (isExplicit : (db.recordingPolicies.get? cameraId).bind RecordingPolicy.retentionPolicyId = some policyId)
      (noPolicy : ∀ policy, db.retentionPolicies.get? policyId = some policy → policy.enabled = false) :
    Chosen db cameraId (.error (apiError 409 "retention_policy_unavailable"
      "Camera recording policy references an unavailable retention policy."))
  | camera {outcome : Result (Option RetentionPolicy)}
      (notExplicit : (db.recordingPolicies.get? cameraId).bind RecordingPolicy.retentionPolicyId = none)
      (picks : Picks (Assigned db (.camera cameraId)) "retention_camera_policy_ambiguous" outcome)
      (found : outcome ≠ .ok none) : Chosen db cameraId outcome
  | group {outcome : Result (Option RetentionPolicy)}
      (notExplicit : (db.recordingPolicies.get? cameraId).bind RecordingPolicy.retentionPolicyId = none)
      (notCamera : ∀ policy, ¬Assigned db (.camera cameraId) policy)
      (picks : Picks (Nearest db cameraId) "retention_group_policy_ambiguous" outcome)
      (found : outcome ≠ .ok none) : Chosen db cameraId outcome
  | global {outcome : Result (Option RetentionPolicy)}
      (notExplicit : (db.recordingPolicies.get? cameraId).bind RecordingPolicy.retentionPolicyId = none)
      (notCamera : ∀ policy, ¬Assigned db (.camera cameraId) policy) (notGroup : ∀ policy, ¬Nearest db cameraId policy)
      (picks : Picks (Assigned db .global) "retention_global_policy_ambiguous" outcome) : Chosen db cameraId outcome

theorem picks_singlePolicy {candidates : RetentionPolicy → Prop} {policies : List RetentionPolicy} (code : String)
    (nodup : policies.Nodup) (mem_iff : ∀ policy, policy ∈ policies ↔ candidates policy) :
    Picks candidates code (singlePolicy policies code) := by
  match policies with
  | [] => exact .none fun policy isCandidate => List.not_mem_nil ((mem_iff policy).mpr isCandidate)
  | [policy] =>
    exact .one ((mem_iff policy).mp List.mem_cons_self)
      fun other isCandidate => List.mem_singleton.mp ((mem_iff other).mpr isCandidate)
  | policy :: other :: rest =>
    refine .several ((mem_iff policy).mp List.mem_cons_self) ((mem_iff other).mp (by simp)) ?_
    rintro rfl
    exact (List.nodup_cons.mp nodup).1 List.mem_cons_self

theorem mem_assigned {db : Database} {scope : RetentionScope} {policy : RetentionPolicy} :
    policy ∈ (db.retentionPolicies.select fun policy => policy.scope = scope ∧ policy.enabled) ↔ Assigned db scope policy := by
  rw [Table.mem_select, decide_eq_true_eq]
  rfl

theorem policyDepth_iff {db : Database} {cameraId : Uuid} {policy : RetentionPolicy} {distance : Nat} :
    policyDepth (groupDepths db cameraId) policy = some distance ↔
      ∃ groupId, policy.scope = .cameraGroup groupId ∧ Distance db cameraId groupId distance ∧
        ∀ other, Distance db cameraId groupId other → distance ≤ other := by
  rw [policyDepth]
  split
  next groupId isGroup =>
    rw [leastDepths_groupDepths]
    simp [isGroup]
  next notGroup =>
    constructor
    · nofun
    · rintro ⟨groupId, isGroup, _⟩
      exact absurd isGroup (notGroup groupId)

theorem atDistance_of_policyDepth {db : Database} {cameraId : Uuid} {policy : RetentionPolicy} {distance : Nat}
    (member : policy ∈ db.retentionPolicies) (enabled : policy.enabled = true)
    (isDepth : policyDepth (groupDepths db cameraId) policy = some distance) : AtDistance db cameraId policy distance := by
  obtain ⟨groupId, isGroup, isDistance, _⟩ := policyDepth_iff.mp isDepth
  exact ⟨groupId, ⟨member, isGroup, enabled⟩, isDistance⟩

theorem policyDepth_of_atDistance {db : Database} {cameraId : Uuid} {policy : RetentionPolicy} {distance : Nat}
    (atDistance : AtDistance db cameraId policy distance) :
    ∃ least ≤ distance, policyDepth (groupDepths db cameraId) policy = some least := by
  classical
  obtain ⟨groupId, ⟨_, isGroup, _⟩, isDistance⟩ := atDistance
  have given : ∃ distance, Distance db cameraId groupId distance := ⟨distance, isDistance⟩
  exact ⟨Nat.find given, Nat.find_min' given isDistance,
    policyDepth_iff.mpr ⟨groupId, isGroup, Nat.find_spec given, fun _ => Nat.find_min' given⟩⟩

/-- The group policies of the least depth are the nearest ones. -/
theorem mem_best {db : Database} {cameraId : Uuid} {policy : RetentionPolicy} {groupPolicies : List RetentionPolicy}
    (isSelect : groupPolicies = db.retentionPolicies.select fun policy =>
      (policyDepth (groupDepths db cameraId) policy).isSome ∧ policy.enabled) :
    policy ∈ groupPolicies.filter (fun policy => groupPolicies.all fun other =>
        (policyDepth (groupDepths db cameraId) policy).getD 0 ≤ (policyDepth (groupDepths db cameraId) other).getD 0) ↔
      Nearest db cameraId policy := by
  have mem_groupPolicies (policy : RetentionPolicy) : policy ∈ groupPolicies ↔
      policy ∈ db.retentionPolicies ∧ (policyDepth (groupDepths db cameraId) policy).isSome = true ∧ policy.enabled = true := by
    rw [isSelect, Table.mem_select, decide_eq_true_eq]
  rw [List.mem_filter, List.all_eq_true]
  simp only [decide_eq_true_eq]
  constructor
  · rintro ⟨selected, isLeast⟩
    obtain ⟨member, hasDepth, enabled⟩ := (mem_groupPolicies policy).mp selected
    obtain ⟨distance, isDepth⟩ := Option.isSome_iff_exists.mp hasDepth
    refine ⟨distance, atDistance_of_policyDepth member enabled isDepth, fun other each atEach => ?_⟩
    obtain ⟨least, atMost, otherDepth⟩ := policyDepth_of_atDistance atEach
    obtain ⟨_, ⟨otherMember, _, otherEnabled⟩, _⟩ := atEach
    have before := isLeast other ((mem_groupPolicies other).mpr ⟨otherMember, by rw [otherDepth]; rfl, otherEnabled⟩)
    rw [isDepth, otherDepth, Option.getD_some, Option.getD_some] at before
    exact before.trans atMost
  · rintro ⟨distance, atDistance, isLeast⟩
    obtain ⟨least, atMost, isDepth⟩ := policyDepth_of_atDistance atDistance
    obtain ⟨_, ⟨member, _, enabled⟩, _⟩ := atDistance
    refine ⟨(mem_groupPolicies policy).mpr ⟨member, by rw [isDepth]; rfl, enabled⟩, fun other selected => ?_⟩
    obtain ⟨otherMember, hasDepth, otherEnabled⟩ := (mem_groupPolicies other).mp selected
    obtain ⟨each, otherDepth⟩ := Option.isSome_iff_exists.mp hasDepth
    rw [isDepth, otherDepth, Option.getD_some, Option.getD_some]
    exact atMost.trans (isLeast other each (atDistance_of_policyDepth otherMember otherEnabled otherDepth))

theorem nodup_select (db : Database) (p : RetentionPolicy → Bool) : (db.retentionPolicies.select p).Nodup :=
  (List.Nodup.of_map _ db.retentionPolicies.keysNodup).filter p

/-- A choice that comes to nothing leaves it to the next. -/
theorem Picks.orElse {candidates : RetentionPolicy → Prop} {code : String} {chosen : Result (Option RetentionPolicy) → Prop}
    {first rest : Result (Option RetentionPolicy)} (picks : Picks candidates code first)
    (found : first ≠ .ok .none → chosen first) (otherwise : (∀ policy, ¬candidates policy) → chosen rest) :
    chosen (do match ← first with
      | .some selected => .ok (.some selected)
      | .none => rest) := by
  cases picks with
  | none noCandidate => exact otherwise noCandidate
  | one isCandidate only => exact found nofun
  | several isCandidate otherToo differ => exact found nofun

/-- The policy of a camera is the one that is to be chosen. -/
theorem policyForCamera_chosen (db : Database) (cameraId : Uuid) : Chosen db cameraId (policyForCamera db cameraId) := by
  rw [policyForCamera]
  split
  next explicitId isExplicit =>
    split
    next explicit isPolicy =>
      obtain ⟨isRow, enabled⟩ := Option.filter_eq_some_iff.mp isPolicy
      exact .explicit isExplicit isRow enabled
    next notPolicy =>
      refine .unavailable isExplicit fun policy isRow => ?_
      rw [isRow] at notPolicy
      simpa using notPolicy
  next notExplicit =>
  have assignedPicks (scope : RetentionScope) (code : String) : Picks (Assigned db scope) code
      (singlePolicy (db.retentionPolicies.select fun policy => policy.scope = scope ∧ policy.enabled) code) :=
    picks_singlePolicy code (nodup_select db _) fun policy => mem_assigned
  refine (assignedPicks (.camera cameraId) "retention_camera_policy_ambiguous").orElse
    (fun found => Chosen.camera notExplicit (assignedPicks _ _) found) fun notCamera => ?_
  have groupPicks := picks_singlePolicy "retention_group_policy_ambiguous"
    ((nodup_select db _).filter _) fun policy => @mem_best db cameraId policy _ rfl
  exact groupPicks.orElse (fun found => .group notExplicit notCamera groupPicks found)
    fun notGroup => .global notExplicit notCamera notGroup (assignedPicks .global _)

/-! ## What the three agree on -/

open CameraGroupService CameraScopeService in
/-- No run of changes makes a cycle; a role's scope allows the cameras of the groups that it selects and of those
    below them, which are the groups with a distance from the camera; the policy is chosen by that distance; and both
    walks end, whatever the parents are. -/
theorem groups_resolved_alike :
    (∀ start changes db, Hierarchical start → Run GroupStep start changes db → Acyclic (parentById db)) ∧
    (∀ db roleId cameraId value, getScope db (.role roleId) = some value → value.mode = .selected →
      ((roleScope db roleId).allows cameraId = true ↔ cameraId ∈ value.cameraIds ∨ ∃ groupId ∈ value.cameraGroupIds,
        ∃ direct, { cameraGroupId := direct, cameraId } ∈ db.cameraGroupMembers ∧
          AncestorOrSelf (parentById db) direct groupId)) ∧
    (∀ db cameraId groupId, (∃ distance, Distance db cameraId groupId distance) ↔
      ∃ direct, { cameraGroupId := direct, cameraId } ∈ db.cameraGroupMembers ∧
        AncestorOrSelf (parentById db) direct groupId) ∧
    (∀ db cameraId, Chosen db cameraId (policyForCamera db cameraId)) ∧
    (∀ db selected, ∃ expanded, Walks (groupEdges db) selected [] expanded) ∧
    ∀ db direct depths, ∃ result, WalksUp (parentById db) recordDepth (some direct) 0 [] depths result := by
  refine ⟨fun start changes db hierarchical run => (hierarchical.run run).acyclic,
    fun db roleId cameraId value isValue isSelected => ?_, fun db cameraId groupId => exists_distance_iff,
    policyForCamera_chosen, fun db selected => ⟨_, walks_walk_start le_rfl⟩,
    fun db direct depths => ⟨_, walksUp_start db direct depths⟩⟩
  rw [roleScope_allows_iff isValue]
  exact covers_selected_iff isSelected

def sitePolicy : RetentionPolicy :=
  { id := 5, scope := .cameraGroup 1, ordinaryKeepDays := 1, eventKeepDays := 1, manualKeepDays := 1, mode := .bestEffort }

/-- A floor below a site; the camera is on the floor, the role sees the site, and the policy is for the site. -/
def siteDatabase : Database :=
  { cameraGroups := ⟨[{ id := 1, name := "site" }, { id := 2, name := "floor", parentId := some 1 }], by decide⟩
    cameraGroupMembers := ⟨[{ cameraGroupId := 2, cameraId := 7 }], by decide⟩
    principalCameraScopes := ⟨[{ principal := .role 3, scopeMode := .selected }], by decide⟩
    principalCameraScopeEntries := ⟨[{ principal := .role 3, target := .cameraGroup 1 }], by decide⟩
    retentionPolicies := ⟨[sitePolicy], by decide⟩ }

open CameraGroupService CameraScopeService in
theorem groups_resolved_alike_site :
    (∃ db changes, changes = [GroupChange.create] ∧ Run GroupStep {} changes db ∧ Acyclic (parentById db)) ∧
      (roleScope siteDatabase 3).allows 7 = true ∧ Chosen siteDatabase 7 (.ok (some sitePolicy)) := by
  have created : ∃ db group, create Supply.counting {} "site" none none [] = .ok (db, group) := ⟨_, _, rfl⟩
  obtain ⟨db, group, created⟩ := created
  have run : Run GroupStep {} [.create] db := .next (.create Supply.counting "site" none none [] group created) (.done db)
  have scope : getScope siteDatabase (.role 3) = some { mode := .selected, cameraIds := [], cameraGroupIds := [1] } := rfl
  refine ⟨⟨db, _, rfl, run, groups_resolved_alike.1 {} _ db (hierarchical_of_empty rfl) run⟩, ?_, ?_⟩
  · exact (groups_resolved_alike.2.1 siteDatabase 3 7 _ scope rfl).mpr
      (.inr ⟨1, List.mem_singleton.mpr rfl, 2, List.mem_singleton.mpr rfl, .single rfl⟩)
  · exact groups_resolved_alike.2.2.2.1 siteDatabase 7

end RetentionPlanner

end ZeroNvr
