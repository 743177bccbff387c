import Mathlib

/-! # Hierarchies

A hierarchy is a partial function to the parent.  Giving a node a parent that it
is no ancestor of makes no cycle.  A walk from a node to its ancestors stops at
the top or where it has been; walks from several nodes leave each ancestor its
least distance.
-/

namespace ZeroNvr.Lib

variable {κ : Type}

/-- The second node is the parent of the first. -/
def ParentOf (parent : κ → Option κ) (child above : κ) : Prop := parent child = some above

def AncestorOrSelf (parent : κ → Option κ) : κ → κ → Prop := Relation.ReflTransGen (ParentOf parent)

/-- No node is above itself. -/
def Acyclic (parent : κ → Option κ) : Prop := ∀ node, ¬Relation.TransGen (ParentOf parent) node node

/-- The second node is so many steps above the first. -/
def Above (parent : κ → Option κ) : κ → Nat → κ → Prop
  | node, 0, above => node = above
  | node, steps + 1, above => ∃ next, parent node = some next ∧ Above parent next steps above

theorem ancestorOrSelf_iff {parent : κ → Option κ} {node above : κ} :
    AncestorOrSelf parent node above ↔ ∃ steps, Above parent node steps above := by
  constructor
  · intro path
    induction path using Relation.ReflTransGen.head_induction_on with
    | refl => exact ⟨0, rfl⟩
    | head step _ ih =>
      obtain ⟨steps, path⟩ := ih
      exact ⟨steps + 1, _, step, path⟩
  · rintro ⟨steps, path⟩
    induction steps generalizing node with
    | zero => exact path ▸ .refl
    | succ steps ih =>
      obtain ⟨next, step, rest⟩ := path
      exact .head step (ih rest)

/-! ## Cycles -/

/-- Fewer nodes with a parent make no new cycle. -/
theorem Acyclic.mono {parent other : κ → Option κ} (acyclic : Acyclic parent)
    (fewer : ∀ node above, other node = some above → parent node = some above) : Acyclic other :=
  fun node cycle => acyclic node (Relation.TransGen.mono fewer node node cycle)

/-- Among finitely many nodes there is one whose parent is none of them. -/
theorem Acyclic.exists_top {parent : κ → Option κ} (acyclic : Acyclic parent) {nodes : List κ} (nonempty : nodes ≠ []) :
    ∃ node ∈ nodes, ∀ above, parent node = some above → above ∉ nodes := by
  obtain ⟨first, member⟩ := List.exists_mem_of_ne_nil nodes nonempty
  -- being above is a strict order, so it is well-founded on the nodes
  let IsAbove (above node : { node // node ∈ nodes }) : Prop := Relation.TransGen (ParentOf parent) node.1 above.1
  have : Finite { node // node ∈ nodes } := List.finite_toSet nodes
  have : IsTrans _ IsAbove := ⟨fun _ _ _ upper lower => lower.trans upper⟩
  have : Std.Irrefl IsAbove := ⟨fun node => acyclic node.1⟩
  obtain ⟨top, -, isTop⟩ := (Finite.wellFounded_of_trans_of_irrefl IsAbove).has_min Set.univ ⟨⟨first, member⟩, trivial⟩
  refine ⟨top.1, top.2, fun above isParent inNodes => ?_⟩
  exact isTop ⟨above, inNodes⟩ trivial (.single isParent)

variable [DecidableEq κ]

/-- A path of the new hierarchy to the moved node has one of the old. -/
theorem ancestorOrSelf_of_update {parent other : κ → Option κ} {moved node : κ}
    (same : ∀ node, node ≠ moved → other node = parent node) (path : AncestorOrSelf other node moved) :
    AncestorOrSelf parent node moved := by
  induction path using Relation.ReflTransGen.head_induction_on with
  | refl => exact .refl
  | @head node next step _ ih =>
    by_cases isMoved : node = moved
    · subst isMoved
      exact .refl
    · exact .head ((same node isMoved).symm.trans step) ih

/-- A path of the new hierarchy is one of the old, or leads on from the moved node. -/
theorem transGen_of_update {parent other : κ → Option κ} {moved node last : κ}
    (same : ∀ node, node ≠ moved → other node = parent node) (path : Relation.TransGen (ParentOf other) node last) :
    Relation.TransGen (ParentOf parent) node last ∨
      AncestorOrSelf other node moved ∧ Relation.TransGen (ParentOf other) moved last := by
  induction path with
  | single step =>
    by_cases isMoved : node = moved
    · subst isMoved
      exact .inr ⟨.refl, .single step⟩
    · exact .inl (.single ((same node isMoved).symm.trans step))
  | @tail middle last path step ih =>
    rcases ih with old | ⟨before, after⟩
    · by_cases isMoved : middle = moved
      · subst isMoved
        exact .inr ⟨path.to_reflTransGen, .single step⟩
      · exact .inl (.tail old ((same middle isMoved).symm.trans step))
    · exact .inr ⟨before, after.tail step⟩

/-- Moving a node below one that it is not above makes no cycle. -/
theorem acyclic_update {parent other : κ → Option κ} {moved : κ} (acyclic : Acyclic parent)
    (same : ∀ node, node ≠ moved → other node = parent node)
    (notAbove : ∀ above, other moved = some above → ¬AncestorOrSelf parent above moved) : Acyclic other := by
  intro node cycle
  rcases transGen_of_update same cycle with old | ⟨before, after⟩
  · exact acyclic node old
  · obtain ⟨above, step, rest⟩ := Relation.TransGen.head'_iff.mp (after.trans_left before)
    exact notAbove above step (ancestorOrSelf_of_update same rest)

/-! ## Walking up -/

/-- The loop from a node to its ancestors, with what it has visited and the depths it has recorded. -/
inductive WalksUp (parent : κ → Option κ) (record : List (κ × Nat) → κ → Nat → List (κ × Nat)) :
    Option κ → Nat → List κ → List (κ × Nat) → List (κ × Nat) → Prop
  | top (depth : Nat) (visited : List κ) (depths : List (κ × Nat)) : WalksUp parent record none depth visited depths depths
  | seen {current : κ} {depth : Nat} {visited : List κ} {depths : List (κ × Nat)} (isVisited : current ∈ visited) :
    WalksUp parent record (some current) depth visited depths depths
  | up {current : κ} {depth : Nat} {visited : List κ} {depths result : List (κ × Nat)} (isNew : current ∉ visited)
      (rest : WalksUp parent record (parent current) (depth + 1) (current :: visited) (record depths current depth) result) :
    WalksUp parent record (some current) depth visited depths result

/-- The recorded depths are the least of some that are given by a relation. -/
def LeastDepths (given : κ → Nat → Prop) (depths : List (κ × Nat)) : Prop :=
  ∀ node depth, depths.lookup node = some depth ↔ given node depth ∧ ∀ other, given node other → depth ≤ other

omit [DecidableEq κ] in
theorem least_congr {given other : κ → Nat → Prop} (more : ∀ node depth, given node depth → other node depth)
    (covered : ∀ node depth, other node depth → ∃ less ≤ depth, given node less) (node : κ) (depth : Nat) :
    (given node depth ∧ ∀ each, given node each → depth ≤ each) ↔
      other node depth ∧ ∀ each, other node each → depth ≤ each := by
  constructor
  · rintro ⟨isGiven, isLeast⟩
    refine ⟨more node depth isGiven, fun each isOther => ?_⟩
    obtain ⟨less, atMost, isLess⟩ := covered node each isOther
    exact (isLeast less isLess).trans atMost
  · rintro ⟨isOther, isLeast⟩
    obtain ⟨less, atMost, isLess⟩ := covered node depth isOther
    have same : less = depth := le_antisymm atMost (isLeast less (more node less isLess))
    exact ⟨same ▸ isLess, fun each isGiven => isLeast each (more node each isGiven)⟩

theorem LeastDepths.congr {given other : κ → Nat → Prop} {depths : List (κ × Nat)} (least : LeastDepths given depths)
    (more : ∀ node depth, given node depth → other node depth)
    (covered : ∀ node depth, other node depth → ∃ less ≤ depth, given node less) : LeastDepths other depths :=
  fun node depth => (least node depth).trans (least_congr more covered node depth)

section Walks

variable {parent : κ → Option κ} {record : List (κ × Nat) → κ → Nat → List (κ × Nat)}

/-- What recording a depth has to do. -/
def Records (record : List (κ × Nat) → κ → Nat → List (κ × Nat)) : Prop :=
  ∀ given depths current depth, LeastDepths given depths →
    LeastDepths (fun node each => given node each ∨ node = current ∧ each = depth) (record depths current depth)

/-- The depths above the node where a loop stands. -/
def AboveFrom (parent : κ → Option κ) (current : Option κ) (depth : Nat) (node : κ) (each : Nat) : Prop :=
  ∃ start steps, current = some start ∧ Above parent start steps node ∧ each = depth + steps

/-- A walk records what is above the node it starts from, as long as what it has visited is recorded and leads
    to the node or to what it has visited. -/
theorem WalksUp.least (records : Records record) {current : Option κ} {depth : Nat} {visited : List κ}
    {depths result : List (κ × Nat)} (walk : WalksUp parent record current depth visited depths result)
    {given : κ → Nat → Prop} (least : LeastDepths given depths)
    (recorded : ∀ node ∈ visited, ∃ less < depth, given node less)
    (closed : ∀ node ∈ visited, parent node = current ∨ ∃ next ∈ visited, parent node = some next) :
    LeastDepths (fun node each => given node each ∨ AboveFrom parent current depth node each) result := by
  induction walk generalizing given with
  | top depth visited depths =>
    refine least.congr (fun node each => .inl) fun node each isGiven => ?_
    rcases isGiven with isGiven | ⟨_, _, isSome, _⟩
    · exact ⟨each, le_rfl, isGiven⟩
    · cases isSome
  | @seen current depth visited depths isVisited =>
    -- what is above a visited node has been visited
    have inVisited : ∀ steps node above, node ∈ visited → Above parent node steps above → above ∈ visited := by
      intro steps
      induction steps with
      | zero => exact fun node above member isSelf => isSelf ▸ member
      | succ steps ih =>
        rintro node above member ⟨next, isParent, rest⟩
        rcases closed node member with isCurrent | ⟨other, otherVisited, isOther⟩
        · rw [isParent] at isCurrent
          exact ih next above (Option.some.inj isCurrent ▸ isVisited) rest
        · rw [isParent] at isOther
          exact ih next above (Option.some.inj isOther ▸ otherVisited) rest
    refine least.congr (fun node each => .inl) fun node each isGiven => ?_
    rcases isGiven with isGiven | ⟨start, steps, isStart, isAbove, rfl⟩
    · exact ⟨each, le_rfl, isGiven⟩
    · obtain ⟨less, before, isLess⟩ := recorded node (inVisited steps current node isVisited (Option.some.inj isStart ▸ isAbove))
      exact ⟨less, by omega, isLess⟩
  | @up current depth visited depths result isNew rest ih =>
    have next := ih (records given depths current depth least) (fun node member => ?_) (fun node member => ?_)
    · refine next.congr (fun node each isGiven => ?_) fun node each isGiven => ⟨each, le_rfl, ?_⟩
      · rcases isGiven with (isGiven | ⟨rfl, rfl⟩) | ⟨start, steps, isStart, isAbove, rfl⟩
        · exact .inl isGiven
        · exact .inr ⟨node, 0, rfl, rfl, rfl⟩
        · exact .inr ⟨current, steps + 1, rfl, ⟨start, isStart, isAbove⟩, by omega⟩
      · rcases isGiven with isGiven | ⟨start, steps, isStart, isAbove, rfl⟩
        · exact .inl (.inl isGiven)
        · cases isStart
          cases steps with
          | zero => exact .inl (.inr ⟨isAbove.symm, rfl⟩)
          | succ steps =>
            obtain ⟨next, isParent, isAbove⟩ := isAbove
            exact .inr ⟨next, steps, isParent, isAbove, by omega⟩
    · rcases List.mem_cons.mp member with rfl | isVisited
      · exact ⟨depth, Nat.lt_succ_self _, .inr ⟨rfl, rfl⟩⟩
      · obtain ⟨less, before, isLess⟩ := recorded node isVisited
        exact ⟨less, by omega, .inl isLess⟩
    · rcases List.mem_cons.mp member with rfl | isVisited
      · exact .inl rfl
      · rcases closed node isVisited with isCurrent | ⟨other, otherVisited, isOther⟩
        · exact .inr ⟨current, List.mem_cons_self, isCurrent⟩
        · exact .inr ⟨other, List.mem_cons_of_mem _ otherVisited, isOther⟩

/-- A walk from a node that has visited nothing. -/
theorem WalksUp.least_start (records : Records record) {start : κ} {depths result : List (κ × Nat)}
    (walk : WalksUp parent record (some start) 0 [] depths result) {given : κ → Nat → Prop}
    (least : LeastDepths given depths) :
    LeastDepths (fun node each => given node each ∨ Above parent start each node) result := by
  refine (walk.least records least (fun _ member => (by cases member)) (fun _ member => (by cases member))).congr
    (fun node each isGiven => ?_) fun node each isGiven => ⟨each, le_rfl, ?_⟩
  · rcases isGiven with isGiven | ⟨first, steps, isFirst, isAbove, rfl⟩
    · exact .inl isGiven
    · cases isFirst
      exact .inr (by rwa [Nat.zero_add])
  · exact isGiven.imp id fun isAbove => ⟨start, each, rfl, isAbove, (Nat.zero_add each).symm⟩

end Walks

end ZeroNvr.Lib
