import Mathlib

/-! # Walking a finite graph

A graph is the list of its edges.  A walk takes nodes off a stack until none is
left and puts the successors of each new one on it; it comes to the nodes that
paths from the first stack lead to.
-/

namespace ZeroNvr.Lib

variable {κ : Type} (edges : List (κ × κ))

/-- The nodes that paths from the given ones lead to. -/
def ReachableFrom (seeds : List κ) (node : κ) : Prop :=
  ∃ seed ∈ seeds, Relation.ReflTransGen (fun source target => (source, target) ∈ edges) seed node

/-- Every edge from an expanded node leads to one that is expanded or on the stack. -/
def Followed (pending expanded : List κ) : Prop :=
  ∀ source ∈ expanded, ∀ target, (source, target) ∈ edges → target ∈ expanded ∨ target ∈ pending

section Paths

variable {edges} {pending expanded : List κ} {node : κ}

theorem not_reachableFrom_nil : ¬ ReachableFrom edges [] node := fun ⟨_, inNil, _⟩ => absurd inNil List.not_mem_nil

theorem ReachableFrom.mono {seeds others : List κ} (more : ∀ seed ∈ seeds, seed ∈ others)
    (reachable : ReachableFrom edges seeds node) : ReachableFrom edges others node := by
  obtain ⟨seed, member, path⟩ := reachable
  exact ⟨seed, more seed member, path⟩

/-- Paths go along with a map that takes edges to edges. -/
theorem ReachableFrom.map {μ : Type} {images : List (μ × μ)} {f : κ → μ} {seeds : List κ}
    (along : ∀ source target, (source, target) ∈ edges → (f source, f target) ∈ images)
    (reachable : ReachableFrom edges seeds node) : ReachableFrom images (seeds.map f) (f node) := by
  obtain ⟨seed, member, path⟩ := reachable
  exact ⟨f seed, List.mem_map_of_mem member, path.lift f along⟩

/-- Paths from images come back, where every edge from an image is one of an edge. -/
theorem ReachableFrom.of_map {μ : Type} {images : List (μ × μ)} {f : κ → μ} {P : κ → Prop} {seeds : List κ} {image : μ}
    (known : ∀ seed ∈ seeds, P seed)
    (back : ∀ source, P source → ∀ target, (f source, target) ∈ images →
      ∃ node, P node ∧ f node = target ∧ (source, node) ∈ edges)
    (reachable : ReachableFrom images (seeds.map f) image) :
    ∃ node, P node ∧ f node = image ∧ ReachableFrom edges seeds node := by
  obtain ⟨start, member, path⟩ := reachable
  obtain ⟨seed, inSeeds, rfl⟩ := List.mem_map.mp member
  induction path with
  | refl => exact ⟨seed, known seed inSeeds, rfl, seed, inSeeds, .refl⟩
  | tail _ edge ih =>
    obtain ⟨node, isKnown, rfl, first, inFirst, path⟩ := ih
    obtain ⟨next, nextKnown, isNext, step⟩ := back node isKnown _ edge
    exact ⟨next, nextKnown, isNext, first, inFirst, path.tail step⟩

/-- A path from an expanded node stays with those or leaves through the stack. -/
theorem Followed.path {source : κ} (followed : Followed edges pending expanded) (member : source ∈ expanded)
    (path : Relation.ReflTransGen (fun source target => (source, target) ∈ edges) source node) :
    node ∈ expanded ∨ ReachableFrom edges pending node := by
  induction path with
  | refl => exact .inl member
  | tail _ edge ih =>
    rcases ih with isExpanded | ⟨seed, inPending, path⟩
    · exact (followed _ isExpanded _ edge).imp id fun inPending => ⟨_, inPending, .refl⟩
    · exact .inr ⟨seed, inPending, path.tail edge⟩

theorem Followed.skip (followed : Followed edges (node :: pending) expanded) (isExpanded : node ∈ expanded) :
    Followed edges pending expanded := by
  intro source member target edge
  rcases followed source member target edge with inExpanded | inPending
  · exact .inl inExpanded
  · rcases List.mem_cons.mp inPending with rfl | inPending
    · exact .inl isExpanded
    · exact .inr inPending

end Paths

variable [DecidableEq κ]

/-- The nodes an edge from the given one leads to. -/
def successors (node : κ) : List κ := edges.filterMap fun edge => if edge.1 = node then some edge.2 else none

/-- The walk, for as many steps as it has fuel. -/
def walk : Nat → List κ → List κ → List κ
  | 0, _, expanded => expanded
  | _ + 1, [], expanded => expanded
  | fuel + 1, node :: pending, expanded =>
    if node ∈ expanded then walk fuel pending expanded
    else walk fuel (successors edges node ++ pending) (node :: expanded)

/-- Each node of the stack takes a step, and so does each edge that was not followed yet. -/
def stepsLeft (pending expanded : List κ) : Nat :=
  pending.length + (edges.filter fun edge => edge.1 ∉ expanded).length

variable {edges} {pending expanded : List κ} {node : κ}

theorem mem_successors {source target : κ} : target ∈ successors edges source ↔ (source, target) ∈ edges := by
  unfold successors
  rw [List.mem_filterMap]
  constructor
  · rintro ⟨⟨source', target'⟩, member, isEdge⟩
    split at isEdge
    next same =>
      cases isEdge
      exact same ▸ member
    next => cases isEdge
  · exact fun member => ⟨_, member, if_pos rfl⟩

theorem length_successors : (successors edges node).length = (edges.filter fun edge => edge.1 = node).length := by
  unfold successors
  induction edges with
  | nil => rfl
  | cons edge edges ih =>
    by_cases same : edge.1 = node
    · simp [same, ih]
    · simp [same, ih]

/-- The edges that were not followed: those of the node that is expanded now, and the others. -/
theorem length_unfollowed (isNew : node ∉ expanded) : (edges.filter fun edge => edge.1 ∉ expanded).length =
    (edges.filter fun edge => edge.1 = node).length + (edges.filter fun edge => edge.1 ∉ node :: expanded).length := by
  simp only [List.mem_cons, not_or, Bool.decide_and, decide_not]
  induction edges with
  | nil => rfl
  | cons edge edges ih =>
    by_cases same : edge.1 = node
    · simp only [same, isNew, decide_true, decide_false, Bool.not_true, Bool.not_false, Bool.false_and,
        List.filter_cons_of_pos, List.length_cons, List.filter_cons, ih]
      simp only [Bool.false_eq_true, if_false]
      omega
    · by_cases isExpanded : edge.1 ∈ expanded
      · simp [same, isExpanded, ih]
      · simp [same, isExpanded, ih]
        omega

/-- Expanding a node takes exactly one step. -/
theorem stepsLeft_expand (isNew : node ∉ expanded) :
    stepsLeft edges (successors edges node ++ pending) (node :: expanded) + 1 =
      stepsLeft edges (node :: pending) expanded := by
  unfold stepsLeft
  rw [List.length_append, List.length_cons, length_successors, length_unfollowed isNew]
  omega

theorem stepsLeft_skip : stepsLeft edges pending expanded + 1 = stepsLeft edges (node :: pending) expanded := by
  unfold stepsLeft
  rw [List.length_cons]
  omega

theorem Followed.expand (followed : Followed edges (node :: pending) expanded) :
    Followed edges (successors edges node ++ pending) (node :: expanded) := by
  intro source member target edge
  rcases List.mem_cons.mp member with rfl | isExpanded
  · exact .inr (List.mem_append_left _ (mem_successors.mpr edge))
  · rcases followed source isExpanded target edge with inExpanded | inPending
    · exact .inl (List.mem_cons_of_mem _ inExpanded)
    · rcases List.mem_cons.mp inPending with rfl | inPending
      · exact .inl List.mem_cons_self
      · exact .inr (List.mem_append_right _ inPending)

/-- With a step for everything left, the walk comes to the nodes it has expanded and to what paths from the
    stack lead to. -/
theorem mem_walk {fuel : Nat} (enough : stepsLeft edges pending expanded ≤ fuel)
    (followed : Followed edges pending expanded) :
    node ∈ walk edges fuel pending expanded ↔ node ∈ expanded ∨ ReachableFrom edges pending node := by
  induction fuel generalizing pending expanded with
  | zero =>
    cases pending with
    | nil => exact (or_iff_left not_reachableFrom_nil).symm
    | cons first pending => exact absurd enough (by unfold stepsLeft; simp)
  | succ fuel ih =>
    cases pending with
    | nil => exact (or_iff_left not_reachableFrom_nil).symm
    | cons first pending =>
      rw [walk]
      split
      next isExpanded =>
        have left := @stepsLeft_skip _ edges _ pending expanded first
        have enough' : stepsLeft edges pending expanded ≤ fuel := by omega
        rw [ih enough' (followed.skip isExpanded)]
        refine ⟨Or.imp id (.mono fun _ => List.mem_cons_of_mem _), fun reached => reached.elim .inl ?_⟩
        rintro ⟨seed, member, path⟩
        rcases List.mem_cons.mp member with rfl | inPending
        · exact (followed.skip isExpanded).path isExpanded path
        · exact .inr ⟨seed, inPending, path⟩
      next isNew =>
        have left := @stepsLeft_expand _ edges _ pending expanded first isNew
        have enough' : stepsLeft edges (successors edges first ++ pending) (first :: expanded) ≤ fuel := by omega
        rw [ih enough' followed.expand]
        constructor
        · rintro (isNode | ⟨seed, member, path⟩)
          · rcases List.mem_cons.mp isNode with rfl | isExpanded
            · exact .inr ⟨node, List.mem_cons_self, .refl⟩
            · exact .inl isExpanded
          · rcases List.mem_append.mp member with isSuccessor | inPending
            · exact .inr ⟨first, List.mem_cons_self, .head (mem_successors.mp isSuccessor) path⟩
            · exact .inr ⟨seed, List.mem_cons_of_mem _ inPending, path⟩
        · rintro (isExpanded | ⟨seed, member, path⟩)
          · exact .inl (List.mem_cons_of_mem _ isExpanded)
          · rcases List.mem_cons.mp member with rfl | inPending
            · exact followed.expand.path List.mem_cons_self path
            · exact .inr ⟨seed, List.mem_append_right _ inPending, path⟩

/-- A walk from a stack, with a step for each node of it and each edge. -/
theorem mem_walk_start {seeds : List κ} {fuel : Nat} (enough : seeds.length + edges.length ≤ fuel) :
    node ∈ walk edges fuel seeds [] ↔ ReachableFrom edges seeds node := by
  have left : stepsLeft edges seeds [] ≤ fuel := by
    unfold stepsLeft
    have := List.length_filter_le (fun edge => decide (edge.1 ∉ ([] : List κ))) edges
    omega
  rw [mem_walk left nofun]
  exact or_iff_right List.not_mem_nil

/-- The loop of the walk, from a stack and what is expanded to what is expanded at its end. -/
inductive Walks (edges : List (κ × κ)) : List κ → List κ → List κ → Prop
  | done (expanded : List κ) : Walks edges [] expanded expanded
  | skip {node : κ} {pending expanded result : List κ} (isExpanded : node ∈ expanded)
      (rest : Walks edges pending expanded result) : Walks edges (node :: pending) expanded result
  | expand {node : κ} {pending expanded result : List κ} (isNew : node ∉ expanded)
      (rest : Walks edges (successors edges node ++ pending) (node :: expanded) result) :
    Walks edges (node :: pending) expanded result

/-- With a step for everything left, the loop comes to its end. -/
theorem walks_walk {fuel : Nat} (enough : stepsLeft edges pending expanded ≤ fuel) :
    Walks edges pending expanded (walk edges fuel pending expanded) := by
  induction fuel generalizing pending expanded with
  | zero =>
    cases pending with
    | nil => exact .done _
    | cons first pending => exact absurd enough (by unfold stepsLeft; simp)
  | succ fuel ih =>
    cases pending with
    | nil => exact .done _
    | cons first pending =>
      rw [walk]
      split
      next isExpanded =>
        have left := @stepsLeft_skip _ edges _ pending expanded first
        exact .skip isExpanded (ih (by omega))
      next isNew =>
        have left := @stepsLeft_expand _ edges _ pending expanded first isNew
        exact .expand isNew (ih (by omega))

theorem walks_walk_start {seeds : List κ} {fuel : Nat} (enough : seeds.length + edges.length ≤ fuel) :
    Walks edges seeds [] (walk edges fuel seeds []) := by
  refine walks_walk ?_
  unfold stepsLeft
  have := List.length_filter_le (fun edge => decide (edge.1 ∉ ([] : List κ))) edges
  omega

end ZeroNvr.Lib
