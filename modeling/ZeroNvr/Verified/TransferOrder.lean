import ZeroNvr.Core.Transfer

/-! # Parents before children

The sweeps end, and they raise exactly when some chain of parents has no end in
the list.  A row whose parent was ordered before follows it; but the keys of the
rows without a parent are known from the start, so their children need not wait
for them.
-/

namespace ZeroNvr.DatabaseTransferService

variable {κ : Type} {localName remoteName : String} {table : TableSchema}
  {rows remaining ordered : List (TransferRow κ)} {row : TransferRow κ} {known : List (Option κ)}

/-- The value of the local column is the key of the other row. -/
def IsParent (localName remoteName : String) (parent row : TransferRow κ) : Prop :=
  ∃ key, row localName = some key ∧ parent remoteName = some key

/-- The chain of parents ends in the list. -/
inductive Rooted (localName remoteName : String) (rows : List (TransferRow κ)) : TransferRow κ → Prop
  | root {row : TransferRow κ} (member : row ∈ rows) (isRoot : row localName = none) :
      Rooted localName remoteName rows row
  | child {row parent : TransferRow κ} (member : row ∈ rows) (rooted : Rooted localName remoteName rows parent)
      (isParent : IsParent localName remoteName parent row) : Rooted localName remoteName rows row

/-- The remote column is a key of the table. -/
structure KeyColumn (remoteName : String) (rows : List (TransferRow κ)) : Prop where
  present : ∀ row ∈ rows, (row remoteName).isSome
  distinct : rows.Pairwise fun earlier later => earlier remoteName ≠ later remoteName

/-- Every row with a parent comes after it. -/
def ParentsFirst (localName remoteName : String) (ordered : List (TransferRow κ)) : Prop :=
  ∀ before row after, ordered = before ++ row :: after → ∀ key, row localName = some key →
    ∃ parent ∈ before, parent remoteName = some key

/-- No row comes before its parent, where that has no parent itself. -/
def RootsFirst (localName remoteName : String) (rows : List (TransferRow κ)) : Prop :=
  rows.Pairwise fun earlier later => ¬ (later localName = none ∧ IsParent localName remoteName later earlier)

theorem Rooted.mem (rooted : Rooted localName remoteName rows row) : row ∈ rows := by
  cases rooted with
  | root member _ => exact member
  | child member _ _ => exact member

/-! ## Parents that were ordered -/

theorem ParentsFirst.shortened {whole : List (TransferRow κ)} (first : ParentsFirst localName remoteName whole)
    (isPrefix : ordered <+: whole) : ParentsFirst localName remoteName ordered := by
  obtain ⟨rest, rfl⟩ := isPrefix
  intro before row after split key isLocal
  exact first before row (after ++ rest) (by rw [split, List.append_assoc, List.cons_append]) key isLocal

theorem ParentsFirst.concat (first : ParentsFirst localName remoteName ordered)
    (parent : ∀ key, row localName = some key → ∃ parent ∈ ordered, parent remoteName = some key) :
    ParentsFirst localName remoteName (ordered ++ [row]) := by
  intro before other after split key isLocal
  rcases List.eq_nil_or_concat after with rfl | ⟨rest, last, rfl⟩
  · obtain ⟨rfl, same⟩ := List.append_inj' split rfl
    cases same
    exact parent key isLocal
  · rw [List.concat_eq_append, ← List.cons_append, ← List.append_assoc] at split
    exact first before other rest (List.append_inj' split rfl).1 key isLocal

/-- A row that follows its parent does not come before it as well. -/
theorem ParentsFirst.pairwise (first : ParentsFirst localName remoteName ordered)
    (distinct : ordered.Pairwise fun earlier later => earlier remoteName ≠ later remoteName) :
    ordered.Pairwise fun earlier later => ¬ IsParent localName remoteName later earlier := by
  induction ordered using List.reverseRecOn with
  | nil => exact .nil
  | append_singleton ordered last ih =>
    obtain ⟨distinctRest, _, apart⟩ := List.pairwise_append.mp distinct
    refine List.pairwise_append.mpr ⟨ih (first.shortened (List.prefix_append _ _)) distinctRest,
      List.pairwise_singleton _ _, fun row member other isLast => ?_⟩
    rw [List.mem_singleton.mp isLast]
    rintro ⟨key, isLocal, isKey⟩
    obtain ⟨before, after, rfl⟩ := List.append_of_mem member
    obtain ⟨parent, isBefore, isParent⟩ := first before row (after ++ [last])
      (by rw [List.append_assoc, List.cons_append]) key isLocal
    exact apart parent (List.mem_append_left _ isBefore) last List.mem_cons_self (isParent.trans isKey.symm)

/-! ## Where the sweeps are -/

/-- Where the sweeps are: every row is ordered or left, and the keys of the roots and of the ordered rows
    are known. -/
structure Sorting (localName remoteName : String) (rows : List (TransferRow κ)) (known : List (Option κ))
    (remaining ordered : List (TransferRow κ)) : Prop where
  perm : (ordered ++ remaining).Perm rows
  known : ∀ key, key ∈ known ↔ key ∈ rootKeys localName remoteName rows ∨ ∃ row ∈ ordered, row remoteName = key
  rooted : ∀ row ∈ ordered, Rooted localName remoteName rows row

theorem mem_rootKeys {key : Option κ} : key ∈ rootKeys localName remoteName rows ↔
    ∃ root ∈ rows, root localName = none ∧ root remoteName = key := by
  unfold rootKeys
  simp only [List.mem_map, List.mem_filter, decide_eq_true_eq, and_assoc]

theorem Sorting.start (rows : List (TransferRow κ)) :
    Sorting localName remoteName rows (rootKeys localName remoteName rows) rows [] :=
  ⟨.refl _, fun key => by simp, nofun⟩

theorem Sorting.done (sorting : Sorting localName remoteName rows known [] ordered) :
    ordered.Perm rows ∧ ∀ row ∈ rows, Rooted localName remoteName rows row := by
  have perm := sorting.perm
  rw [List.append_nil] at perm
  exact ⟨perm, fun row member => sorting.rooted row (perm.mem_iff.mpr member)⟩

theorem Sorting.sound (sorting : Sorting localName remoteName rows known remaining ordered) (key : κ)
    (isKnown : some key ∈ known) : ∃ parent, Rooted localName remoteName rows parent ∧ parent remoteName = some key := by
  rcases (sorting.known _).mp isKnown with isRoot | ⟨row, member, isKey⟩
  · obtain ⟨root, member, isRoot, isKey⟩ := mem_rootKeys.mp isRoot
    exact ⟨root, .root member isRoot, isKey⟩
  · exact ⟨row, sorting.rooted row member, isKey⟩

/-- A row that is left and has a root leads to one that can be ordered. -/
theorem Sorting.ready (sorting : Sorting localName remoteName rows known remaining ordered)
    (rooted : Rooted localName remoteName rows row) (member : row ∈ remaining) :
    ∃ ready ∈ remaining, ready localName = none ∨ ready localName ∈ known := by
  induction rooted with
  | root _ isRoot => exact ⟨_, member, .inl isRoot⟩
  | @child row parent _ rooted isParent ih =>
    obtain ⟨key, isLocal, isKey⟩ := isParent
    rcases List.mem_append.mp (sorting.perm.mem_iff.mpr rooted.mem) with isOrdered | isLeft
    · exact ⟨row, member, .inr (by rw [isLocal]; exact (sorting.known _).mpr (.inr ⟨parent, isOrdered, isKey⟩))⟩
    · exact ih isLeft

variable [DecidableEq κ]

/-! ## One sweep -/

theorem sweep_perm (known : List (Option κ)) (remaining : List (TransferRow κ)) :
    ((sweep localName remoteName known remaining).ordered ++
      (sweep localName remoteName known remaining).nextRemaining).Perm remaining := by
  induction remaining generalizing known with
  | nil => exact .refl _
  | cons row remaining ih =>
    rw [sweep]
    split
    next => exact (ih (row remoteName :: known)).cons row
    next => exact List.perm_middle.trans ((ih known).cons row)

theorem sweep_sublist (known : List (Option κ)) (remaining : List (TransferRow κ)) :
    (sweep localName remoteName known remaining).nextRemaining.Sublist remaining := by
  induction remaining generalizing known with
  | nil => exact .refl _
  | cons row remaining ih =>
    rw [sweep]
    split
    next => exact (ih (row remoteName :: known)).cons row
    next => exact (ih known).cons_cons row

theorem mem_sweep_known {key : Option κ} :
    key ∈ (sweep localName remoteName known remaining).known ↔
      key ∈ known ∨ ∃ row ∈ (sweep localName remoteName known remaining).ordered, row remoteName = key := by
  induction remaining generalizing known with
  | nil => simp [sweep]
  | cons row remaining ih =>
    rw [sweep]
    split
    next =>
      dsimp only
      rw [ih, List.mem_cons, List.exists_mem_cons_iff]
      constructor
      · rintro ((rfl | isKnown) | later)
        · exact .inr (.inl rfl)
        · exact .inl isKnown
        · exact .inr (.inr later)
      · rintro (isKnown | rfl | later)
        · exact .inl (.inr isKnown)
        · exact .inl (.inl rfl)
        · exact .inr later
    next => exact ih

/-- A sweep that orders nothing has found no row to order. -/
theorem not_ready_of_sweep_empty (nothing : (sweep localName remoteName known remaining).ordered = [])
    (member : row ∈ remaining) : row localName ≠ none ∧ row localName ∉ known := by
  induction remaining with
  | nil => cases member
  | cons first remaining ih =>
    rw [sweep] at nothing
    split at nothing
    next => cases nothing
    next notReady =>
      rcases List.mem_cons.mp member with rfl | inRest
      · exact not_or.mp notReady
      · exact ih nothing inRest

/-- What a sweep orders has a root, if what is known does. -/
theorem sweep_rooted (members : ∀ row ∈ remaining, row ∈ rows)
    (sound : ∀ key, some key ∈ known → ∃ parent, Rooted localName remoteName rows parent ∧ parent remoteName = some key) :
    ∀ row ∈ (sweep localName remoteName known remaining).ordered, Rooted localName remoteName rows row := by
  induction remaining generalizing known with
  | nil => exact fun row inNil => absurd inNil List.not_mem_nil
  | cons first remaining ih =>
    have membersRest : ∀ row ∈ remaining, row ∈ rows := fun row member => members row (List.mem_cons_of_mem _ member)
    rw [sweep]
    split
    next ready =>
      have rooted : Rooted localName remoteName rows first := by
        have member := members first List.mem_cons_self
        cases isLocal : first localName with
        | none => exact .root member isLocal
        | some key =>
          rw [isLocal] at ready
          obtain ⟨parent, rooted, isKey⟩ := sound key (ready.resolve_left nofun)
          exact .child member rooted ⟨key, isLocal, isKey⟩
      intro row member
      rcases List.mem_cons.mp member with rfl | inRest
      · exact rooted
      · refine ih membersRest (fun key isKnown => ?_) row inRest
        rcases List.mem_cons.mp isKnown with isFirst | isKnown
        · exact ⟨first, rooted, isFirst.symm⟩
        · exact sound key isKnown
    next => exact ih membersRest sound

/-! ## The sweeps -/

theorem Sorting.next (sorting : Sorting localName remoteName rows known remaining ordered) :
    Sorting localName remoteName rows (sweep localName remoteName known remaining).known
      (sweep localName remoteName known remaining).nextRemaining
      (ordered ++ (sweep localName remoteName known remaining).ordered) := by
  refine ⟨?_, fun key => ?_, fun row member => ?_⟩
  · rw [List.append_assoc]
    exact ((sweep_perm known remaining).append_left ordered).trans sorting.perm
  · rw [mem_sweep_known, sorting.known]
    simp only [List.mem_append, or_and_right, exists_or, or_assoc]
  · rcases List.mem_append.mp member with before | isNew
    · exact sorting.rooted row before
    · refine sweep_rooted (fun row member => ?_) sorting.sound row isNew
      exact sorting.perm.subset (List.mem_append_right _ member)

/-- The sweeps end with every row in place, or raise because a row has no root. -/
theorem Sorting.ends (table : TableSchema) {fuel : Nat} (sorting : Sorting localName remoteName rows known remaining ordered)
    (enough : remaining.length ≤ fuel) :
    (∃ out, sweeps localName remoteName table fuel known remaining ordered = .ok out ∧ ordered <+: out ∧
      out.Perm rows ∧ ∀ row ∈ rows, Rooted localName remoteName rows row) ∨
    (sweeps localName remoteName table fuel known remaining ordered = .error (cycleError table) ∧
      ∃ row ∈ rows, ¬ Rooted localName remoteName rows row) := by
  induction fuel generalizing known remaining ordered with
  | zero =>
    obtain rfl : remaining = [] := List.eq_nil_of_length_eq_zero (Nat.le_zero.mp enough)
    exact .inl ⟨ordered, by rw [sweeps], List.prefix_refl _, sorting.done⟩
  | succ fuel ih =>
    cases remaining with
    | nil => exact .inl ⟨ordered, by rw [sweeps], List.prefix_refl _, sorting.done⟩
    | cons first remaining =>
      have perm := @sweep_perm _ localName remoteName _ known (first :: remaining)
      rw [sweeps]
      by_cases isStuck : (sweep localName remoteName known (first :: remaining)).ordered.isEmpty = true
      · refine .inr ⟨if_pos isStuck, first, sorting.perm.subset (List.mem_append_right _ List.mem_cons_self), ?_⟩
        intro rooted
        obtain ⟨ready, member, isReady⟩ := sorting.ready rooted List.mem_cons_self
        obtain ⟨notRoot, unknown⟩ := not_ready_of_sweep_empty (List.isEmpty_iff.mp isStuck) member
        exact isReady.elim notRoot unknown
      · have fewer : (sweep localName remoteName known (first :: remaining)).nextRemaining.length ≤ fuel := by
          have lengths := perm.length_eq
          have some_ := List.length_pos_iff.mpr fun isNil => isStuck (List.isEmpty_iff.mpr isNil)
          rw [List.length_append] at lengths
          omega
        rcases ih sorting.next fewer with ⟨out, done, isPrefix, isOut⟩ | ⟨failed, unrooted⟩
        · exact .inl ⟨out, (if_neg isStuck).trans done, (List.prefix_append _ _).trans isPrefix, isOut⟩
        · exact .inr ⟨(if_neg isStuck).trans failed, unrooted⟩

/-! ## Roots in front -/

/-- With the roots in front, whatever a sweep orders follows its parent. -/
theorem sweep_parentsFirst (first : ParentsFirst localName remoteName ordered)
    (roots : RootsFirst localName remoteName remaining)
    (ahead : ∀ key, some key ∈ known → (∃ parent ∈ ordered, parent remoteName = some key) ∨
      ∃ root ∈ remaining, root localName = none ∧ root remoteName = some key) :
    ParentsFirst localName remoteName (ordered ++ (sweep localName remoteName known remaining).ordered) ∧
      ∀ key, some key ∈ (sweep localName remoteName known remaining).known →
        ∃ parent ∈ ordered ++ (sweep localName remoteName known remaining).ordered, parent remoteName = some key := by
  induction remaining generalizing known ordered with
  | nil =>
    rw [sweep, List.append_nil]
    exact ⟨first, fun key isKnown => (ahead key isKnown).elim id fun ⟨_, inNil, _⟩ => absurd inNil List.not_mem_nil⟩
  | cons row remaining ih =>
    obtain ⟨rowFirst, rootsRest⟩ := List.pairwise_cons.mp roots
    rw [sweep]
    split
    next ready =>
      dsimp only
      have parentOrdered (key : κ) (isLocal : row localName = some key) :
          ∃ parent ∈ ordered, parent remoteName = some key := by
        rw [isLocal] at ready
        rcases ahead key (ready.resolve_left nofun) with isOrdered | ⟨root, member, isRoot, isKey⟩
        · exact isOrdered
        · rcases List.mem_cons.mp member with rfl | inRest
          · cases isLocal.symm.trans isRoot
          · exact absurd ⟨isRoot, key, isLocal, isKey⟩ (rowFirst root inRest)
      have step := @ih (ordered ++ [row]) (row remoteName :: known) (first.concat parentOrdered) rootsRest
        fun key isKnown => by
          rcases List.mem_cons.mp isKnown with isRow | isKnown
          · exact .inl ⟨row, List.mem_append_right _ List.mem_cons_self, isRow.symm⟩
          · rcases ahead key isKnown with ⟨parent, member, isKey⟩ | ⟨root, member, isRoot, isKey⟩
            · exact .inl ⟨parent, List.mem_append_left _ member, isKey⟩
            · rcases List.mem_cons.mp member with rfl | inRest
              · exact .inl ⟨root, List.mem_append_right _ List.mem_cons_self, isKey⟩
              · exact .inr ⟨root, inRest, isRoot, isKey⟩
      rw [List.append_assoc, List.singleton_append] at step
      exact step
    next notReady =>
      refine ih first rootsRest fun key isKnown => (ahead key isKnown).imp id ?_
      rintro ⟨root, member, isRoot, isKey⟩
      rcases List.mem_cons.mp member with rfl | inRest
      · exact absurd (.inl isRoot) notReady
      · exact ⟨root, inRest, isRoot, isKey⟩

theorem sweeps_parentsFirst {fuel : Nat} {out : List (TransferRow κ)}
    (done : sweeps localName remoteName table fuel known remaining ordered = .ok out)
    (first : ParentsFirst localName remoteName ordered) (roots : RootsFirst localName remoteName remaining)
    (ahead : ∀ key, some key ∈ known → (∃ parent ∈ ordered, parent remoteName = some key) ∨
      ∃ root ∈ remaining, root localName = none ∧ root remoteName = some key) :
    ParentsFirst localName remoteName out := by
  induction fuel generalizing known remaining ordered with
  | zero =>
    cases remaining with
    | nil =>
      rw [sweeps] at done
      cases done
      exact first
    | cons row remaining =>
      rw [sweeps] at done
      cases done
  | succ fuel ih =>
    cases remaining with
    | nil =>
      rw [sweeps] at done
      cases done
      exact first
    | cons row remaining =>
      rw [sweeps] at done
      split at done
      next => cases done
      next =>
        obtain ⟨firstNext, knownNext⟩ := sweep_parentsFirst first roots ahead
        exact ih done firstNext (roots.sublist (sweep_sublist known _)) fun key isKnown => .inl (knownNext key isKnown)

/-! ## Roots that come late -/

/-- What the first sweep orders stays in front. -/
theorem sweeps_prefix {fuel : Nat} {out : List (TransferRow κ)}
    (done : sweeps localName remoteName table fuel known remaining ordered = .ok out) :
    ordered ++ (sweep localName remoteName known remaining).ordered <+: out := by
  induction fuel generalizing known remaining ordered with
  | zero =>
    cases remaining with
    | nil =>
      rw [sweeps] at done
      cases done
      rw [sweep, List.append_nil]
    | cons row remaining =>
      rw [sweeps] at done
      cases done
  | succ fuel ih =>
    cases remaining with
    | nil =>
      rw [sweeps] at done
      cases done
      rw [sweep, List.append_nil]
    | cons row remaining =>
      rw [sweeps] at done
      split at done
      next => cases done
      next => exact (List.prefix_append _ _).trans (ih done)

theorem mem_sweep_of_root (member : row ∈ remaining) (isRoot : row localName = none) :
    row ∈ (sweep localName remoteName known remaining).ordered := by
  induction remaining generalizing known with
  | nil => cases member
  | cons first remaining ih =>
    rw [sweep]
    split
    next =>
      rcases List.mem_cons.mp member with rfl | inRest
      · exact List.mem_cons_self
      · exact List.mem_cons_of_mem _ (ih inRest)
    next notReady =>
      rcases List.mem_cons.mp member with rfl | inRest
      · exact absurd (.inl isRoot) notReady
      · exact ih inRest

/-- A sweep that knows the roots orders a child in front of a root that comes later. -/
theorem rootsFirst_of_sweep (roots : ∀ root ∈ remaining, root localName = none → root remoteName ∈ known)
    (ordered : (sweep localName remoteName known remaining).ordered.Pairwise fun earlier later =>
      ¬ IsParent localName remoteName later earlier) : RootsFirst localName remoteName remaining := by
  induction remaining generalizing known with
  | nil => exact .nil
  | cons row remaining ih =>
    rw [sweep] at ordered
    split at ordered
    next =>
      obtain ⟨rowFirst, orderedRest⟩ := List.pairwise_cons.mp ordered
      refine List.pairwise_cons.mpr ⟨fun later member isLate => ?_, ih (fun root member isRoot => ?_) orderedRest⟩
      · exact rowFirst later (mem_sweep_of_root member isLate.1) isLate.2
      · exact List.mem_cons_of_mem _ (roots root (List.mem_cons_of_mem _ member) isRoot)
    next notReady =>
      refine List.pairwise_cons.mpr ⟨fun later member isLate => ?_, ih (fun root member isRoot => ?_) ordered⟩
      · obtain ⟨isRoot, key, isLocal, isKey⟩ := isLate
        have isKnown := roots later (List.mem_cons_of_mem _ member) isRoot
        rw [isKey, ← isLocal] at isKnown
        exact notReady (.inr isKnown)
      · exact roots root (List.mem_cons_of_mem _ member) isRoot

/-! ## The order of a transfer -/

theorem batches_flatten {ρ : Type} {batchSize : Nat} (positive : 1 ≤ batchSize) (ordered : List ρ) :
    (batches batchSize ordered).flatten = ordered := by
  have taken (k : Nat) : ((List.range k).map fun k => (ordered.drop (k * batchSize)).take batchSize).flatten =
      ordered.take (k * batchSize) := by
    induction k with
    | zero => simp
    | succ k ih =>
      rw [List.range_succ, List.map_append, List.flatten_append, ih, Nat.succ_mul, List.take_add]
      simp
  unfold batches
  rw [taken, List.take_of_length_le]
  have := Nat.div_add_mod (ordered.length + batchSize - 1) batchSize
  have := Nat.mod_lt (ordered.length + batchSize - 1) positive
  rw [Nat.mul_comm]
  omega

/-- The rows come out in an order that any batches may be cut from, and are refused exactly when a chain of
    parents is cyclic or leaves the list. -/
structure OrdersRows (table : TableSchema) (localName remoteName : String) (rows : List (TransferRow κ)) : Prop where
  ordered : ∀ ordered, orderedSelfReferencingRows table rows = .ok ordered → ordered.Perm rows ∧
    ParentsFirst localName remoteName ordered ∧
    ∀ batchSize, 1 ≤ batchSize → ParentsFirst localName remoteName (batches batchSize ordered).flatten
  raises : (∃ error, orderedSelfReferencingRows table rows = .error error) ↔
    ∃ row ∈ rows, ¬ Rooted localName remoteName rows row

/-- The order is right exactly when the list has rows without a root, or no row in front of a parent that has
    no parent itself. -/
theorem ordersRows_iff_rootsFirst (isReference : selfReference table = .ok (some (localName, remoteName)))
    (isKey : KeyColumn remoteName rows) : OrdersRows table localName remoteName rows ↔
      ((∀ row ∈ rows, Rooted localName remoteName rows row) → RootsFirst localName remoteName rows) := by
  have isSweeps : orderedSelfReferencingRows table rows =
      sweeps localName remoteName table rows.length (rootKeys localName remoteName rows) rows [] := by
    unfold orderedSelfReferencingRows
    rw [isReference]
  have roots (root : TransferRow κ) (member : root ∈ rows) (isRoot : root localName = none) :
      root remoteName ∈ rootKeys localName remoteName rows := mem_rootKeys.mpr ⟨root, member, isRoot, rfl⟩
  have distinctPerm {others : List (TransferRow κ)} (perm : others.Perm rows) :
      others.Pairwise fun earlier later => earlier remoteName ≠ later remoteName :=
    (perm.pairwise_iff fun differs => differs.symm).mpr isKey.distinct
  have ends := @Sorting.ends _ localName remoteName rows rows [] _ _ table rows.length (.start rows) (le_refl _)
  rw [← isSweeps] at ends
  constructor
  · intro orders allRooted
    rcases ends with ⟨out, done, _⟩ | ⟨_, row, member, unrooted⟩
    · have firstSweep := sweeps_prefix (isSweeps.symm.trans done)
      have inOrder := (orders.ordered out done).2.1.shortened firstSweep
      have perm := @sweep_perm _ localName remoteName _ (rootKeys localName remoteName rows) rows
      refine rootsFirst_of_sweep roots (inOrder.pairwise ?_)
      exact (List.pairwise_append.mp (distinctPerm perm)).1
    · exact absurd (allRooted row member) unrooted
  · intro rootsFirst
    refine ⟨fun ordered done => ?_, ?_⟩
    · rcases ends with ⟨out, isOut, _, perm, allRooted⟩ | ⟨failed, _⟩
      · cases done.symm.trans isOut
        have inOrder : ParentsFirst localName remoteName ordered := by
          refine sweeps_parentsFirst (isSweeps.symm.trans done) ?_ (rootsFirst allRooted) fun key isKnown => .inr ?_
          · exact fun before row after split => absurd split (by simp)
          · exact mem_rootKeys.mp isKnown
        refine ⟨perm, inOrder, fun batchSize positive => ?_⟩
        rw [batches_flatten positive]
        exact inOrder
      · cases done.symm.trans failed
    · rcases ends with ⟨out, isOut, _, _, allRooted⟩ | ⟨failed, unrooted⟩
      · refine ⟨fun ⟨error, failed⟩ => ?_, fun ⟨row, member, unrooted⟩ => absurd (allRooted row member) unrooted⟩
        cases isOut.symm.trans failed
      · exact ⟨fun _ => unrooted, fun _ => ⟨_, failed⟩⟩

/-! ## A child in front of its root -/

def groupsTable : TableSchema :=
  { name := "camera_groups", foreignKeyElements :=
      [{ parentTable := "camera_groups", parentName := "parent_id", columnTable := "camera_groups", columnName := "id" }] }

def groupRow (id : Nat) (parentId : Option Nat) : TransferRow Nat := fun name =>
  if name = "id" then some id else if name = "parent_id" then parentId else none

theorem child_before_root : ¬ OrdersRows groupsTable "parent_id" "id" [groupRow 2 (some 1), groupRow 1 none] := by
  intro orders
  have done : orderedSelfReferencingRows groupsTable [groupRow 2 (some 1), groupRow 1 none] =
      .ok [groupRow 2 (some 1), groupRow 1 none] := rfl
  obtain ⟨_, inOrder, _⟩ := orders.ordered _ done
  obtain ⟨_, inNil, _⟩ := inOrder [] (groupRow 2 (some 1)) _ rfl 1 rfl
  cases inNil

theorem ordersRows_iff_rootsFirst_root_then_child :
    OrdersRows groupsTable "parent_id" "id" [groupRow 1 none, groupRow 2 (some 1)] := by
  have isKey : KeyColumn "id" [groupRow 1 none, groupRow 2 (some 1)] := by
    refine ⟨fun row member => ?_, by simp [groupRow]⟩
    simp only [List.mem_cons, List.not_mem_nil, or_false] at member
    rcases member with rfl | rfl <;> rfl
  refine (ordersRows_iff_rootsFirst rfl isKey).mpr fun _ => ?_
  simp [RootsFirst, IsParent, groupRow]

end ZeroNvr.DatabaseTransferService
