import Mathlib

/-! # Dictionaries in order of insertion

No key has two entries, which the structure carries.  Assigning to a key that is
there keeps its place; a new key goes to the end.  A dictionary that is capped
loses its first entries.
-/

namespace ZeroNvr.Lib

structure OrderedDict (κ α : Type) where
  entries : List (κ × α)
  keysNodup : (entries.map Prod.fst).Nodup

namespace OrderedDict

variable {κ α : Type} [DecidableEq κ]

def empty : OrderedDict κ α := ⟨[], List.nodup_nil⟩

def get? (dict : OrderedDict κ α) (key : κ) : Option α := dict.entries.lookup key

/-- The entries after `dict[key] = value`. -/
def assigned (key : κ) (value : α) : List (κ × α) → List (κ × α)
  | [] => [(key, value)]
  | entry :: rest => if entry.1 = key then (key, value) :: rest else entry :: assigned key value rest

theorem mem_keys_assigned {key other : κ} {value : α} {entries : List (κ × α)} :
    other ∈ (assigned key value entries).map Prod.fst ↔ other = key ∨ other ∈ entries.map Prod.fst := by
  induction entries with
  | nil => simp [assigned]
  | cons entry rest ih =>
    rw [assigned]
    split
    · next same => simp [same]
    · rw [List.map_cons, List.mem_cons, ih, List.map_cons, List.mem_cons]
      tauto

theorem nodup_assigned (key : κ) (value : α) {entries : List (κ × α)} (nodup : (entries.map Prod.fst).Nodup) :
    ((assigned key value entries).map Prod.fst).Nodup := by
  induction entries with
  | nil => exact List.nodup_singleton _
  | cons entry rest ih =>
    obtain ⟨isNew, nodupRest⟩ := List.nodup_cons.mp nodup
    rw [assigned]
    split
    · next same => exact List.nodup_cons.mpr ⟨same ▸ isNew, nodupRest⟩
    · next differs =>
      refine List.nodup_cons.mpr ⟨fun member => ?_, ih nodupRest⟩
      rcases mem_keys_assigned.mp member with same | inRest
      · exact differs same
      · exact isNew inRest

def set (dict : OrderedDict κ α) (key : κ) (value : α) : OrderedDict κ α :=
  ⟨assigned key value dict.entries, nodup_assigned key value dict.keysNodup⟩

def pop (dict : OrderedDict κ α) (key : κ) : OrderedDict κ α :=
  ⟨dict.entries.filter fun entry => entry.1 ≠ key, dict.keysNodup.sublist (List.filter_sublist.map _)⟩

/-- What `cap` drops. -/
def overflow (dict : OrderedDict κ α) (capacity : Nat) : List (κ × α) :=
  dict.entries.take (dict.entries.length - capacity)

/-- Pop the first entry while there are more than `capacity`. -/
def cap (dict : OrderedDict κ α) (capacity : Nat) : OrderedDict κ α :=
  ⟨dict.entries.drop (dict.entries.length - capacity), dict.keysNodup.sublist ((List.drop_sublist _ _).map _)⟩

/-! ## Looking up -/

theorem mem_of_get? {dict : OrderedDict κ α} {key : κ} {value : α} (found : dict.get? key = some value) :
    (key, value) ∈ dict.entries := by
  obtain ⟨before, after, split, _⟩ := List.lookup_eq_some_iff.mp found
  rw [split]
  exact List.mem_append_right _ List.mem_cons_self

theorem lookup_of_mem {entries : List (κ × α)} (nodup : (entries.map Prod.fst).Nodup) {key : κ} {value : α}
    (member : (key, value) ∈ entries) : entries.lookup key = some value := by
  induction entries with
  | nil => cases member
  | cons entry rest ih =>
    obtain ⟨isNew, nodupRest⟩ := List.nodup_cons.mp nodup
    rw [List.lookup_cons]
    rcases List.mem_cons.mp member with rfl | inRest
    · rw [beq_self_eq_true]
    · have differs : (key == entry.1) = false := by
        rw [beq_eq_false_iff_ne]
        rintro rfl
        exact isNew (List.mem_map.mpr ⟨_, inRest, rfl⟩)
      rw [differs, ih nodupRest inRest]

theorem get?_eq_some_iff {dict : OrderedDict κ α} {key : κ} {value : α} :
    dict.get? key = some value ↔ (key, value) ∈ dict.entries :=
  ⟨mem_of_get?, lookup_of_mem dict.keysNodup⟩

@[simp] theorem get?_empty (key : κ) : (empty : OrderedDict κ α).get? key = none := rfl

@[simp] theorem get?_set_self (dict : OrderedDict κ α) (key : κ) (value : α) : (dict.set key value).get? key = some value := by
  rw [get?, set]
  dsimp only
  induction dict.entries with
  | nil => rw [assigned, List.lookup_cons, beq_self_eq_true]
  | cons entry rest ih =>
    rw [assigned]
    split
    · rw [List.lookup_cons, beq_self_eq_true]
    · next differs =>
      have isOther : (key == entry.1) = false := beq_eq_false_iff_ne.mpr (Ne.symm differs)
      rw [List.lookup_cons, isOther, ih]

theorem get?_set_of_ne (dict : OrderedDict κ α) {key other : κ} (isOther : other ≠ key) (value : α) :
    (dict.set key value).get? other = dict.get? other := by
  have noMatch : (other == key) = false := beq_eq_false_iff_ne.mpr isOther
  rw [get?, set, get?]
  dsimp only
  induction dict.entries with
  | nil => rw [assigned, List.lookup_cons, noMatch]
  | cons entry rest ih =>
    rw [assigned]
    split
    · next same => rw [List.lookup_cons, noMatch, List.lookup_cons, same, noMatch]
    · rw [List.lookup_cons, ih, List.lookup_cons]

theorem assigned_of_none {key : κ} (value : α) {entries : List (κ × α)} (isNew : entries.lookup key = none) :
    assigned key value entries = entries ++ [(key, value)] := by
  induction entries with
  | nil => rfl
  | cons entry rest ih =>
    rw [List.lookup_cons] at isNew
    split at isNew
    · cases isNew
    · next differs =>
      have isOther : ¬entry.1 = key := fun same => by
        rw [same, beq_self_eq_true] at differs
        cases differs
      rw [assigned, if_neg isOther, ih isNew, List.cons_append]

/-- A new key goes to the end. -/
theorem entries_set_of_none {dict : OrderedDict κ α} {key : κ} (isNew : dict.get? key = none) (value : α) :
    (dict.set key value).entries = dict.entries ++ [(key, value)] := assigned_of_none value isNew

theorem get?_pop_eq_some_iff {dict : OrderedDict κ α} {key other : κ} {value : α} :
    (dict.pop key).get? other = some value ↔ other ≠ key ∧ dict.get? other = some value := by
  rw [get?_eq_some_iff, get?_eq_some_iff, pop, List.mem_filter, decide_eq_true_iff, and_comm]

@[simp] theorem get?_pop_self (dict : OrderedDict κ α) (key : κ) : (dict.pop key).get? key = none := by
  rw [Option.eq_none_iff_forall_not_mem]
  exact fun value found => (get?_pop_eq_some_iff.mp found).1 rfl

theorem get?_pop_of_ne (dict : OrderedDict κ α) {key other : κ} (isOther : other ≠ key) :
    (dict.pop key).get? other = dict.get? other :=
  Option.ext fun _ => get?_pop_eq_some_iff.trans (and_iff_right isOther)

/-! ## From pairs -/

/-- The dictionary of a comprehension: of the pairs with a key, the last one is kept. -/
def ofPairs (pairs : List (κ × α)) : OrderedDict κ α := pairs.foldl (fun dict pair => dict.set pair.1 pair.2) empty

theorem ofPairs_append_singleton (pairs : List (κ × α)) (pair : κ × α) :
    ofPairs (pairs ++ [pair]) = (ofPairs pairs).set pair.1 pair.2 := by
  rw [ofPairs, List.foldl_append, List.foldl_cons, List.foldl_nil, ofPairs]

theorem get?_ofPairs (pairs : List (κ × α)) (key : κ) :
    (ofPairs pairs).get? key = (pairs.filter fun pair => pair.1 = key).getLast?.map Prod.snd := by
  induction pairs using List.reverseRecOn with
  | nil => rfl
  | append_singleton pairs pair ih =>
    rw [ofPairs_append_singleton, List.filter_append]
    by_cases same : pair.1 = key
    · subst same
      simp
    · rw [get?_set_of_ne _ (Ne.symm same), ih]
      simp [same]

theorem mem_of_get?_ofPairs {pairs : List (κ × α)} {key : κ} {value : α}
    (found : (ofPairs pairs).get? key = some value) : (key, value) ∈ pairs := by
  rw [get?_ofPairs, Option.map_eq_some_iff] at found
  obtain ⟨⟨_, _⟩, isLast, rfl⟩ := found
  obtain ⟨member, sameKey⟩ := List.mem_filter.mp (List.mem_of_mem_getLast? isLast)
  rwa [← of_decide_eq_true sameKey]

theorem exists_get?_ofPairs {pairs : List (κ × α)} {key : κ} {value : α} (member : (key, value) ∈ pairs) :
    ∃ kept, (ofPairs pairs).get? key = some kept := by
  have here : (key, value) ∈ pairs.filter fun pair => pair.1 = key := List.mem_filter.mpr ⟨member, decide_eq_true rfl⟩
  rw [get?_ofPairs]
  exact ⟨_, by rw [List.getLast?_eq_some_getLast (List.ne_nil_of_mem here)]; rfl⟩

theorem get?_ofPairs_eq_none {pairs : List (κ × α)} {key : κ} (absent : (ofPairs pairs).get? key = none) {pair : κ × α}
    (member : pair ∈ pairs) : pair.1 ≠ key := by
  rintro rfl
  obtain ⟨kept, found⟩ := exists_get?_ofPairs member
  rw [absent] at found
  cases found

/-! ## Capping -/

theorem get?_of_get?_cap {dict : OrderedDict κ α} {capacity : Nat} {key : κ} {value : α}
    (found : (dict.cap capacity).get? key = some value) : dict.get? key = some value :=
  get?_eq_some_iff.mpr (List.mem_of_mem_drop (get?_eq_some_iff.mp found))

/-- An entry is kept or dropped. -/
theorem get?_cap_or_overflow {dict : OrderedDict κ α} (capacity : Nat) {key : κ} {value : α}
    (found : dict.get? key = some value) :
    (dict.cap capacity).get? key = some value ∨ (key, value) ∈ dict.overflow capacity := by
  have member := get?_eq_some_iff.mp found
  rw [← List.take_append_drop (dict.entries.length - capacity) dict.entries] at member
  rcases List.mem_append.mp member with dropped | kept
  · exact .inr dropped
  · exact .inl (get?_eq_some_iff.mpr kept)

omit [DecidableEq κ] in
/-- When the entries after a live one are live, and there is room for the live ones, none of them is dropped. -/
theorem not_live_of_mem_overflow {dict : OrderedDict κ α} {capacity : Nat} {live : κ × α → Prop}
    (later : dict.entries.Pairwise fun a b => live a → live b)
    (room : ∀ keys : List κ, keys.Nodup → (∀ key ∈ keys, ∃ value, live (key, value) ∧ (key, value) ∈ dict.entries) →
      keys.length ≤ capacity) {entry : κ × α} (member : entry ∈ dict.overflow capacity) : ¬live entry := by
  intro isLive
  obtain ⟨before, after, split⟩ := List.append_of_mem member
  set rest := entry :: after ++ dict.entries.drop (dict.entries.length - capacity) with isRest
  have whole : dict.entries = before ++ rest := by
    rw [isRest, List.cons_append, ← List.cons_append, ← List.append_assoc, ← split, overflow, List.take_append_drop]
  have allLive : ∀ other ∈ rest, live other := by
    have ordered := later
    rw [whole] at ordered
    have fromEntry := (List.pairwise_append.mp ordered).2.1
    rw [isRest, List.cons_append] at fromEntry
    intro other inRest
    rw [isRest, List.cons_append] at inRest
    rcases List.mem_cons.mp inRest with rfl | isLater
    · exact isLive
    · exact (List.pairwise_cons.mp fromEntry).1 other isLater isLive
  have inDict : ∀ other ∈ rest, other ∈ dict.entries := fun other inRest => by
    rw [whole]
    exact List.mem_append_right _ inRest
  have fits := room (rest.map Prod.fst)
    (dict.keysNodup.sublist (by rw [whole]; exact (List.sublist_append_right _ _).map _))
    fun key inKeys => by
      obtain ⟨other, inRest, rfl⟩ := List.mem_map.mp inKeys
      exact ⟨other.2, allLive other inRest, inDict other inRest⟩
  have lengths : rest.length = after.length + 1 + (dict.entries.length - (dict.entries.length - capacity)) := by
    rw [isRest, List.length_append, List.length_cons, List.length_drop]
  have dropped : before.length + (after.length + 1) = min (dict.entries.length - capacity) dict.entries.length := by
    rw [← List.length_take, ← List.length_cons (a := entry), ← List.length_append, ← split, overflow]
  rw [List.length_map] at fits
  omega

end OrderedDict

end ZeroNvr.Lib
