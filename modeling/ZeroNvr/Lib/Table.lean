import Mathlib

/-! # Keyed tables

A table is a list of rows in which no two rows carry the same key.  The
invariant is a field, so a table with a duplicated key cannot be built; an
insertion that would break it is refused.  Rows keep the order in which they
were inserted, which is the order a query without an ordering clause sees.
-/

namespace ZeroNvr.Lib

/-- Rows of `ρ` are identified by a key of type `κ`. -/
class Keyed (ρ : Type) (κ : outParam Type) where
  key : ρ → κ

open Keyed (key)

structure Table (ρ : Type) {κ : Type} [Keyed ρ κ] where
  rows : List ρ
  keysNodup : (rows.map key).Nodup

/-- A table of one row. -/
def Table.single {ρ κ : Type} [Keyed ρ κ] (row : ρ) : Table ρ := ⟨[row], List.nodup_singleton _⟩

/-- A source of keys that are not in use yet. -/
structure Supply (κ : Type) where
  next : List κ → κ
  fresh : ∀ used, next used ∉ used

/-- The supply that counts on from the largest key in use. -/
def Supply.counting : Supply Nat where
  next used := used.foldr max 0 + 1
  fresh used member := by
    have bounded : ∀ (keys : List Nat), ∀ k ∈ keys, k ≤ keys.foldr max 0 := by
      intro keys
      induction keys with
      | nil => exact fun k inNil => absurd inNil List.not_mem_nil
      | cons head tail ih =>
        intro k inKeys
        rcases List.mem_cons.mp inKeys with rfl | inTail
        · exact le_max_left _ _
        · exact (ih k inTail).trans (le_max_right _ _)
    exact absurd (bounded used _ member) (Nat.not_succ_le_self _)

namespace Table

variable {ρ κ : Type} [Keyed ρ κ]

instance : Membership ρ (Table ρ) := ⟨fun table row => row ∈ table.rows⟩

theorem mem_def {table : Table ρ} {row : ρ} : row ∈ table ↔ row ∈ table.rows := Iff.rfl

def empty : Table ρ := ⟨[], List.nodup_nil⟩

instance : Inhabited (Table ρ) := ⟨empty⟩

@[simp] theorem not_mem_empty (row : ρ) : row ∉ (empty : Table ρ) := List.not_mem_nil

/-- The rows that satisfy a condition, in table order. -/
def select (table : Table ρ) (p : ρ → Bool) : List ρ := table.rows.filter p

/-- Some row that satisfies a condition. -/
def first? (table : Table ρ) (p : ρ → Bool) : Option ρ := table.rows.find? p

/-- The first of the rows that satisfy a condition, in a given order. -/
def firstBy? (table : Table ρ) (p : ρ → Bool) (before : ρ → ρ → Bool) : Option ρ :=
  ((table.select p).insertionSort fun left right => before left right).head?

/-- Apply a key-preserving change to every row. -/
def mapRows (table : Table ρ) (f : ρ → ρ) (keeps : ∀ row, key (f row) = key row) : Table ρ :=
  ⟨table.rows.map f, by
    rw [List.map_map, show (key ∘ f) = (key : ρ → κ) from funext keeps]
    exact table.keysNodup⟩

/-- The key a new row gets. -/
def newKey (table : Table ρ) (supply : Supply κ) : κ := supply.next (table.rows.map key)

/-- Add a row under a key that is not in use. -/
def create (table : Table ρ) (supply : Supply κ) (make : κ → ρ)
    (keyed : ∀ k, key (make k) = k := by intro _; rfl) : Table ρ :=
  ⟨table.rows ++ [make (table.newKey supply)], by
    rw [List.map_append, List.map_singleton, keyed]
    exact List.nodup_append'.mpr
      ⟨table.keysNodup, List.nodup_singleton _, by simpa [newKey] using supply.fresh (table.rows.map key)⟩⟩

theorem mem_create {table : Table ρ} {supply : Supply κ} {make : κ → ρ} {keyed : ∀ k, key (make k) = k}
    {row : ρ} : row ∈ table.create supply make keyed ↔ row ∈ table ∨ row = make (table.newKey supply) := by
  simp [create, mem_def]

theorem newKey_fresh (table : Table ρ) (supply : Supply κ) {row : ρ} (member : row ∈ table) :
    key row ≠ table.newKey supply := by
  intro same
  have used : key row ∈ table.rows.map key := List.mem_map_of_mem member
  rw [same] at used
  exact supply.fresh _ used

theorem mem_select {table : Table ρ} {p : ρ → Bool} {row : ρ} :
    row ∈ table.select p ↔ row ∈ table ∧ p row = true := List.mem_filter

theorem mem_of_first? {table : Table ρ} {p : ρ → Bool} {row : ρ} (found : table.first? p = some row) :
    row ∈ table ∧ p row = true :=
  ⟨List.mem_of_find?_eq_some found, List.find?_some found⟩

theorem first?_eq_none_iff {table : Table ρ} {p : ρ → Bool} :
    table.first? p = none ↔ ∀ row ∈ table, p row = false := by
  simp [first?, mem_def, List.find?_eq_none]

theorem exists_first? {table : Table ρ} {p : ρ → Bool} {row : ρ} (member : row ∈ table) (holds : p row = true) :
    ∃ found, table.first? p = some found := by
  rw [← Option.ne_none_iff_exists']
  intro isNone
  rw [first?_eq_none_iff.mp isNone row member] at holds
  cases holds

theorem mem_of_firstBy? {table : Table ρ} {p : ρ → Bool} {before : ρ → ρ → Bool} {row : ρ}
    (found : table.firstBy? p before = some row) : row ∈ table ∧ p row = true := by
  have member := List.mem_of_mem_head? found
  rw [List.mem_insertionSort] at member
  exact mem_select.mp member

theorem firstBy?_eq_none_iff {table : Table ρ} {p : ρ → Bool} {before : ρ → ρ → Bool} :
    table.firstBy? p before = none ↔ ∀ row ∈ table, p row = false := by
  rw [firstBy?, List.head?_eq_none_iff, ← List.length_eq_zero_iff, List.length_insertionSort,
    List.length_eq_zero_iff, select, List.filter_eq_nil_iff]
  simp only [Bool.not_eq_true]
  exact Iff.rfl

theorem first?_create {table : Table ρ} {supply : Supply κ} {make : κ → ρ} (keyed : ∀ k, key (make k) = k)
    (p : ρ → Bool) : (table.create supply make keyed).first? p =
      (table.first? p).or (if p (make (table.newKey supply)) then some (make (table.newKey supply)) else none) := by
  simp only [first?, create, List.find?_append, List.find?_singleton]

/-- A change that keeps a condition keeps the row found by it. -/
theorem first?_mapRows {table : Table ρ} {f : ρ → ρ} (keeps : ∀ row, key (f row) = key row) {p : ρ → Bool}
    (same : ∀ row, p (f row) = p row) : (table.mapRows f keeps).first? p = (table.first? p).map f := by
  simp only [first?, mapRows, List.find?_map]
  rw [show p ∘ f = p from funext same]

theorem mem_mapRows {table : Table ρ} {f : ρ → ρ} {keeps : ∀ row, key (f row) = key row} {row : ρ} :
    row ∈ table.mapRows f keeps ↔ ∃ old ∈ table, f old = row := List.mem_map

/-- The rows that satisfy a condition. -/
def keep (table : Table ρ) (p : ρ → Bool) : Table ρ :=
  ⟨table.rows.filter p, table.keysNodup.sublist (List.filter_sublist.map key)⟩

theorem mem_keep {table : Table ρ} {p : ρ → Bool} {row : ρ} : row ∈ table.keep p ↔ row ∈ table ∧ p row = true :=
  List.mem_filter

/-- A selection only sees the rows that satisfy its condition. -/
theorem select_keep {table : Table ρ} {p q : ρ → Bool} (kept : ∀ row ∈ table, q row = true → p row = true) :
    (table.keep p).select q = table.select q := by
  rw [select, select, keep, List.filter_filter]
  refine List.filter_congr fun row member => ?_
  cases wanted : q row with
  | false => rfl
  | true => rw [kept row member wanted, Bool.and_true]

/-! ## Access by key -/

variable [DecidableEq κ]

/-- The row with the given key. -/
def get? (table : Table ρ) (k : κ) : Option ρ := table.rows.find? fun row => key row = k

/-- Add a row; refused when its key is taken. -/
def insert? (table : Table ρ) (row : ρ) : Option (Table ρ) :=
  if fresh : key row ∉ table.rows.map key then
    some ⟨table.rows ++ [row], by
      rw [List.map_append, List.map_singleton]
      exact List.nodup_append'.mpr
        ⟨table.keysNodup, List.nodup_singleton _, by simpa using fresh⟩⟩
  else none

/-- Apply a key-preserving change to the row with the given key. -/
def modify (table : Table ρ) (k : κ) (f : ρ → ρ)
    (keeps : ∀ row, key (f row) = key row := by intro _; rfl) : Table ρ :=
  table.mapRows (fun row => if key row = k then f row else row) fun row => by
    by_cases matched : key row = k
    · simp [matched, keeps]
    · simp [matched]

/-- Write a row under its key: in place of the row there is, or as a new one. -/
def put (table : Table ρ) (row : ρ) : Table ρ :=
  match table.insert? row with
  | some grown => grown
  | none => table.modify (key row) (fun old => if key old = key row then row else old) fun old => by
      split
      next same => exact same.symm
      next => rfl

/-- Take out the row with the given key. -/
def remove (table : Table ρ) (k : κ) : Table ρ :=
  ⟨table.rows.filter fun row => key row ≠ k, table.keysNodup.sublist (List.filter_sublist.map key)⟩

theorem mem_remove {table : Table ρ} {k : κ} {row : ρ} : row ∈ table.remove k ↔ row ∈ table ∧ key row ≠ k := by
  simp [remove, mem_def]

theorem get?_eq_some_iff {table : Table ρ} {k : κ} {row : ρ} :
    table.get? k = some row ↔ row ∈ table ∧ key row = k := by
  obtain ⟨rows, nodup⟩ := table
  simp only [get?, mem_def]
  constructor
  · intro found
    exact ⟨List.mem_of_find?_eq_some found, by simpa using List.find?_some found⟩
  · rintro ⟨member, rfl⟩
    induction rows with
    | nil => cases member
    | cons head tail ih =>
      simp only [List.map_cons, List.nodup_cons, List.mem_map, not_exists, not_and] at nodup
      rcases List.mem_cons.mp member with rfl | inTail
      · simp
      · have differs : key head ≠ key row := fun same => nodup.1 row inTail same.symm
        simp only [List.find?_cons, differs, decide_false]
        exact ih nodup.2 inTail

theorem get?_eq_none_iff {table : Table ρ} {k : κ} :
    table.get? k = none ↔ ∀ row ∈ table, key row ≠ k := by
  simp [get?, mem_def, List.find?_eq_none]

theorem mem_of_get? {table : Table ρ} {k : κ} {row : ρ} (found : table.get? k = some row) :
    row ∈ table := (get?_eq_some_iff.mp found).1

theorem key_of_get? {table : Table ρ} {k : κ} {row : ρ} (found : table.get? k = some row) :
    key row = k := (get?_eq_some_iff.mp found).2

theorem get?_of_mem {table : Table ρ} {row : ρ} (member : row ∈ table) :
    table.get? (key row) = some row := get?_eq_some_iff.mpr ⟨member, rfl⟩

/-- A key names at most one row. -/
theorem eq_of_key_eq {table : Table ρ} {row other : ρ} (member : row ∈ table)
    (otherMember : other ∈ table) (same : key row = key other) : row = other := by
  have found := get?_of_mem member
  rw [same, get?_of_mem otherMember] at found
  exact (Option.some.inj found).symm

/-! ## Updates -/

theorem mem_insert? {table grown : Table ρ} {new row : ρ} (inserted : table.insert? new = some grown) :
    row ∈ grown ↔ row ∈ table ∨ row = new := by
  simp only [insert?] at inserted
  split at inserted
  · cases inserted
    simp [mem_def]
  · cases inserted

theorem insert?_fresh {table grown : Table ρ} {new : ρ} (inserted : table.insert? new = some grown) :
    ∀ row ∈ table, key row ≠ key new := by
  simp only [insert?] at inserted
  split at inserted
  next fresh =>
    intro row member same
    exact fresh (same ▸ List.mem_map_of_mem member)
  next => cases inserted

theorem get?_insert? {table grown : Table ρ} {new : ρ} (inserted : table.insert? new = some grown)
    (k : κ) : grown.get? k = if key new = k then some new else table.get? k := by
  have fresh := insert?_fresh inserted
  split
  next same => exact get?_eq_some_iff.mpr ⟨(mem_insert? inserted).mpr (.inr rfl), same⟩
  next differs =>
    cases lookup : table.get? k with
    | none =>
      rw [get?_eq_none_iff] at lookup ⊢
      intro row member
      rcases (mem_insert? inserted).mp member with old | rfl
      · exact lookup row old
      · exact differs
    | some row =>
      rw [get?_eq_some_iff] at lookup ⊢
      exact ⟨(mem_insert? inserted).mpr (.inl lookup.1), lookup.2⟩

theorem get?_insert?_self {table grown : Table ρ} {new : ρ} (inserted : table.insert? new = some grown) :
    grown.get? (key new) = some new := by
  rw [get?_insert? inserted, if_pos rfl]

/-- An insertion leaves the rows there are. -/
theorem get?_insert?_of_get? {table grown : Table ρ} {new row : ρ} {k : κ}
    (inserted : table.insert? new = some grown) (found : table.get? k = some row) :
    grown.get? k = some row := by
  obtain ⟨member, same⟩ := get?_eq_some_iff.mp found
  exact get?_eq_some_iff.mpr ⟨(mem_insert? inserted).mpr (.inl member), same⟩

theorem get?_mapRows (table : Table ρ) (f : ρ → ρ) (keeps : ∀ row, key (f row) = key row) (k : κ) :
    (table.mapRows f keeps).get? k = (table.get? k).map f := by
  cases lookup : table.get? k with
  | none =>
    rw [Option.map_none, get?_eq_none_iff]
    intro row member
    obtain ⟨old, oldMember, rfl⟩ := mem_mapRows.mp member
    rw [keeps]
    exact get?_eq_none_iff.mp lookup old oldMember
  | some row =>
    obtain ⟨member, found⟩ := get?_eq_some_iff.mp lookup
    rw [Option.map_some, get?_eq_some_iff]
    exact ⟨mem_mapRows.mpr ⟨row, member, rfl⟩, by rw [keeps, found]⟩

theorem mem_modify {table : Table ρ} {k : κ} {f : ρ → ρ} {keeps : ∀ row, key (f row) = key row}
    {row : ρ} :
    row ∈ table.modify k f keeps ↔ ∃ old ∈ table, (if key old = k then f old else old) = row :=
  mem_mapRows

theorem first?_insert? {table grown : Table ρ} {new : ρ} (inserted : table.insert? new = some grown) (p : ρ → Bool) :
    grown.first? p = (table.first? p).or (if p new then some new else none) := by
  simp only [insert?] at inserted
  split at inserted
  next =>
    cases inserted
    simp only [first?, List.find?_append, List.find?_singleton]
  next => cases inserted

theorem insert?_eq_none {table : Table ρ} {new : ρ} (refused : table.insert? new = none) :
    ∃ row ∈ table, key row = key new := by
  simp only [insert?] at refused
  split at refused
  next => cases refused
  next taken =>
    rw [not_not, List.mem_map] at taken
    exact taken

theorem mem_put {table : Table ρ} {new row : ρ} :
    row ∈ table.put new ↔ row = new ∨ (row ∈ table ∧ key row ≠ key new) := by
  unfold put
  split
  next grown inserted =>
    rw [mem_insert? inserted]
    constructor
    · rintro (old | rfl)
      · exact .inr ⟨old, insert?_fresh inserted row old⟩
      · exact .inl rfl
    · rintro (rfl | ⟨old, _⟩)
      · exact .inr rfl
      · exact .inl old
  next refused =>
    obtain ⟨taken, takenMember, takenKey⟩ := insert?_eq_none refused
    rw [mem_modify]
    constructor
    · rintro ⟨old, oldMember, rfl⟩
      by_cases same : key old = key new
      · exact .inl (by rw [if_pos same, if_pos same])
      · exact .inr ⟨by rw [if_neg same]; exact oldMember, by rw [if_neg same]; exact same⟩
    · rintro (rfl | ⟨old, differs⟩)
      · exact ⟨taken, takenMember, by rw [if_pos takenKey, if_pos takenKey]⟩
      · exact ⟨row, old, if_neg differs⟩

theorem get?_put {table : Table ρ} {new : ρ} (k : κ) :
    (table.put new).get? k = if k = key new then some new else table.get? k := by
  split
  next isNew => exact get?_eq_some_iff.mpr ⟨mem_put.mpr (.inl rfl), isNew.symm⟩
  next differs =>
    refine Option.ext fun row => ?_
    rw [get?_eq_some_iff, get?_eq_some_iff, mem_put]
    constructor
    · rintro ⟨rfl | ⟨member, _⟩, isKey⟩
      · exact absurd isKey.symm differs
      · exact ⟨member, isKey⟩
    · rintro ⟨member, rfl⟩
      exact ⟨.inr ⟨member, differs⟩, rfl⟩

/-- A row that a selection does not see, under a key that it sees no row of. -/
theorem get?_remove (table : Table ρ) (k k' : κ) : (table.remove k).get? k' = if k' = k then none else table.get? k' := by
  split
  next isKey =>
    refine get?_eq_none_iff.mpr fun row member => ?_
    exact fun same => (mem_remove.mp member).2 (same.trans isKey)
  next differs =>
    refine Option.ext fun row => ?_
    rw [get?_eq_some_iff, get?_eq_some_iff, mem_remove]
    exact ⟨fun ⟨⟨member, _⟩, isKey⟩ => ⟨member, isKey⟩, fun ⟨member, isKey⟩ => ⟨⟨member, isKey ▸ differs⟩, isKey⟩⟩

theorem select_put {table : Table ρ} {new : ρ} {p : ρ → Bool} (unseen : ∀ row, key row = key new → p row = false) :
    (table.put new).select p = table.select p := by
  unfold put
  split
  next grown inserted =>
    simp only [insert?] at inserted
    split at inserted
    next =>
      cases inserted
      simp [select, List.filter_append, unseen new rfl]
    next => cases inserted
  next =>
    simp only [select, modify, mapRows, List.filter_map]
    have sees : (p ∘ fun row => if key row = key new then if key row = key new then new else row else row) = p := by
      funext row
      by_cases same : key row = key new
      · simp [same, unseen row same, unseen new rfl]
      · simp [same]
    rw [sees]
    refine (List.map_congr_left fun row member => ?_).trans (List.map_id _)
    by_cases same : key row = key new
    · exact absurd ((List.mem_filter.mp member).2.symm.trans (unseen row same)) nofun
    · simp [same]

/-- The place of a row that is written anew. -/
theorem rows_put_of_mem {table : Table ρ} {new : ρ} (member : key new ∈ table.rows.map key) :
    (table.put new).rows = table.rows.map fun row => if key row = key new then new else row := by
  unfold put insert?
  rw [dif_neg (not_not.mpr member)]
  refine List.map_congr_left fun row _ => ?_
  by_cases same : key row = key new
  · simp only [if_pos same]
  · simp only [if_neg same]

/-- A row more, unless it takes the place of another. -/
theorem length_put (table : Table ρ) (new : ρ) : (table.put new).rows.length =
    if key new ∈ table.rows.map key then table.rows.length else table.rows.length + 1 := by
  unfold put insert?
  by_cases fresh : key new ∉ table.rows.map key
  · rw [dif_pos fresh, if_neg fresh]
    exact List.length_append
  · rw [dif_neg fresh, if_pos (not_not.mp fresh)]
    exact List.length_map _

/-- A change of one row that keeps a condition keeps the row found by it. -/
theorem first?_modify {table : Table ρ} {k : κ} {f : ρ → ρ} (keeps : ∀ row, key (f row) = key row) {p : ρ → Bool}
    (same : ∀ row, p (f row) = p row) :
    (table.modify k f keeps).first? p = (table.first? p).map fun row => if key row = k then f row else row := by
  refine first?_mapRows _ fun row => ?_
  by_cases changed : key row = k
  · rw [if_pos changed, same]
  · rw [if_neg changed]

theorem get?_modify (table : Table ρ) (k : κ) (f : ρ → ρ) (keeps : ∀ row, key (f row) = key row)
    (k' : κ) :
    (table.modify k f keeps).get? k' = if k' = k then (table.get? k').map f else table.get? k' := by
  rw [modify, get?_mapRows]
  cases lookup : table.get? k' with
  | none => simp
  | some row =>
    have found := key_of_get? lookup
    subst found
    by_cases same : key row = k <;> simp [same]

theorem get?_modify_self {table : Table ρ} {k : κ} {row : ρ} (found : table.get? k = some row)
    (f : ρ → ρ) (keeps : ∀ row, key (f row) = key row) :
    (table.modify k f keeps).get? k = some (f row) := by
  rw [get?_modify, if_pos rfl, found]; rfl

theorem get?_modify_ne (table : Table ρ) {k k' : κ} (differs : k' ≠ k) (f : ρ → ρ)
    (keeps : ∀ row, key (f row) = key row) :
    (table.modify k f keeps).get? k' = table.get? k' := by
  rw [get?_modify, if_neg differs]

end Table

end ZeroNvr.Lib
