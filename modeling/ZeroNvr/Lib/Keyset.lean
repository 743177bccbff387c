import Mathlib

/-! # Keyset pages

A listing in descending order of a key is read page by page: each request gives
the key of the last row it has, and gets the rows below it.  The rows may change
between two requests.
-/

namespace ZeroNvr.Lib.Keyset

variable {ρ κ : Type} [LinearOrder κ]

structure Page (ρ κ : Type) where
  items : List ρ
  next : Option κ

variable (key : ρ → κ)

/-- The rows below a position, or all of them. -/
def below (rows : List ρ) (cursor : Option κ) : List ρ :=
  rows.filter fun row => cursor.all fun position => key row < position

def descending (rows : List ρ) : List ρ := rows.insertionSort fun a b => key b ≤ key a

/-- One page: at most `limit` rows, and the position to go on from if there are more. -/
def page (rows : List ρ) (cursor : Option κ) (limit : Nat) : Page ρ κ :=
  let found := descending key (below key rows cursor)
  { items := found.take limit
    next := if limit < found.length then (found.take limit).getLast?.map key else none }

/-- The page that the request number `n` gets, `rows k` being the rows at request number `k`.
    There is no such request once a page had no next position. -/
def pageAt (limit : Nat) : (rows : Nat → List ρ) → (cursor : Option κ) → Nat → Option (Page ρ κ)
  | rows, cursor, 0 => some (page key (rows 0) cursor limit)
  | rows, cursor, n + 1 =>
    match (page key (rows 0) cursor limit).next with
    | none => none
    | some position => pageAt limit (fun k => rows (k + 1)) (some position) n

/-- Between two requests rows disappear, or appear above the position that has been reached. -/
def OnlyNewer (limit : Nat) (rows : Nat → List ρ) (cursor : Option κ) : Prop :=
  ∀ n reached position, pageAt key limit rows cursor n = some reached → reached.next = some position →
    ∀ row ∈ rows (n + 1), row ∈ rows n ∨ position < key row

/-! ## One page -/

section Page

variable {key} {rows : List ρ} {cursor : Option κ} {limit : Nat}

theorem mem_below {row : ρ} : row ∈ below key rows cursor ↔ row ∈ rows ∧ ∀ position ∈ cursor, key row < position := by
  simp [below, List.mem_filter, Option.all_eq_true]

theorem descending_perm (rows : List ρ) : (descending key rows).Perm rows := List.perm_insertionSort _ rows

/-- Rows with distinct keys stand in strictly descending order. -/
theorem descending_pairwise (distinct : (rows.map key).Nodup) :
    (descending key rows).Pairwise fun a b => key b < key a := by
  have sorted : (descending key rows).Pairwise fun a b => key b ≤ key a :=
    have : Std.Total fun a b : ρ => key b ≤ key a := ⟨fun a b => le_total (key b) (key a)⟩
    have : IsTrans ρ fun a b : ρ => key b ≤ key a := ⟨fun _ _ _ first second => second.trans first⟩
    List.pairwise_insertionSort _ rows
  have apart : ((descending key rows).map key).Nodup := ((descending_perm rows).map key).nodup_iff.mpr distinct
  rw [List.Nodup, List.pairwise_map] at apart
  exact sorted.imp₂ (fun a b le ne => lt_of_le_of_ne le ne.symm) apart

theorem nodup_below (distinct : (rows.map key).Nodup) : ((below key rows cursor).map key).Nodup :=
  distinct.sublist (List.filter_sublist.map key)

theorem mem_of_mem_page {row : ρ} (member : row ∈ (page key rows cursor limit).items) :
    row ∈ rows ∧ ∀ position ∈ cursor, key row < position :=
  mem_below.mp ((descending_perm _).mem_iff.mp (List.mem_of_mem_take member))

theorem page_pairwise (distinct : (rows.map key).Nodup) :
    (page key rows cursor limit).items.Pairwise fun a b => key b < key a :=
  (descending_pairwise (nodup_below distinct)).sublist (List.take_sublist _ _)

/-- The next position is that of the last row of the page. -/
theorem next_eq_some {position : κ} (next : (page key rows cursor limit).next = some position) :
    limit < (below key rows cursor).length ∧
      ∃ last, (page key rows cursor limit).items.getLast? = some last ∧ key last = position := by
  simp only [page] at next
  split at next
  · next more =>
    obtain ⟨last, isLast, isPosition⟩ := Option.map_eq_some_iff.mp next
    exact ⟨by rwa [(descending_perm _).length_eq] at more, last, isLast, isPosition⟩
  · cases next

/-- A page goes down to its next position. -/
theorem next_le {position : κ} (distinct : (rows.map key).Nodup)
    (next : (page key rows cursor limit).next = some position) {row : ρ}
    (member : row ∈ (page key rows cursor limit).items) : position ≤ key row := by
  obtain ⟨-, last, isLast, rfl⟩ := next_eq_some next
  obtain ⟨front, shape⟩ := List.getLast?_eq_some_iff.mp isLast
  have sorted := @page_pairwise _ _ _ key rows cursor limit distinct
  rw [shape] at sorted member
  rcases List.mem_append.mp member with inFront | isLast
  · exact ((List.pairwise_append.mp sorted).2.2 row inFront last List.mem_cons_self).le
  · rw [List.mem_singleton.mp isLast]

/-- A row of the listing is on the page, or below its next position. -/
theorem mem_page_or_below (positive : 0 < limit) (distinct : (rows.map key).Nodup) {row : ρ}
    (member : row ∈ below key rows cursor) :
    row ∈ (page key rows cursor limit).items ∨
      ∃ position, (page key rows cursor limit).next = some position ∧ key row < position := by
  have sorted := descending_pairwise (@nodup_below _ _ _ key rows cursor distinct)
  have inFound := (@descending_perm _ _ _ key _).mem_iff.mpr member
  rw [← List.take_append_drop limit (descending key (below key rows cursor))] at sorted inFound
  rcases List.mem_append.mp inFound with onPage | left
  · exact .inl onPage
  · have more : limit < (descending key (below key rows cursor)).length := by
      have := List.length_pos_of_mem left
      rw [List.length_drop] at this
      omega
    obtain ⟨last, isLast⟩ : ∃ last, ((descending key (below key rows cursor)).take limit).getLast? = some last := by
      refine ⟨_, List.getLast?_eq_some_getLast (List.ne_nil_of_length_pos ?_)⟩
      rw [List.length_take]
      omega
    have lastOnPage := List.mem_of_getLast? isLast
    refine .inr ⟨key last, ?_, (List.pairwise_append.mp sorted).2.2 last lastOnPage row left⟩
    simp only [page, if_pos more, isLast, Option.map_some]

/-- Going on leaves fewer rows, if only newer ones have come. -/
theorem length_below_next {rows' : List ρ} {position : κ} (positive : 0 < limit) (distinct : (rows.map key).Nodup)
    (distinct' : (rows'.map key).Nodup) (next : (page key rows cursor limit).next = some position)
    (newer : ∀ row ∈ rows', row ∈ rows ∨ position < key row) :
    (below key rows' (some position)).length < (below key rows cursor).length := by
  obtain ⟨-, last, isLast, isPosition⟩ := next_eq_some next
  obtain ⟨lastInRows, lastBelow⟩ := mem_of_mem_page (List.mem_of_getLast? isLast)
  have remains : ∀ row ∈ below key rows' (some position), row ∈ below key rows cursor := by
    intro row member
    obtain ⟨inRows', isBelow⟩ := mem_below.mp member
    have isBelow := isBelow position rfl
    have inRows := (newer row inRows').resolve_right isBelow.not_gt
    refine mem_below.mpr ⟨inRows, fun earlier isCursor => isBelow.trans ?_⟩
    rw [← isPosition]
    exact lastBelow earlier isCursor
  have lastGone : last ∉ below key rows' (some position) := by
    intro member
    have := (mem_below.mp member).2 position rfl
    rw [isPosition] at this
    exact lt_irrefl _ this
  have lastThere : last ∈ below key rows cursor := mem_below.mpr ⟨lastInRows, lastBelow⟩
  have one : (last :: below key rows' (some position)).Nodup :=
    List.nodup_cons.mpr ⟨lastGone, (nodup_below distinct').of_map key⟩
  have fits := one.subperm fun row member => by
    rcases List.mem_cons.mp member with rfl | inRest
    · exact lastThere
    · exact remains row inRest
  exact fits.length_le

end Page

/-! ## All pages -/

section Pages

variable {key} {limit : Nat}

theorem OnlyNewer.tail {rows : Nat → List ρ} {cursor : Option κ} {position : κ}
    (newer : OnlyNewer key limit rows cursor) (next : (page key (rows 0) cursor limit).next = some position) :
    OnlyNewer key limit (fun k => rows (k + 1)) (some position) := by
  intro n reached later isPage isNext
  refine newer (n + 1) reached later ?_ isNext
  rw [pageAt, next]
  exact isPage

/-- Each request gets a page of the rows that are there. -/
theorem exists_cursor {rows : Nat → List ρ} {cursor : Option κ} {n : Nat} {reached : Page ρ κ}
    (isPage : pageAt key limit rows cursor n = some reached) :
    ∃ position, reached = page key (rows n) position limit := by
  induction n generalizing rows cursor with
  | zero =>
    cases isPage
    exact ⟨cursor, rfl⟩
  | succ n ih =>
    rw [pageAt] at isPage
    split at isPage
    · cases isPage
    · exact ih isPage

/-- The requests come to an end, the rows they get stand in strictly descending order below the
    position that was started from, and a row that was there at each of them is among these. -/
theorem exists_pages (positive : 0 < limit) (rows : Nat → List ρ) (cursor : Option κ)
    (distinct : ∀ k, ((rows k).map key).Nodup) (newer : OnlyNewer key limit rows cursor) :
    ∃ pages : List (Page ρ κ), (∀ n, pageAt key limit rows cursor n = pages[n]?) ∧
      (pages.flatMap Page.items).Pairwise (fun a b => key b < key a) ∧
      (∀ row ∈ pages.flatMap Page.items, (∃ n, row ∈ rows n) ∧ ∀ position ∈ cursor, key row < position) ∧
      ∀ row, (∀ n < pages.length, row ∈ rows n) → (∀ position ∈ cursor, key row < position) →
        row ∈ pages.flatMap Page.items := by
  -- by induction on the number of rows that are left
  induction size : (below key (rows 0) cursor).length using Nat.strong_induction_on generalizing rows cursor with
  | _ size ih =>
    subst size
    cases next : (page key (rows 0) cursor limit).next with
    | none =>
      refine ⟨[page key (rows 0) cursor limit], fun n => ?_, ?_, ?_, ?_⟩
      · cases n with
        | zero => rfl
        | succ n => rw [pageAt, next]; rfl
      · simpa using page_pairwise (distinct 0)
      · intro row member
        obtain ⟨inRows, isBelow⟩ := mem_of_mem_page (by simpa using member)
        exact ⟨⟨0, inRows⟩, isBelow⟩
      · intro row present isBelow
        rcases mem_page_or_below positive (distinct 0) (mem_below.mpr ⟨present 0 (by simp), isBelow⟩) with
          onPage | ⟨position, isNext, -⟩
        · simpa using onPage
        · rw [next] at isNext
          cases isNext
    | some position =>
      have fewer := length_below_next positive (distinct 0) (distinct 1) next (newer 0 _ position rfl next)
      obtain ⟨pages, isPages, sorted, found, complete⟩ :=
        ih _ fewer (fun k => rows (k + 1)) (some position) (fun k => distinct (k + 1)) (newer.tail next) rfl
      refine ⟨page key (rows 0) cursor limit :: pages, fun n => ?_, ?_, ?_, ?_⟩
      · cases n with
        | zero => rfl
        | succ n => rw [pageAt, next]; exact isPages n
      · rw [List.flatMap_cons, List.pairwise_append]
        refine ⟨page_pairwise (distinct 0), sorted, fun a onPage b later => ?_⟩
        exact ((found b later).2 position rfl).trans_le (next_le (distinct 0) next onPage)
      · intro row member
        rw [List.flatMap_cons, List.mem_append] at member
        rcases member with onPage | later
        · obtain ⟨inRows, isBelow⟩ := mem_of_mem_page onPage
          exact ⟨⟨0, inRows⟩, isBelow⟩
        · obtain ⟨⟨k, inRows⟩, isBelow⟩ := found row later
          refine ⟨⟨k + 1, inRows⟩, fun earlier isCursor => (isBelow position rfl).trans ?_⟩
          obtain ⟨-, last, isLast, rfl⟩ := next_eq_some next
          exact (mem_of_mem_page (List.mem_of_getLast? isLast)).2 earlier isCursor
      · intro row present isBelow
        rw [List.flatMap_cons, List.mem_append]
        rcases mem_page_or_below positive (distinct 0) (mem_below.mpr ⟨present 0 (by simp), isBelow⟩) with
          onPage | ⟨reached, isNext, isBelowNext⟩
        · exact .inl onPage
        · rw [next] at isNext
          cases isNext
          refine .inr (complete row (fun n inPages => present (n + 1) (by simpa using inPages)) fun other isOther => ?_)
          cases isOther
          exact isBelowNext

end Pages

end ZeroNvr.Lib.Keyset
