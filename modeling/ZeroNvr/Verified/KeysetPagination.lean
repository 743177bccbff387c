import ZeroNvr.Core.Pagination

/-! # Every row once

Following the cursors from the first page ends, and the pages together are the
rows in descending order; rows that are deleted and newer ones that are inserted
between two requests do not disturb the others.
-/

namespace ZeroNvr.Pagination

open Lib

section Statement

variable {ρ : Type} (timestampColumn : ρ → Timestamp) (idColumn : ρ → UUID) (limit : Int) (cursorKey : CursorKey)
  (limitErrorCode cursorErrorCode resourceLabel : String)

/-- The page of the request number `n` when every request but the first gives the cursor of the page
    before it; `statements k` are the rows at request number `k`.  There is no such request once a
    page had no cursor. -/
def pageAt : (statements : Nat → List ρ) → (cursor : Option String) → Nat → Result (Option (Page ρ))
  | statements, cursor, 0 => do
    let page ← listPage timestampColumn idColumn (statements 0) cursor limit cursorKey limitErrorCode cursorErrorCode
      resourceLabel
    return some page
  | statements, cursor, n + 1 => do
    let page ← listPage timestampColumn idColumn (statements 0) cursor limit cursorKey limitErrorCode cursorErrorCode
      resourceLabel
    match page.nextCursor with
    | none => return none
    | some cursor => pageAt (fun k => statements (k + 1)) (some cursor) n

/-- Between two requests rows are deleted, and rows are inserted that are newer than the last row
    of the page before. -/
def OnlyNewer (statements : Nat → List ρ) : Prop :=
  ∀ n page last,
    pageAt timestampColumn idColumn limit cursorKey limitErrorCode cursorErrorCode resourceLabel statements none n =
        .ok (some page) →
      page.nextCursor.isSome → page.items.getLast? = some last →
        ∀ row ∈ statements (n + 1), row ∈ statements n ∨
          position timestampColumn idColumn last < position timestampColumn idColumn row

/-- The rows of the page that a cursor leads to are those of the keyset. -/
theorem pageAt_eq (inBounds : 1 ≤ limit ∧ limit ≤ pageLimitMax) (statements : Nat → List ρ)
    (cursor : Option (Timestamp × UUID)) (n : Nat) :
    pageAt timestampColumn idColumn limit cursorKey limitErrorCode cursorErrorCode resourceLabel statements
        (cursor.map fun (timestamp, identifier) => encodeCursor timestamp identifier cursorKey) n =
      .ok ((Keyset.pageAt (position timestampColumn idColumn) limit.toNat statements
        (cursor.map fun (timestamp, identifier) => toLex (timestamp.instant, identifier.int)) n).map
          (rendered timestampColumn idColumn cursorKey)) := by
  have first (statements : Nat → List ρ) (cursor : Option (Timestamp × UUID)) :
      listPage timestampColumn idColumn (statements 0)
          (cursor.map fun (timestamp, identifier) => encodeCursor timestamp identifier cursorKey) limit cursorKey
          limitErrorCode cursorErrorCode resourceLabel =
        .ok (rendered timestampColumn idColumn cursorKey
          (Keyset.page (position timestampColumn idColumn) (statements 0)
            (cursor.map fun (timestamp, identifier) => toLex (timestamp.instant, identifier.int)) limit.toNat)) := by
    have accepted : normalizePageLimit limit limitErrorCode resourceLabel pageLimitMax = .ok limit := by
      rw [normalizePageLimit, if_neg (by omega)]
    simp only [listPage, accepted, bind, Except.bind, paginate_eq]
  induction n generalizing statements cursor with
  | zero => rw [pageAt, first]; rfl
  | succ n ih =>
    rw [pageAt, first, Keyset.pageAt]
    cases next : (Keyset.page (position timestampColumn idColumn) (statements 0)
        (cursor.map fun (timestamp, identifier) => toLex (timestamp.instant, identifier.int)) limit.toNat).next with
    | none =>
      have noCursor : (rendered timestampColumn idColumn cursorKey
          (Keyset.page (position timestampColumn idColumn) (statements 0)
            (cursor.map fun (timestamp, identifier) => toLex (timestamp.instant, identifier.int)) limit.toNat)).nextCursor =
          none := by
        rw [rendered, next]; rfl
      simp only [bind, Except.bind, noCursor]
      rfl
    | some reached =>
      obtain ⟨-, last, isLast, isReached⟩ := Keyset.next_eq_some next
      have itsCursor : (rendered timestampColumn idColumn cursorKey
          (Keyset.page (position timestampColumn idColumn) (statements 0)
            (cursor.map fun (timestamp, identifier) => toLex (timestamp.instant, identifier.int)) limit.toNat)).nextCursor =
          some (encodeCursor (timestampColumn last) (idColumn last) cursorKey) := by
        simp only [rendered, next, Option.isSome_some, if_true, isLast, Option.map_some]
      simp only [bind, Except.bind, itsCursor]
      have later := ih (fun k => statements (k + 1)) (some (timestampColumn last, idColumn last))
      simp only [Option.map_some] at later
      rw [later, ← isReached]
      rfl

/-- Distinct ids make distinct positions. -/
theorem nodup_position {rows : List ρ} (distinct : (rows.map idColumn).Nodup) :
    (rows.map (position timestampColumn idColumn)).Nodup := by
  rw [List.Nodup, List.pairwise_map] at distinct ⊢
  exact distinct.imp fun apart same => apart (UUID.eq_of_int (congrArg (fun p => (ofLex p).2) same))

/-- Rows that are newer than all the others are newer than the last row of a page. -/
theorem onlyNewer_of_newest (inBounds : 1 ≤ limit ∧ limit ≤ pageLimitMax) {statements : Nat → List ρ}
    (newest : ∀ n, ∀ row ∈ statements (n + 1), row ∈ statements n ∨
      ∀ old ∈ statements n, position timestampColumn idColumn old < position timestampColumn idColumn row) :
    OnlyNewer timestampColumn idColumn limit cursorKey limitErrorCode cursorErrorCode resourceLabel statements := by
  intro n page last isPage _ isLast row member
  have read := pageAt_eq timestampColumn idColumn limit cursorKey limitErrorCode cursorErrorCode resourceLabel inBounds
    statements none n
  rw [Option.map_none, isPage, Except.ok.injEq] at read
  obtain ⟨reached, isReached, rfl⟩ := Option.map_eq_some_iff.mp read.symm
  obtain ⟨cursor, rfl⟩ := Keyset.exists_cursor isReached
  exact (newest n row member).imp_right fun above =>
    above last (Keyset.mem_of_mem_page (List.mem_of_getLast? isLast)).1

/-- The pages of the keyset are the pages of the endpoint. -/
theorem exists_pages (inBounds : 1 ≤ limit ∧ limit ≤ pageLimitMax) {statements : Nat → List ρ}
    (distinct : ∀ n, ((statements n).map idColumn).Nodup)
    (newer : OnlyNewer timestampColumn idColumn limit cursorKey limitErrorCode cursorErrorCode resourceLabel statements) :
    ∃ pages : List (Page ρ),
      (∀ n, pageAt timestampColumn idColumn limit cursorKey limitErrorCode cursorErrorCode resourceLabel statements none n =
        .ok pages[n]?) ∧
      ((pages.flatMap Page.items).Pairwise fun a b =>
        position timestampColumn idColumn b < position timestampColumn idColumn a) ∧
      (∀ row ∈ pages.flatMap Page.items, ∃ n, row ∈ statements n) ∧
      ∀ row, (∀ n < pages.length, row ∈ statements n) → row ∈ pages.flatMap Page.items := by
  have read := pageAt_eq timestampColumn idColumn limit cursorKey limitErrorCode cursorErrorCode resourceLabel inBounds
    statements none
  have newerRows : Keyset.OnlyNewer (position timestampColumn idColumn) limit.toNat statements none := by
    intro n reached next isReached isNext row member
    obtain ⟨cursor, rfl⟩ := Keyset.exists_cursor isReached
    obtain ⟨-, last, isLast, rfl⟩ := Keyset.next_eq_some isNext
    have isPage := read n
    rw [Option.map_none, Option.map_none, isReached, Option.map_some] at isPage
    refine newer n _ last isPage ?_ isLast row member
    simp only [rendered, isNext, Option.isSome_some, if_true, isLast, Option.map_some]
  obtain ⟨pages, isPages, sorted, found, complete⟩ := Keyset.exists_pages (by omega) statements none
    (fun n => nodup_position timestampColumn idColumn (distinct n)) newerRows
  have sameRows : (pages.map (rendered timestampColumn idColumn cursorKey)).flatMap Page.items =
      pages.flatMap Keyset.Page.items := by
    rw [List.flatMap_map]
    rfl
  refine ⟨pages.map (rendered timestampColumn idColumn cursorKey), fun n => ?_, ?_, ?_, ?_⟩
  · have isPage := read n
    rw [Option.map_none, Option.map_none, isPages n] at isPage
    rw [isPage, List.getElem?_map]
  · rwa [sameRows]
  · rw [sameRows]
    exact fun row member => (found row member).1
  · rw [sameRows, List.length_map]
    exact fun row present => complete row present fun _ none => absurd none (by simp)

/-- Following `next_cursor` from the first page terminates.  Over a fixed set of rows the pages are
    the whole set in descending order of timestamp and id.  When rows are deleted and newer ones
    inserted between the pages, no row is visited twice, and every row that is there at each request
    is visited. -/
theorem pages_visit_every_row_once (inBounds : 1 ≤ limit ∧ limit ≤ pageLimitMax) :
    (∀ rows : List ρ, (rows.map idColumn).Nodup →
      ∃ pages : List (Page ρ),
        (∀ n, pageAt timestampColumn idColumn limit cursorKey limitErrorCode cursorErrorCode resourceLabel
          (fun _ => rows) none n = .ok pages[n]?) ∧
        (pages.flatMap Page.items).Perm rows ∧
        (pages.flatMap Page.items).Pairwise fun a b =>
          position timestampColumn idColumn b < position timestampColumn idColumn a) ∧
    ∀ statements : Nat → List ρ, (∀ n, ((statements n).map idColumn).Nodup) →
      OnlyNewer timestampColumn idColumn limit cursorKey limitErrorCode cursorErrorCode resourceLabel statements →
        ∃ pages : List (Page ρ),
          (∀ n, pageAt timestampColumn idColumn limit cursorKey limitErrorCode cursorErrorCode resourceLabel
            statements none n = .ok pages[n]?) ∧
          (pages.flatMap Page.items).Nodup ∧
          ∀ row, (∀ n < pages.length, row ∈ statements n) → row ∈ pages.flatMap Page.items := by
  have apart {rows : List ρ}
      (sorted : rows.Pairwise fun a b => position timestampColumn idColumn b < position timestampColumn idColumn a) :
      rows.Nodup := by
    rw [List.Nodup]
    exact sorted.imp fun below same => (same ▸ below).false
  constructor
  · intro rows distinct
    obtain ⟨pages, isPages, sorted, found, complete⟩ := exists_pages timestampColumn idColumn limit cursorKey
      limitErrorCode cursorErrorCode resourceLabel inBounds (fun _ => distinct) (fun _ _ _ _ _ _ row member => .inl member)
    refine ⟨pages, isPages, ?_, sorted⟩
    rw [List.perm_ext_iff_of_nodup (apart sorted) (distinct.of_map idColumn)]
    exact fun row => ⟨fun member => (found row member).choose_spec, fun member => complete row fun _ _ => member⟩
  · intro statements distinct newer
    obtain ⟨pages, isPages, sorted, -, complete⟩ := exists_pages timestampColumn idColumn limit cursorKey
      limitErrorCode cursorErrorCode resourceLabel inBounds distinct newer
    exact ⟨pages, isPages, apart sorted, complete⟩

end Statement

/-- Three recordings, two of which start at the same moment. -/
def tiedRows : List (Timestamp × UUID) :=
  [(⟨0, Calendar.inRange_zero⟩, ⟨1, by decide⟩), (⟨0, Calendar.inRange_zero⟩, ⟨2, by decide⟩), (⟨-5, by decide⟩, ⟨3, by decide⟩)]

/-- The last of the three is deleted and a newer one inserted after the first page. -/
def changedRows : Nat → List (Timestamp × UUID)
  | 0 => tiedRows
  | _ + 1 => (⟨7, by decide⟩, ⟨4, by decide⟩) :: tiedRows.take 2

theorem tied_pages_visit_every_row_once :
    (∃ pages : List (Page (Timestamp × UUID)),
      (∀ n, pageAt Prod.fst Prod.snd 1 startedAt "l" "c" "Recording" (fun _ => tiedRows) none n = .ok pages[n]?) ∧
        (pages.flatMap Page.items).Perm tiedRows ∧
        (pages.flatMap Page.items).Pairwise fun a b => position Prod.fst Prod.snd b < position Prod.fst Prod.snd a) ∧
    ∃ pages : List (Page (Timestamp × UUID)),
      (∀ n, pageAt Prod.fst Prod.snd 1 startedAt "l" "c" "Recording" changedRows none n = .ok pages[n]?) ∧
        (pages.flatMap Page.items).Nodup ∧
        ∀ row, (∀ n < pages.length, row ∈ changedRows n) → row ∈ pages.flatMap Page.items := by
  obtain ⟨fixed, changing⟩ := @pages_visit_every_row_once (Timestamp × UUID) Prod.fst Prod.snd 1 startedAt "l" "c"
    "Recording" (by decide)
  refine ⟨fixed tiedRows (by decide), changing changedRows (fun n => ?_) (onlyNewer_of_newest _ _ _ _ _ _ _ (by decide) ?_)⟩
  · cases n with
    | zero => exact (by decide : (tiedRows.map Prod.snd).Nodup)
    | succ n => exact (by decide : ((((⟨7, by decide⟩, ⟨4, by decide⟩) :: tiedRows.take 2).map Prod.snd).Nodup))
  · intro n row member
    cases n with
    | zero =>
      rcases List.mem_cons.mp member with rfl | kept
      · exact .inr (by decide)
      · exact .inl (List.mem_of_mem_take kept)
    | succ n => exact .inl member

end ZeroNvr.Pagination
