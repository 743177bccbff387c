import ZeroNvr.Recordings.PlaybackPrune

/-! # What pruning keeps and removes

The size pass counts the bytes of the files that the age pass left to it.  An expired
file that could not be unlinked is still there, and is not counted: it stops the size
pass too early when its bytes decide whether the cache is within its bound.
-/

namespace ZeroNvr.PruneCall

open Lib

variable (call : PruneCall)

/-- Neither protected nor stuck. -/
def isRemovable (file : CachedFile) : Bool := !call.isProtected file && call.unlinks file

/-- Past the TTL, and not protected. -/
def isStale (file : CachedFile) : Bool := !call.isProtected file && call.isExpired file

/-- The files that the size pass may unlink, in its order. -/
def candidates (files : List CachedFile) : List CachedFile :=
  ((files.filter fun file => !call.isStale file).insertionSort fun a b => a.sortKey ≤ b.sortKey).filter call.isRemovable

/-- The bytes that the size pass counts and cannot take away. -/
def fixedSize (files : List CachedFile) : Nat :=
  totalSize ((files.filter fun file => !call.isStale file).filter fun file => !call.isRemovable file)

/-- The bytes of the expired files that could not be unlinked. -/
def stuckSize (files : List CachedFile) : Nat := totalSize ((files.filter call.isStale).filter fun file => !call.isRemovable file)

/-! ## Sizes -/

theorem totalSize_append (files others : List CachedFile) : totalSize (files ++ others) = totalSize files + totalSize others := by
  rw [totalSize, List.map_append, List.sum_append, totalSize, totalSize]

theorem totalSize_perm {files others : List CachedFile} (perm : files.Perm others) : totalSize files = totalSize others :=
  (perm.map CachedFile.size).sum_eq

theorem totalSize_filter (p : CachedFile → Bool) (files : List CachedFile) :
    totalSize files = totalSize (files.filter p) + totalSize (files.filter fun file => !p file) := by
  rw [← totalSize_append]
  exact totalSize_perm (List.filter_append_perm p files).symm

variable {call}

/-! ## The passes -/

theorem expire_eq (files : List CachedFile) :
    call.expire files =
      ((files.filter call.isStale).filter call.isRemovable, files.filter fun file => !call.isStale file) := by
  induction files with
  | nil => rfl
  | cons file files ih =>
    rw [expire, ih, List.filter_cons, List.filter_cons]
    cases isStale : call.isStale file with
    | false =>
      have notExpired : (!call.isProtected file && call.isExpired file) = false := isStale
      simp [notExpired]
    | true =>
      have expired : (!call.isProtected file && call.isExpired file) = true := isStale
      obtain ⟨notProtected, isExpired⟩ := Bool.and_eq_true_iff.mp expired
      rw [Bool.not_eq_true'] at notProtected
      cases unlinks : call.unlinks file <;> simp [isRemovable, notProtected, isExpired, unlinks]

/-- The size pass takes removable files away from the front, until few enough bytes are left. -/
theorem evict_spec {total : Nat} {files : List CachedFile} (counted : totalSize files ≤ total) :
    ∃ rest, files.filter call.isRemovable = call.evict total files ++ rest ∧
      (rest = [] ∨ total - totalSize (call.evict total files) ≤ call.maxBytes) ∧
      ∀ before file after, call.evict total files = before ++ file :: after → call.maxBytes < total - totalSize before := by
  induction files generalizing total with
  | nil => exact ⟨[], rfl, .inl rfl, fun before file after same => absurd same (by simp [evict])⟩
  | cons file files ih =>
    have split : totalSize (file :: files) = file.size + totalSize files := by
      rw [totalSize, List.map_cons, List.sum_cons, totalSize]
    rw [split] at counted
    rw [evict]
    by_cases within : total ≤ call.maxBytes
    · rw [if_pos within]
      exact ⟨_, rfl, .inr ((Nat.sub_le total _).trans within), fun before file after same => absurd same (by simp)⟩
    rw [if_neg within]
    cases isProtected : call.isProtected file with
    | true =>
      rw [if_pos rfl, List.filter_cons_of_neg (by simp [isRemovable, isProtected])]
      exact ih (by omega)
    | false =>
      rw [if_neg Bool.false_ne_true]
      cases unlinks : call.unlinks file with
      | false =>
        rw [if_neg Bool.false_ne_true, List.filter_cons_of_neg (by simp [isRemovable, unlinks])]
        exact ih (by omega)
      | true =>
        rw [if_pos rfl, List.filter_cons_of_pos (by simp [isRemovable, isProtected, unlinks])]
        obtain ⟨rest, removable, stops, exceeds⟩ := @ih (total - file.size) (by omega)
        have size (gone : List CachedFile) : totalSize (file :: gone) = file.size + totalSize gone := by
          rw [totalSize, List.map_cons, List.sum_cons, totalSize]
        refine ⟨rest, by rw [removable, List.cons_append], ?_, fun before other after same => ?_⟩
        · rw [size]
          refine stops.imp_right fun within => ?_
          omega
        · cases before with
          | nil =>
            simp only [totalSize, List.map_nil, List.sum_nil]
            omega
          | cons first before =>
            obtain ⟨rfl, later⟩ := List.cons.inj same
            have more := exceeds before other after later
            rw [size]
            omega

/-- The files that a call unlinks: the stale ones that it can, and then candidates from the front. -/
theorem prune_spec (call : PruneCall) (directory : Table CachedFile) :
    ∃ gone rest, call.prune directory = (directory.rows.filter call.isStale).filter call.isRemovable ++ gone ∧
      call.candidates directory.rows = gone ++ rest ∧
      (rest = [] ∨ call.fixedSize directory.rows + totalSize rest ≤ call.maxBytes) ∧
      ∀ before file after, gone = before ++ file :: after →
        call.maxBytes < call.fixedSize directory.rows + totalSize (file :: after ++ rest) := by
  generalize isFiles : directory.rows.filter (fun file => !call.isStale file) = files
  have sorted : (files.insertionSort fun a b => a.sortKey ≤ b.sortKey).Perm files := List.perm_insertionSort _ files
  have total : totalSize files = call.fixedSize directory.rows + totalSize (call.candidates directory.rows) := by
    rw [totalSize_filter call.isRemovable files, Nat.add_comm, fixedSize, candidates, isFiles,
      totalSize_perm (sorted.filter call.isRemovable)]
  rw [prune, expire_eq, isFiles]
  dsimp only
  by_cases within : totalSize files ≤ call.maxBytes
  · rw [if_pos within]
    refine ⟨[], call.candidates directory.rows, (List.append_nil _).symm, rfl, .inr (by omega), fun before file after same => ?_⟩
    exact absurd same (by simp)
  · rw [if_neg within]
    obtain ⟨rest, removable, stops, exceeds⟩ :=
      @evict_spec call (totalSize files) (files.insertionSort fun a b => a.sortKey ≤ b.sortKey)
        (totalSize_perm sorted).le
    have isCandidates : call.candidates directory.rows =
        call.evict (totalSize files) (files.insertionSort fun a b => a.sortKey ≤ b.sortKey) ++ rest := by
      rw [candidates, isFiles, removable]
    have sizes := congrArg totalSize isCandidates
    rw [totalSize_append] at sizes
    refine ⟨_, rest, rfl, isCandidates, stops.imp_right fun few => by omega, fun before file after same => ?_⟩
    have more := exceeds before file after same
    have parts := congrArg totalSize same
    rw [totalSize_append] at parts
    rw [totalSize_append]
    omega

/-! ## The directory -/

/-- The files that the age pass unlinks. -/
def aged (call : PruneCall) (directory : Table CachedFile) : List CachedFile :=
  (directory.rows.filter call.isStale).filter call.isRemovable

theorem nodup_rows (directory : Table CachedFile) : directory.rows.Nodup := List.Nodup.of_map _ directory.keysNodup

theorem candidates_perm (call : PruneCall) (files : List CachedFile) :
    (call.candidates files).Perm ((files.filter fun file => !call.isStale file).filter call.isRemovable) :=
  (List.perm_insertionSort _ _).filter call.isRemovable

theorem mem_candidates {files : List CachedFile} {file : CachedFile} :
    file ∈ call.candidates files ↔ file ∈ files ∧ call.isStale file = false ∧ call.isRemovable file = true := by
  rw [(candidates_perm call files).mem_iff, List.mem_filter, List.mem_filter, Bool.not_eq_true', and_assoc]

/-- What is unlinked and what is left make up the directory. -/
theorem totalSize_without {directory : Table CachedFile} {unlinked : List CachedFile} (distinct : unlinked.Nodup)
    (inside : ∀ file ∈ unlinked, file ∈ directory.rows) :
    totalSize directory.rows = totalSize unlinked + totalSize (without directory unlinked).rows := by
  have same : (directory.rows.filter fun file => file ∈ unlinked).Perm unlinked := by
    refine (List.perm_ext_iff_of_nodup ((nodup_rows directory).filter _) distinct).mpr fun file => ?_
    rw [List.mem_filter, decide_eq_true_eq]
    exact ⟨And.right, fun member => ⟨inside file member, member⟩⟩
  rw [totalSize_filter (fun file => file ∈ unlinked) directory.rows, totalSize_perm same, without, Table.keep]
  congr 2
  exact List.filter_congr fun file _ => by simp

theorem nodup_unlinked {directory : Table CachedFile} {gone rest : List CachedFile}
    (split : call.candidates directory.rows = gone ++ rest) : (aged call directory ++ gone).Nodup := by
  have distinct := nodup_rows directory
  have candidatesNodup : (call.candidates directory.rows).Nodup :=
    ((candidates_perm call directory.rows).nodup_iff).mpr ((distinct.filter _).filter _)
  rw [split] at candidatesNodup
  refine List.nodup_append.mpr ⟨(distinct.filter _).filter _, candidatesNodup.sublist (List.sublist_append_left gone rest), ?_⟩
  rintro file inAged other inGone rfl
  have isStale := (List.mem_filter.mp (List.mem_filter.mp inAged).1).2
  have isCandidate : file ∈ call.candidates directory.rows := split ▸ List.mem_append_left rest inGone
  rw [(mem_candidates.mp isCandidate).2.1] at isStale
  cases isStale

/-- The bytes that are left when a part of the candidates is gone. -/
theorem totalSize_left {directory : Table CachedFile} {gone rest : List CachedFile}
    (split : call.candidates directory.rows = gone ++ rest) :
    totalSize (without directory (aged call directory ++ gone)).rows =
      call.stuckSize directory.rows + call.fixedSize directory.rows + totalSize rest := by
  have parts := @totalSize_without directory (aged call directory ++ gone) (nodup_unlinked split) fun file member => by
    rcases List.mem_append.mp member with inAged | inGone
    · exact (List.mem_filter.mp (List.mem_filter.mp inAged).1).1
    · have isCandidate : file ∈ call.candidates directory.rows := split ▸ List.mem_append_left rest inGone
      exact (mem_candidates.mp isCandidate).1
  have whole : totalSize directory.rows = totalSize (aged call directory) + call.stuckSize directory.rows +
      (totalSize gone + totalSize rest + call.fixedSize directory.rows) := by
    rw [totalSize_filter call.isStale directory.rows, totalSize_filter call.isRemovable (directory.rows.filter call.isStale),
      totalSize_filter call.isRemovable (directory.rows.filter fun file => !call.isStale file),
      ← totalSize_perm (candidates_perm call directory.rows), split, totalSize_append, aged, stuckSize, fixedSize]
  rw [totalSize_append] at parts
  omega

/-- What the claim of a call is. -/
structure Pruned (call : PruneCall) (directory : Table CachedFile) : Prop where
  spares : ∀ file ∈ call.prune directory, call.isProtected file = false
  oldest : ∀ file ∈ call.prune directory, call.isExpired file = true ∨
    ∀ kept ∈ without directory (call.prune directory), call.isProtected kept = false → call.isExpired kept = false →
      call.unlinks kept = true → file.sortKey < kept.sortKey
  needed : ∀ before file after, call.prune directory = before ++ file :: after → call.isExpired file = false →
    call.maxBytes < totalSize (without directory before).rows
  bounded : totalSize (without directory (call.prune directory)).rows ≤ call.maxBytes ∨
    ∀ kept ∈ without directory (call.prune directory), call.isProtected kept = false → call.unlinks kept = false

/-- The stuck bytes never decide whether the bound is met: when some candidates are left and the counted
    bytes are within it, so are all of them. -/
def StuckSpared (call : PruneCall) (directory : Table CachedFile) : Prop :=
  ∀ gone rest, call.candidates directory.rows = gone ++ rest → rest ≠ [] →
    call.fixedSize directory.rows + totalSize rest ≤ call.maxBytes →
    call.stuckSize directory.rows + call.fixedSize directory.rows + totalSize rest ≤ call.maxBytes

theorem sortKey_injective {file other : CachedFile} (same : file.sortKey = other.sortKey) : file = other := by
  cases file
  cases other
  simp only [CachedFile.sortKey, EmbeddingLike.apply_eq_iff_eq, Prod.mk.injEq] at same
  obtain ⟨rfl, rfl, rfl⟩ := same
  rfl

theorem mem_without {directory : Table CachedFile} {unlinked : List CachedFile} {file : CachedFile} :
    file ∈ without directory unlinked ↔ file ∈ directory.rows ∧ file ∉ unlinked := by
  rw [without, Table.mem_keep, decide_eq_true_eq]
  exact Iff.rfl

theorem removable_facts {file : CachedFile} (isRemovable : call.isRemovable file = true) :
    call.isProtected file = false ∧ call.unlinks file = true := by
  simpa [PruneCall.isRemovable] using isRemovable

theorem aged_facts {directory : Table CachedFile} {file : CachedFile} (member : file ∈ aged call directory) :
    call.isProtected file = false ∧ call.isExpired file = true := by
  have isStale := (List.mem_filter.mp (List.mem_filter.mp member).1).2
  simpa [PruneCall.isStale] using isStale

/-- What is left and could go is what the size pass left. -/
theorem left_iff {directory : Table CachedFile} {gone rest : List CachedFile}
    (split : call.candidates directory.rows = gone ++ rest) (file : CachedFile) :
    file ∈ rest ↔ file ∈ without directory (aged call directory ++ gone) ∧ call.isRemovable file = true := by
  have distinct : (gone ++ rest).Nodup := by
    rw [← split]
    exact ((candidates_perm call directory.rows).nodup_iff).mpr (((nodup_rows directory).filter _).filter _)
  rw [mem_without, List.mem_append, not_or]
  constructor
  · intro member
    obtain ⟨inRows, notStale, isRemovable⟩ := mem_candidates.mp (split ▸ List.mem_append_right gone member)
    refine ⟨⟨inRows, fun inAged => ?_, fun inGone => List.disjoint_of_nodup_append distinct inGone member⟩, isRemovable⟩
    have isStale := (List.mem_filter.mp (List.mem_filter.mp inAged).1).2
    rw [notStale] at isStale
    cases isStale
  · rintro ⟨⟨inRows, notAged, notGone⟩, isRemovable⟩
    have notStale : call.isStale file = false := by
      cases isStale : call.isStale file with
      | false => rfl
      | true => exact absurd (List.mem_filter.mpr ⟨List.mem_filter.mpr ⟨inRows, isStale⟩, isRemovable⟩) notAged
    have isCandidate : file ∈ gone ++ rest := split ▸ mem_candidates.mpr ⟨inRows, notStale, isRemovable⟩
    exact (List.mem_append.mp isCandidate).resolve_left notGone

/-- A call removes nothing that is protected, the expired files and then the oldest ones, and none of these
    without need.  It leaves too many bytes beside files that could go exactly when the stuck bytes decide. -/
theorem prune_iff (call : PruneCall) (directory : Table CachedFile) : Pruned call directory ↔ StuckSpared call directory := by
  obtain ⟨gone, rest, isPrune, split, stops, exceeds⟩ := prune_spec call directory
  have isPrune : call.prune directory = aged call directory ++ gone := isPrune
  have left := totalSize_left split
  have removed (file : CachedFile) (member : file ∈ gone) :
      call.isStale file = false ∧ call.isRemovable file = true :=
    (mem_candidates.mp (split ▸ List.mem_append_left rest member)).2
  constructor
  · intro pruned gone' rest' split' nonempty within
    obtain ⟨more, rfl⟩ : ∃ more, rest = more ++ rest' := by
      rcases List.append_eq_append_iff.mp (split.symm.trans split') with ⟨more, _, isRest⟩ | ⟨excess, isGone, isRest'⟩
      · exact ⟨more, isRest⟩
      · cases excess with
        | nil => exact ⟨[], isRest'.symm⟩
        | cons file after =>
          have exceeded := exceeds gone' file after isGone
          rw [isRest'] at within
          omega
    obtain ⟨file, later⟩ := List.exists_mem_of_ne_nil rest' nonempty
    obtain ⟨isLeft, isRemovable⟩ := (left_iff split file).mp (List.mem_append_right more later)
    obtain ⟨notProtected, unlinks⟩ := removable_facts isRemovable
    rcases pruned.bounded with bytes | stuck
    · rw [isPrune, left, totalSize_append] at bytes
      omega
    · have refused := stuck file (isPrune ▸ isLeft) notProtected
      rw [unlinks] at refused
      cases refused
  · intro spared
    refine ⟨fun file member => ?_, fun file member => ?_, fun before file after same fresh => ?_, ?_⟩
    · rw [isPrune] at member
      rcases List.mem_append.mp member with inAged | inGone
      · exact (aged_facts inAged).1
      · exact (removable_facts (removed file inGone).2).1
    · rw [isPrune] at member
      rcases List.mem_append.mp member with inAged | inGone
      · exact .inl (aged_facts inAged).2
      refine .inr fun kept isLeft notProtected _ unlinks => ?_
      rw [isPrune] at isLeft
      have inRest : kept ∈ rest :=
        (left_iff split kept).mpr ⟨isLeft, by simp [isRemovable, notProtected, unlinks]⟩
      have sorted : (gone ++ rest).Pairwise fun a b => a.sortKey ≤ b.sortKey := by
        rw [← split]
        exact (List.pairwise_insertionSort _ _).filter _
      have le : file.sortKey ≤ kept.sortKey := (List.pairwise_append.mp sorted).2.2 file inGone kept inRest
      refine lt_of_le_of_ne le fun same => ?_
      cases sortKey_injective same
      exact (mem_without.mp isLeft).2 (List.mem_append_right _ inGone)
    · obtain ⟨first, rfl, isGone⟩ : ∃ first, before = aged call directory ++ first ∧ gone = first ++ file :: after := by
        rcases List.append_eq_append_iff.mp (isPrune.symm.trans same) with ⟨first, isBefore, isGone⟩ | ⟨excess, isAged, isRest⟩
        · exact ⟨first, isBefore, isGone⟩
        · cases excess with
          | nil => exact ⟨[], by rw [isAged, List.append_nil, List.append_nil], isRest.symm⟩
          | cons other excess =>
            obtain ⟨rfl, _⟩ := List.cons.inj isRest
            have expired := (aged_facts (isAged ▸ List.mem_append_right before List.mem_cons_self)).2
            rw [fresh] at expired
            cases expired
      have exceeded := exceeds first file after isGone
      rw [totalSize_left (show call.candidates directory.rows = first ++ (file :: after ++ rest) by
        rw [split, isGone, List.append_assoc])]
      omega
    · rcases eq_or_ne rest [] with rfl | nonempty
      · refine .inr fun kept isLeft notProtected => ?_
        cases unlinks : call.unlinks kept with
        | false => rfl
        | true =>
          have inRest := (left_iff split kept).mpr ⟨isPrune ▸ isLeft, by simp [isRemovable, notProtected, unlinks]⟩
          exact absurd inRest List.not_mem_nil
      · refine .inl ?_
        rw [isPrune, left]
        exact spared gone rest split nonempty (stops.resolve_left nonempty)

/-- An expired file that cannot be unlinked fills the cache on its own, and a file that could go is kept. -/
def stuckCall : PruneCall where
  resolve path := path
  protectedPaths := []
  unlinks file := file.path ≠ "old.mp4"
  now := 100
  ttlSeconds := 50
  maxBytes := 10

def stuckDirectory : Table CachedFile where
  rows := [⟨"old.mp4", 0, 20⟩, ⟨"new.mp4", 99, 5⟩]
  keysNodup := by decide

theorem prune_stuck : ¬Pruned stuckCall stuckDirectory := by
  intro pruned
  have unlinked : stuckCall.prune stuckDirectory = [] := by decide +kernel
  have bounded := pruned.bounded
  rw [unlinked] at bounded
  rcases bounded with few | stuck
  · exact absurd few (by decide)
  · exact absurd (stuck ⟨"new.mp4", 99, 5⟩ (mem_without.mpr ⟨by decide, List.not_mem_nil⟩) (by decide)) (by decide)

end ZeroNvr.PruneCall
