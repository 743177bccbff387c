import ZeroNvr.Lib.Table

/-! # A directory of names

Names lead to inodes.  A link never takes a name that is in use; a rename does,
and does nothing when both names lead to the same inode.
-/

namespace ZeroNvr.Lib

variable {κ ι : Type}

structure DirectoryEntry (κ ι : Type) where
  name : κ
  inode : ι

instance : Keyed (DirectoryEntry κ ι) κ := ⟨DirectoryEntry.name⟩

abbrev Directory (κ ι : Type) := Table (DirectoryEntry κ ι)

inductive LinkError where
  | missing | exists_
  deriving DecidableEq

namespace Directory

variable [DecidableEq κ] (directory : Directory κ ι)

/-- The inode a name leads to. -/
def inode? (name : κ) : Option ι := (directory.get? name).map DirectoryEntry.inode

/-- A second name for the inode of the first. -/
def link (old new : κ) : Except LinkError (Directory κ ι) :=
  match directory.inode? old with
  | none => .error .missing
  | some inode =>
    match directory.insert? { name := new, inode } with
    | some grown => .ok grown
    | none => .error .exists_

/-- The name is taken away; the inode stays under its other names. -/
def unlink (name : κ) : Option (Directory κ ι) :=
  if (directory.inode? name).isSome then some (directory.remove name) else none

/-- The inode of the first name moves to the second, in place of what was there. -/
def rename [DecidableEq ι] (old new : κ) : Option (Directory κ ι) :=
  match directory.inode? old with
  | none => none
  | some inode =>
    if directory.inode? new = some inode then some directory
    else some ((Table.remove directory old).put { name := new, inode })

variable {directory} {name old new : κ} {directory' : Directory κ ι}

theorem inode?_eq_some_iff {inode : ι} :
    directory.inode? name = some inode ↔ { name, inode } ∈ directory := by
  rw [inode?, Option.map_eq_some_iff]
  constructor
  · rintro ⟨⟨_, _⟩, found, rfl⟩
    obtain ⟨member, rfl⟩ := Table.get?_eq_some_iff.mp found
    exact member
  · intro member
    exact ⟨_, Table.get?_of_mem member, rfl⟩

theorem inode?_remove (removed : κ) :
    inode? (Table.remove directory removed) name = if name = removed then none else directory.inode? name := by
  split
  next same =>
    rw [← Option.not_isSome_iff_eq_none, Option.isSome_iff_exists]
    rintro ⟨inode, found⟩
    exact (Table.mem_remove.mp (inode?_eq_some_iff.mp found)).2 same
  next differs =>
    refine Option.ext fun inode => ?_
    rw [inode?_eq_some_iff, inode?_eq_some_iff, Table.mem_remove]
    exact and_iff_left differs

theorem inode?_link (linked : directory.link old new = .ok directory') : directory.inode? new = none ∧
    ∃ inode, directory.inode? old = some inode ∧
      ∀ name, directory'.inode? name = if name = new then some inode else directory.inode? name := by
  unfold link at linked
  split at linked
  next => cases linked
  next inode found =>
    split at linked
    next grown inserted =>
      cases linked
      refine ⟨?_, inode, found, fun name => ?_⟩
      · rw [inode?, Option.map_eq_none_iff, Table.get?_eq_none_iff]
        exact Table.insert?_fresh inserted
      · rw [inode?, Table.get?_insert? inserted]
        by_cases same : name = new
        · rw [if_pos same, if_pos (show Keyed.key (DirectoryEntry.mk new inode) = name from same.symm)]
          rfl
        · rw [if_neg same, if_neg (show Keyed.key (DirectoryEntry.mk new inode) ≠ name from Ne.symm same)]
          rfl
    next => cases linked

/-- A link fails when the first name is missing or the second is in use. -/
theorem link_eq_error {error : LinkError} (failed : directory.link old new = .error error) :
    (error = .missing ∧ directory.inode? old = none) ∨ (error = .exists_ ∧ (directory.inode? new).isSome) := by
  unfold link at failed
  split at failed
  next missing =>
    cases failed
    exact .inl ⟨rfl, missing⟩
  next inode found =>
    split at failed
    next => cases failed
    next refused =>
      cases failed
      obtain ⟨⟨_, taken⟩, member, rfl⟩ := Table.insert?_eq_none refused
      exact .inr ⟨rfl, Option.isSome_iff_exists.mpr ⟨taken, inode?_eq_some_iff.mpr member⟩⟩

theorem inode?_unlink (unlinked : directory.unlink old = some directory') : (directory.inode? old).isSome ∧
    ∀ name, directory'.inode? name = if name = old then none else directory.inode? name := by
  unfold unlink at unlinked
  split at unlinked
  next found =>
    cases unlinked
    exact ⟨found, fun _ => inode?_remove old⟩
  next => cases unlinked

theorem unlink_eq_none (missing : directory.unlink old = none) : directory.inode? old = none := by
  unfold unlink at missing
  split at missing
  next => cases missing
  next notFound => exact Option.not_isSome_iff_eq_none.mp notFound

theorem inode?_put (taken : κ) (moved : ι) :
    inode? (Table.put directory { name := taken, inode := moved }) name =
      if name = taken then some moved else directory.inode? name := by
  refine Option.ext fun inode => ?_
  rw [inode?_eq_some_iff, Table.mem_put]
  split
  next same =>
    subst same
    constructor
    · rintro (same | ⟨_, differs⟩)
      · cases same
        rfl
      · exact absurd rfl differs
    · intro same
      cases same
      exact .inl rfl
  next differs =>
    rw [inode?_eq_some_iff]
    constructor
    · rintro (same | ⟨member, _⟩)
      · exact absurd (congrArg DirectoryEntry.name same) differs
      · exact member
    · exact fun member => .inr ⟨member, differs⟩

/-- After a rename the inode has the new name, and the old one only if it had both before. -/
theorem inode?_rename [DecidableEq ι] (renamed : directory.rename old new = some directory') :
    ∃ inode, directory.inode? old = some inode ∧ directory'.inode? new = some inode ∧
      (directory' = directory ∨ directory.inode? new ≠ some inode ∧
        ∀ name, name ≠ new → directory'.inode? name = if name = old then none else directory.inode? name) := by
  unfold rename at renamed
  split at renamed
  next => cases renamed
  next inode found =>
    refine ⟨inode, found, ?_⟩
    split at renamed
    next both =>
      cases renamed
      exact ⟨both, .inl rfl⟩
    next differs =>
      cases renamed
      refine ⟨by rw [inode?_put, if_pos rfl], .inr ⟨differs, fun name other => ?_⟩⟩
      rw [inode?_put, if_neg other, inode?_remove]

end Directory

end ZeroNvr.Lib
