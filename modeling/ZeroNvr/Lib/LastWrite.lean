import Mathlib

/-! # The last write and the latest value

A cell that every write overwrites, with a value or with nothing, holds the last
write.  A cell that only moves forward holds the latest value written.  The two
agree, and the first never loses a value again, exactly when no empty write
follows a value and the last write carries the latest value.
-/

namespace ZeroNvr.Lib

variable {α : Type} [LinearOrder α]

/-- What an overwriting cell holds. -/
def lastWrite (writes : List (Option α)) : Option α := writes.getLast?.join

/-- What a cell that only moves forward holds. -/
def latest (writes : List (Option α)) : Option α := writes.foldl (Option.merge max) none

structure EndsInOrder (writes : List (Option α)) : Prop where
  noneAfter : writes.Pairwise fun earlier later => earlier.isSome → later.isSome
  lastLatest : ∀ value, some value ∈ writes → ∃ last, writes.getLast? = some (some last) ∧ value ≤ last

omit [LinearOrder α] in
@[simp] theorem lastWrite_concat (writes : List (Option α)) (write : Option α) :
    lastWrite (writes ++ [write]) = write := by
  simp [lastWrite]

@[simp] theorem latest_concat (writes : List (Option α)) (write : Option α) :
    latest (writes ++ [write]) = (latest writes).merge max write := by
  simp [latest]

theorem latest_mem {writes : List (Option α)} {value : α} (isLatest : latest writes = some value) :
    some value ∈ writes := by
  induction writes using List.reverseRecOn generalizing value with
  | nil => cases isLatest
  | append_singleton writes write ih =>
    rw [latest_concat] at isLatest
    cases before : latest writes with
    | none => simp [before] at isLatest; simp [isLatest]
    | some earlier =>
      cases write with
      | none =>
        simp only [before, Option.merge_none_right] at isLatest
        exact List.mem_append_left _ (ih (before.trans isLatest))
      | some written =>
        simp only [before, Option.merge_some_some, Option.some.injEq] at isLatest
        rcases max_choice earlier written with isEarlier | isWritten
        · exact List.mem_append_left _ (ih (by rw [before, ← isLatest, isEarlier]))
        · simp [← isLatest, isWritten]

theorem le_latest {writes : List (Option α)} {value : α} (member : some value ∈ writes) :
    ∃ last, latest writes = some last ∧ value ≤ last := by
  induction writes using List.reverseRecOn with
  | nil => cases member
  | append_singleton writes write ih =>
    rw [latest_concat]
    rcases List.mem_append.mp member with earlier | isLast
    · obtain ⟨last, isLatest, before⟩ := ih earlier
      cases write with
      | none => exact ⟨last, by simp [isLatest], before⟩
      | some written => exact ⟨max last written, by simp [isLatest], before.trans (le_max_left _ _)⟩
    · obtain rfl : some value = write := by simpa using isLast
      cases before : latest writes with
      | none => exact ⟨value, by simp, le_rfl⟩
      | some last => exact ⟨max last value, by simp, le_max_right _ _⟩

theorem latest_isSome {writes : List (Option α)} : (latest writes).isSome ↔ ∃ write ∈ writes, write.isSome := by
  constructor
  · intro isSome
    obtain ⟨value, isLatest⟩ := Option.isSome_iff_exists.mp isSome
    exact ⟨some value, latest_mem isLatest, rfl⟩
  · rintro ⟨write, member, isSome⟩
    obtain ⟨value, rfl⟩ := Option.isSome_iff_exists.mp isSome
    obtain ⟨last, isLatest, _⟩ := le_latest member
    rw [isLatest]
    rfl

/-- The overwriting cell keeps a value once it has one, and ends with the latest one, exactly when the
    writes are in order. -/
theorem lastWrite_latest_iff (writes : List (Option α)) :
    ((∀ before after, writes = before ++ after → (latest before).isSome → (lastWrite before).isSome) ∧
      lastWrite writes = latest writes) ↔ EndsInOrder writes := by
  constructor
  · rintro ⟨stays, agrees⟩
    refine ⟨List.pairwise_iff_getElem.mpr fun i j inI inJ before isSome => ?_, fun value member => ?_⟩
    · have split : writes = (writes.take j ++ [writes[j]]) ++ writes.drop (j + 1) := by simp
      have kept := stays _ _ split (latest_isSome.mpr ⟨writes[i], ?_, isSome⟩)
      · rwa [lastWrite_concat] at kept
      · exact List.mem_append_left _ (List.mem_take_iff_getElem.mpr ⟨i, by omega, rfl⟩)
    · obtain ⟨last, isLatest, before⟩ := le_latest member
      rw [← agrees, lastWrite, Option.join_eq_some_iff] at isLatest
      exact ⟨last, isLatest, before⟩
  · rintro ⟨noneAfter, lastLatest⟩
    constructor
    · rintro before after rfl isSome
      obtain ⟨write, member, hasValue⟩ := latest_isSome.mp isSome
      rcases List.eq_nil_or_concat before with rfl | ⟨init, last, rfl⟩
      · cases member
      · rw [List.concat_eq_append] at member noneAfter ⊢
        rw [lastWrite_concat]
        rcases List.mem_append.mp member with earlier | isLast
        · exact (List.pairwise_append.mp (List.pairwise_append.mp noneAfter).1).2.2 write earlier last
            List.mem_cons_self hasValue
        · rwa [← List.mem_singleton.mp isLast]
    · cases isLatest : latest writes with
      | none =>
        rw [← Option.not_isSome_iff_eq_none] at isLatest ⊢
        intro isSome
        obtain ⟨value, isLast⟩ := Option.isSome_iff_exists.mp isSome
        rw [lastWrite, Option.join_eq_some_iff] at isLast
        exact isLatest (latest_isSome.mpr ⟨some value, List.mem_of_getLast? isLast, rfl⟩)
      | some value =>
        obtain ⟨last, isLast, before⟩ := lastLatest value (latest_mem isLatest)
        obtain ⟨value', isLatest', after⟩ := le_latest (List.mem_of_getLast? isLast)
        obtain rfl : value = value' := Option.some.inj (isLatest.symm.trans isLatest')
        rw [lastWrite, isLast, le_antisymm before after]
        rfl

end ZeroNvr.Lib
