import Mathlib

/-! # Writing back a row

A session reads a row, changes it and writes the columns that have changed.  A
column it did not change keeps what others have written to it in between.
-/

namespace ZeroNvr.Lib

variable {α : Type} [DecidableEq α]

/-- What a column holds after a session that read it as `read` and set it to `new`. -/
def written (read new current : α) : α := if new = read then current else new

@[simp] theorem written_undisturbed (read new : α) : written read new read = new := by
  unfold written
  split
  · next same => exact same.symm
  · rfl

@[simp] theorem written_unchanged (read current : α) : written read read current = current := by simp [written]

theorem written_cases (read new current : α) : written read new current = new ∨ written read new current = current := by
  unfold written
  split
  · exact .inr rfl
  · exact .inl rfl

end ZeroNvr.Lib
