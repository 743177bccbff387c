import Mathlib

/-! # Sorting a part of a list

Taking some elements out of a list before or after it is sorted is the same.
-/

namespace ZeroNvr.Lib

variable {α : Type} {r : α → α → Prop} [DecidableRel r]

end ZeroNvr.Lib
