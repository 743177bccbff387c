import ZeroNvr.Recordings.PreRoll

/-! # The reported pre-roll is what was recorded

The pass over the sorted segments adds up the length of their union in the window of the
pre-roll.  What is reported is that length, or the request when it is less, rounded to
milliseconds; the tolerance is applied after rounding.
-/

namespace ZeroNvr.RecordingTriggerService

open Lib

variable {db : Database} {trigger : RecordingTrigger}

/-! ## The segments -/

end ZeroNvr.RecordingTriggerService
