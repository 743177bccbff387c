import ZeroNvr.Lib.UnionLength
import ZeroNvr.Models

/-! # The coverage of a pre-roll

`RecordingTriggerService.pre_roll_coverage`: how much of the time before a trigger was
recorded, and what is said about it.  Seconds are rational numbers.
-/

namespace ZeroNvr

open Lib

/-- `round(x, 3)`. -/
def roundMs {K : Type} [Field K] [LinearOrder K] [IsStrictOrderedRing K] [FloorRing K] (x : K) : K :=
  (roundHalfEven (x * 1000) : K) / 1000

namespace RecordingTriggerService

variable (db : Database) (trigger : RecordingTrigger)

/-- The part of a segment in the window. -/
def clipped (segment : RecordingSegment) : Int × Int :=
  (max segment.startedAt trigger.plannedStartAt, min segment.endedAt trigger.requestedAt)

end RecordingTriggerService

end ZeroNvr
