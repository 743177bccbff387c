import Mathlib

/-! # Instants, wall clocks and time zones

An instant is an `Int`: microseconds since the Unix epoch, the resolution of a
Python `datetime`.  A wall clock reading is an `Int` too, the microseconds since
1970-01-01T00:00 on that clock, so a date is a day number and a time of day a
remainder.
-/

namespace ZeroNvr

abbrev Uuid := Nat

def milliseconds (n : Int) : Int := n * 1000
def seconds (n : Int) : Int := n * 1000000
def days (n : Int) : Int := n * 86400000000

/-- A `time` of a `datetime`: the microseconds since midnight. -/
structure TimeOfDay where
  micros : Int
  inDay : 0 ≤ micros ∧ micros < 86400000000
  deriving DecidableEq

namespace WallClock

def date (wall : Int) : Int := wall / 86400000000
def time (wall : Int) : TimeOfDay := ⟨wall % 86400000000, by omega⟩

/-- `datetime.combine(day, value)`. -/
def combine (day : Int) (value : TimeOfDay) : Int := day * 86400000000 + value.micros

theorem combine_date_time (wall : Int) : combine (date wall) (time wall) = wall := by
  simp only [combine, date, time]
  omega

end WallClock

/-- Monday is 0; 1970-01-01 was a Thursday. -/
def weekday (day : Int) : Int := (day + 3) % 7

/-! ## Time zones -/

/-- A time zone as Python's `tzinfo` exposes it: the offset in force at an instant, and
    the offset `utcoffset` reports for a wall clock reading whose `fold` is 0. -/
structure TimeZone where
  utcoffset : Int → Int
  wallOffset : Int → Int

/-- An aware datetime: the instant it denotes and the reading of its own clock. -/
structure Aware where
  instant : Int
  wall : Int
  deriving DecidableEq

namespace TimeZone

def astimezone (zone : TimeZone) (instant : Int) : Aware :=
  { instant, wall := instant + zone.utcoffset instant }

/-- `datetime.combine(day, value, tzinfo=zone)`. -/
def combine (zone : TimeZone) (day : Int) (value : TimeOfDay) : Aware :=
  let wall := WallClock.combine day value
  { instant := wall - zone.wallOffset wall, wall }

def fixed (offset : Int) : TimeZone := { utcoffset := fun _ => offset, wallOffset := fun _ => offset }

/-- The offset at an instant, from the transitions in order of time. -/
def offsetAt (before : Int) : List (Int × Int) → Int → Int
  | [], _ => before
  | (moment, after) :: later, instant => if instant < moment then before else offsetAt after later instant

/-- The offset for a wall clock reading with `fold` 0: a transition counts from the later of
    the two readings it has, so a repeated hour resolves to its first pass and a skipped one
    keeps the offset before the gap. -/
def wallOffsetAt (before : Int) : List (Int × Int) → Int → Int
  | [], _ => before
  | (moment, after) :: later, wall =>
    if wall < moment + max before after then before else wallOffsetAt after later wall

/-- The zone with the given offset before its first transition and the given changes. -/
def ofTransitions (before : Int) (transitions : List (Int × Int)) : TimeZone :=
  { utcoffset := offsetAt before transitions, wallOffset := wallOffsetAt before transitions }

end TimeZone

end ZeroNvr
