import ZeroNvr.Core.Time

/-! # The calendar

Year, month and day of a proleptic Gregorian ordinal as `datetime` computes
them, and the fields of a wall clock reading.  Day 1 is 0001-01-01.
-/

namespace ZeroNvr.Calendar

/-! ## Months -/

def isLeap (year : Nat) : Bool := year % 4 == 0 && (year % 100 != 0 || year % 400 == 0)

def lengthOfMonth : List Nat := [0, 31, 28, 31, 30, 31, 30, 31, 31, 30, 31, 30, 31]

def daysBefore : List Nat := [0, 0, 31, 59, 90, 120, 151, 181, 212, 243, 273, 304, 334]

def daysInMonth (leap : Bool) (month : Nat) : Nat :=
  lengthOfMonth.getD month 0 + (if month = 2 ∧ leap then 1 else 0)

def daysBeforeMonth (leap : Bool) (month : Nat) : Nat :=
  daysBefore.getD month 0 + (if 2 < month ∧ leap then 1 else 0)

theorem daysInMonth_le (leap : Bool) {month : Nat} (valid : month ≤ 12) : daysInMonth leap month ≤ 31 := by
  have every : ∀ (leap : Bool) (month : Fin 13), daysInMonth leap month ≤ 31 := by decide
  exact every leap ⟨month, by omega⟩

/-- The month and the day within it, from 0, of a day of the year, from 0.  The estimate is
    the right month or the one after it. -/
def monthAndDay (leap : Bool) (n : Nat) : Nat × Nat :=
  let month := (n + 50) / 32
  if n < daysBeforeMonth leap month then (month - 1, n - daysBeforeMonth leap (month - 1))
  else (month, n - daysBeforeMonth leap month)

theorem monthAndDay_spec {leap : Bool} {n : Nat} (inYear : n < 365 ∨ n = 365 ∧ leap = true) :
    (1 ≤ (monthAndDay leap n).1 ∧ (monthAndDay leap n).1 ≤ 12) ∧
      (monthAndDay leap n).2 < daysInMonth leap (monthAndDay leap n).1 ∧
        daysBeforeMonth leap (monthAndDay leap n).1 + (monthAndDay leap n).2 = n := by
  have every : ∀ (leap : Bool) (n : Fin 366), (n.val < 365 ∨ leap = true) →
      (1 ≤ (monthAndDay leap n).1 ∧ (monthAndDay leap n).1 ≤ 12) ∧
        (monthAndDay leap n).2 < daysInMonth leap (monthAndDay leap n).1 ∧
          daysBeforeMonth leap (monthAndDay leap n).1 + (monthAndDay leap n).2 = n.val := by
    decide +kernel
  exact every leap ⟨n, by omega⟩ (inYear.imp_right And.right)

/-! ## Days -/

def daysBeforeYear (year : Nat) : Nat :=
  (year - 1) * 365 + (year - 1) / 4 - (year - 1) / 100 + (year - 1) / 400

def ymd2ord (year month day : Nat) : Nat :=
  daysBeforeYear year + daysBeforeMonth (isLeap year) month + day

structure Date where
  year : Nat
  month : Nat
  day : Nat
  deriving DecidableEq, Repr

/-- What the constructor of `date` accepts. -/
structure Date.Valid (date : Date) : Prop where
  year : 1 ≤ date.year ∧ date.year ≤ 9999
  month : 1 ≤ date.month ∧ date.month ≤ 12
  day : 1 ≤ date.day ∧ date.day ≤ daysInMonth (isLeap date.year) date.month

instance (date : Date) : Decidable date.Valid :=
  decidable_of_iff ((1 ≤ date.year ∧ date.year ≤ 9999) ∧ (1 ≤ date.month ∧ date.month ≤ 12) ∧
      (1 ≤ date.day ∧ date.day ≤ daysInMonth (isLeap date.year) date.month))
    ⟨fun ⟨year, month, day⟩ => ⟨year, month, day⟩, fun ⟨year, month, day⟩ => ⟨year, month, day⟩⟩

def Date.toOrdinal (date : Date) : Nat := ymd2ord date.year date.month date.day

/-- A count of days taken apart into 400, 100, 4 and 1 years and the days that are left. -/
def ord2ymd (ordinal : Nat) : Date :=
  let n := ordinal - 1
  let n400 := n / 146097
  let n := n % 146097
  let n100 := n / 36524
  let n := n % 36524
  let n4 := n / 1461
  let n := n % 1461
  let n1 := n / 365
  let n := n % 365
  let year := n400 * 400 + 1 + n100 * 100 + n4 * 4 + n1
  if n1 = 4 ∨ n100 = 4 then { year := year - 1, month := 12, day := 31 }
  else
    let found := monthAndDay (n1 == 3 && (n4 != 24 || n100 == 3)) n
    { year, month := found.1, day := found.2 + 1 }

/-- The days before a year of a cycle. -/
theorem daysBeforeYear_eq {n400 n100 n4 n1 : Nat} (hundreds : n100 < 4) (fours : n4 < 25) (ones : n1 < 4) :
    daysBeforeYear (n400 * 400 + 1 + n100 * 100 + n4 * 4 + n1) =
      n400 * 146097 + n100 * 36524 + n4 * 1461 + n1 * 365 := by
  simp only [daysBeforeYear]
  omega

theorem isLeap_eq {n400 n100 n4 n1 : Nat} (hundreds : n100 < 4) (fours : n4 < 25) (ones : n1 < 4) :
    isLeap (n400 * 400 + 1 + n100 * 100 + n4 * 4 + n1) = (n1 == 3 && (n4 != 24 || n100 == 3)) := by
  rw [Bool.eq_iff_iff]
  simp only [isLeap, Bool.and_eq_true, Bool.or_eq_true, beq_iff_eq, bne_iff_ne, ne_eq]
  omega

/-- The last day of a leap year of a cycle. -/
theorem lastDay_spec {n400 n100 n4 : Nat} (hundreds : n100 < 4) (fours : n4 < 25) (leap : n4 ≠ 24 ∨ n100 = 3)
    (inRange : n400 * 400 + n100 * 100 + n4 * 4 + 4 ≤ 9999) :
    (Date.mk (n400 * 400 + 1 + n100 * 100 + n4 * 4 + 3) 12 31).Valid ∧
      (Date.mk (n400 * 400 + 1 + n100 * 100 + n4 * 4 + 3) 12 31).toOrdinal =
        n400 * 146097 + n100 * 36524 + n4 * 1461 + 1461 := by
  have isLeapYear : isLeap (n400 * 400 + 1 + n100 * 100 + n4 * 4 + 3) = true := by
    rw [isLeap_eq hundreds fours (by omega)]
    simpa using leap
  have december : daysBeforeMonth true 12 = 335 := by decide
  refine ⟨⟨by dsimp only; omega, by dsimp only; omega, by dsimp only; omega, ?_⟩, ?_⟩
  · simp [daysInMonth, lengthOfMonth]
  · rw [Date.toOrdinal, ymd2ord, daysBeforeYear_eq hundreds fours (by omega), isLeapYear, december]
    dsimp only

/-- Every ordinal up to 9999-12-31 is the ordinal of a valid date. -/
theorem ord2ymd_spec {ordinal : Nat} (first : 1 ≤ ordinal) (last : ordinal ≤ 3652059) :
    (ord2ymd ordinal).Valid ∧ (ord2ymd ordinal).toOrdinal = ordinal := by
  obtain ⟨n400, rest, inCycle, isOrdinal⟩ : ∃ n400 rest, rest < 146097 ∧ ordinal = n400 * 146097 + rest + 1 :=
    ⟨(ordinal - 1) / 146097, (ordinal - 1) % 146097, by omega, by omega⟩
  have cycles : (ordinal - 1) / 146097 = n400 ∧ (ordinal - 1) % 146097 = rest := by omega
  simp only [ord2ymd, cycles]
  by_cases whole : rest % 36524 % 1461 / 365 = 4 ∨ rest / 36524 = 4
  · rw [if_pos whole]
    rcases whole with fourYears | fourHundred
    · have shape : n400 * 400 + 1 + rest / 36524 * 100 + rest % 36524 / 1461 * 4 + rest % 36524 % 1461 / 365 - 1 =
          n400 * 400 + 1 + rest / 36524 * 100 + rest % 36524 / 1461 * 4 + 3 := by omega
      have spec := @lastDay_spec n400 (rest / 36524) (rest % 36524 / 1461) (by omega) (by omega) (by omega) (by omega)
      rw [shape]
      exact ⟨spec.1, spec.2.trans (by omega)⟩
    · have shape : n400 * 400 + 1 + rest / 36524 * 100 + rest % 36524 / 1461 * 4 + rest % 36524 % 1461 / 365 - 1 =
          n400 * 400 + 1 + 3 * 100 + 24 * 4 + 3 := by omega
      have spec := @lastDay_spec n400 3 24 (by omega) (by omega) (by omega) (by omega)
      rw [shape]
      exact ⟨spec.1, spec.2.trans (by omega)⟩
  · rw [if_neg whole]
    obtain ⟨notFour, notFourHundred⟩ := not_or.mp whole
    have hundreds : rest / 36524 < 4 := by omega
    have fours : rest % 36524 / 1461 < 25 := by omega
    have ones : rest % 36524 % 1461 / 365 < 4 := by omega
    have leapYear := @isLeap_eq n400 _ _ _ hundreds fours ones
    have before := @daysBeforeYear_eq n400 _ _ _ hundreds fours ones
    obtain ⟨inMonths, inMonth, sum⟩ := @monthAndDay_spec
      (rest % 36524 % 1461 / 365 == 3 && (rest % 36524 / 1461 != 24 || rest / 36524 == 3))
      (rest % 36524 % 1461 % 365) (.inl (by omega))
    refine ⟨⟨by dsimp only; omega, inMonths, by dsimp only; omega, ?_⟩, ?_⟩
    · dsimp only
      rw [leapYear]
      exact inMonth
    · rw [Date.toOrdinal, ymd2ord, before, leapYear]
      dsimp only
      rw [← Nat.add_assoc, Nat.add_assoc _ (daysBeforeMonth _ _), sum]
      omega

/-! ## Wall clock readings -/

/-- The fields of a `datetime` apart from its zone. -/
structure DateTime where
  date : Date
  hour : Nat
  minute : Nat
  second : Nat
  microsecond : Nat
  deriving DecidableEq, Repr

/-- What the constructor of `datetime` accepts. -/
structure DateTime.Valid (fields : DateTime) : Prop where
  date : fields.date.Valid
  hour : fields.hour < 24
  minute : fields.minute < 60
  second : fields.second < 60
  microsecond : fields.microsecond < 1000000

instance (fields : DateTime) : Decidable fields.Valid :=
  decidable_of_iff (fields.date.Valid ∧ fields.hour < 24 ∧ fields.minute < 60 ∧ fields.second < 60 ∧
      fields.microsecond < 1000000)
    ⟨fun ⟨date, hour, minute, second, microsecond⟩ => ⟨date, hour, minute, second, microsecond⟩,
      fun ⟨date, hour, minute, second, microsecond⟩ => ⟨date, hour, minute, second, microsecond⟩⟩

/-- The ordinal of 1970-01-01. -/
def epochOrdinal : Nat := 719163

/-- The reading of a wall clock, in microseconds since 1970-01-01T00:00 on that clock. -/
def DateTime.wall (fields : DateTime) : Int :=
  ((((fields.date.toOrdinal : Int) - epochOrdinal) * 24 + fields.hour) * 60 + fields.minute) * 60000000 +
    fields.second * 1000000 + fields.microsecond

/-- The readings between 0001-01-01T00:00 and 9999-12-31T23:59:59.999999, which are those a `datetime` has. -/
def InRange (wall : Int) : Prop := -62135596800000000 ≤ wall ∧ wall ≤ 253402300799999999

theorem inRange_zero : InRange 0 := ⟨by decide, by decide⟩

instance (wall : Int) : Decidable (InRange wall) := inferInstanceAs (Decidable (_ ∧ _))

/-- The fields of a reading. -/
def ofWall (wall : Int) : DateTime :=
  let day := (WallClock.date wall + epochOrdinal).toNat
  let time := (wall % 86400000000).toNat
  { date := ord2ymd day
    hour := time / 3600000000
    minute := time / 60000000 % 60
    second := time / 1000000 % 60
    microsecond := time % 1000000 }

theorem ofWall_valid {wall : Int} (inRange : InRange wall) : (ofWall wall).Valid := by
  obtain ⟨first, last⟩ := inRange
  have ordinals := @ord2ymd_spec (WallClock.date wall + epochOrdinal).toNat
    (by simp only [WallClock.date, epochOrdinal]; omega) (by simp only [WallClock.date, epochOrdinal]; omega)
  exact ⟨ordinals.1, by simp only [ofWall]; omega, by simp only [ofWall]; omega, by simp only [ofWall]; omega,
    by simp only [ofWall]; omega⟩

/-- The fields of a reading make up the reading. -/
theorem wall_ofWall {wall : Int} (inRange : InRange wall) : (ofWall wall).wall = wall := by
  obtain ⟨first, last⟩ := inRange
  have ordinals := @ord2ymd_spec (WallClock.date wall + epochOrdinal).toNat
    (by simp only [WallClock.date, epochOrdinal]; omega) (by simp only [WallClock.date, epochOrdinal]; omega)
  simp only [DateTime.wall, ofWall, ordinals.2]
  simp only [WallClock.date, epochOrdinal] at *
  omega

example : ofWall 1709210096789000 =
    { date := { year := 2024, month := 2, day := 29 }, hour := 12, minute := 34, second := 56, microsecond := 789000 } := by
  decide +kernel

end ZeroNvr.Calendar
