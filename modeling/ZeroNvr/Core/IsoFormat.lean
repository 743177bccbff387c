import ZeroNvr.Core.Calendar

/-! # ISO 8601 timestamps

`isoformat` of a UTC `datetime` and `datetime.fromisoformat`, over the
characters of a text.  The parser takes the dates, week dates, clock times and
offsets Python takes, in the extended and in the basic form; the character
between date and time is free.
-/

namespace ZeroNvr.IsoFormat

open Calendar

/-! ## Digits -/

def digit (n : Nat) : Char := Char.ofNat (48 + n % 10)

def digit? (c : Char) : Option Nat := if '0' ≤ c ∧ c ≤ '9' then some (c.toNat - 48) else none

theorem digit?_digit (n : Nat) : digit? (digit n) = some (n % 10) := by
  have every : ∀ m : Fin 10, digit? (Char.ofNat (48 + m)) = some m.val := by decide
  exact every ⟨n % 10, Nat.mod_lt _ (by decide)⟩

/-- No digit is a separator. -/
theorem digit_ne {c : Char} (noDigit : digit? c = none) (n : Nat) : digit n ≠ c := by
  rintro rfl
  simp [digit?_digit] at noDigit

def digits? (text : List Char) : Option Nat :=
  text.foldlM (fun value c => (digit? c).map (value * 10 + ·)) 0

/-- The number that the first digits of a text write. -/
def leading (count : Nat) (text : List Char) : Option Nat :=
  if text.length < count then none else digits? (text.take count)

def two (n : Nat) : List Char := [digit (n / 10), digit n]
def four (n : Nat) : List Char := [digit (n / 1000), digit (n / 100), digit (n / 10), digit n]
def six (n : Nat) : List Char :=
  [digit (n / 100000), digit (n / 10000), digit (n / 1000), digit (n / 100), digit (n / 10), digit n]

@[simp] theorem leading_two {n : Nat} (small : n < 100) (rest : List Char) :
    leading 2 (digit (n / 10) :: digit n :: rest) = some n := by
  simp only [leading, digits?, List.length_cons, List.take_succ_cons, List.take_zero, List.foldlM_cons, List.foldlM_nil,
    digit?_digit, Option.map_some, Option.bind_eq_bind, Option.bind_some, Option.pure_def]
  rw [if_neg (by omega)]
  exact congrArg some (by omega)

@[simp] theorem leading_four {n : Nat} (small : n < 10000) (rest : List Char) :
    leading 4 (digit (n / 1000) :: digit (n / 100) :: digit (n / 10) :: digit n :: rest) = some n := by
  simp only [leading, digits?, List.length_cons, List.take_succ_cons, List.take_zero, List.foldlM_cons, List.foldlM_nil,
    digit?_digit, Option.map_some, Option.bind_eq_bind, Option.bind_some, Option.pure_def]
  rw [if_neg (by omega)]
  exact congrArg some (by omega)

theorem digits?_six {n : Nat} (small : n < 1000000) : digits? (six n) = some n := by
  simp only [digits?, six, List.foldlM_cons, List.foldlM_nil, digit?_digit, Option.map_some, Option.bind_eq_bind,
    Option.bind_some, Option.pure_def]
  exact congrArg some (by omega)

/-! ## Writing -/

/-- The clock of a `datetime`; the microseconds are left out when there are none. -/
def clockText (fields : DateTime) : List Char :=
  two fields.hour ++ ':' :: two fields.minute ++ ':' :: two fields.second ++
    (if fields.microsecond = 0 then [] else '.' :: six fields.microsecond)

/-- `isoformat()` of a `datetime` whose zone is UTC. -/
def isoformat (fields : DateTime) : List Char :=
  four fields.date.year ++ '-' :: two fields.date.month ++ '-' :: two fields.date.day ++
    'T' :: (clockText fields ++ ['+', '0', '0', ':', '0', '0'])

/-! ## Reading -/

/-- The place of the character between date and time. -/
def separatorLocation (text : List Char) : Option Nat :=
  if text.length < 7 then none
  else if text.length = 7 then some 7
  else if text[4]? = some '-' then
    if text[5]? = some 'W' then
      if 8 < text.length ∧ text[8]? = some '-' then
        if text.length = 9 then none
        else if (text[10]?.bind digit?).isSome then some 8
        else some 10
      else some 8
    else some 10
  else if text[4]? = some 'W' then
    let idx := 7 + ((text.drop 7).takeWhile fun c => (digit? c).isSome).length
    if idx < 9 then some idx
    else if idx % 2 = 0 then some 7
    else some 8
  else some 8

/-- The ordinal of the Monday of the first week of a year. -/
def isoweek1monday (year : Nat) : Int :=
  let firstday := ymd2ord year 1 1
  let firstweekday := (firstday + 6) % 7
  (firstday : Int) - firstweekday + (if 3 < firstweekday then 7 else 0)

def isoweekToGregorian (year week day : Nat) : Option Date :=
  let longYear := ymd2ord year 1 1 % 7 = 4 ∨ ymd2ord year 1 1 % 7 = 3 ∧ isLeap year
  if year < 1 ∨ 9999 < year then none
  else if week = 0 ∨ 53 < week ∨ week = 53 ∧ ¬longYear then none
  else if day = 0 ∨ 7 < day then none
  else some (ord2ymd (isoweek1monday year + ((week - 1) * 7 + (day - 1) : Nat)).toNat)

/-- The text after a dash, where the date has dashes. -/
def afterDash (dashes : Bool) (text : List Char) : Option (List Char) :=
  if (text.head? == some '-') = dashes then some (if dashes then text.drop 1 else text) else none

def parseDate (text : List Char) : Option Date := do
  let year ← leading 4 text
  let dashes := text[4]? == some '-'
  let rest := if dashes then text.drop 5 else text.drop 4
  if rest.head? = some 'W' then
    let week ← leading 2 (rest.drop 1)
    let rest := rest.drop 3
    let day ← if rest = [] then some 1 else (afterDash dashes rest).bind (leading 1)
    isoweekToGregorian year week day
  else
    let month ← leading 2 rest
    let day ← (afterDash dashes (rest.drop 2)).bind (leading 2)
    some { year, month, day }

/-- Hours, minutes, seconds and microseconds. -/
structure Clock where
  hour : Nat
  minute : Nat := 0
  second : Nat := 0
  microsecond : Nat := 0

def Clock.micros (clock : Clock) : Int :=
  ((clock.hour * 60 + clock.minute) * 60 + clock.second) * 1000000 + clock.microsecond

/-- The microseconds of a fraction of a second; digits after the sixth are dropped. -/
def fraction (text : List Char) : Option Nat :=
  match text with
  | [] => none
  | mark :: decimals =>
    if mark ≠ '.' ∧ mark ≠ ',' then none
    else if decimals = [] then none
    else if decimals.all fun c => (digit? c).isSome then
      (digits? (decimals.take 6)).map (· * 10 ^ (6 - decimals.length))
    else none

/-- `HH[:MM[:SS[.ffffff]]]`, with all of the colons or with none. -/
def parseClock (text : List Char) : Option Clock := do
  let hour ← leading 2 text
  let rest := text.drop 2
  if rest = [] then some { hour }
  else
    let colons := rest.head? == some ':'
    let rest := if colons then rest.drop 1 else rest
    let minute ← leading 2 rest
    let rest := rest.drop 2
    if rest = [] then some { hour, minute }
    else if colons ∧ rest.head? ≠ some ':' then none
    else
      let rest := if colons then rest.drop 1 else rest
      let second ← leading 2 rest
      let rest := rest.drop 2
      if rest = [] then some { hour, minute, second }
      else
        let microsecond ← fraction rest
        some { hour, minute, second, microsecond }

/-- The offset that a zone designator writes, less than a day either way. -/
def parseZone (mark : Char) (text : List Char) : Option Int :=
  if mark = 'Z' then if text = [] then some 0 else none
  else if text.length = 0 ∨ text.length = 1 ∨ text.length = 3 then none
  else do
    let clock ← parseClock text
    if clock.micros < 86400000000 then some (if mark = '-' then -clock.micros else clock.micros) else none

def zonePosition (text : List Char) : Option Nat :=
  text.idxOf? '-' <|> text.idxOf? '+' <|> text.idxOf? 'Z'

/-- A clock time with the offset it names. -/
def parseTime (text : List Char) : Option (Clock × Option Int) :=
  if text.length < 2 then none
  else
    match zonePosition text with
    | none => (parseClock text).map (·, none)
    | some position => do
      let clock ← parseClock (text.take position)
      let offset ← parseZone (text.getD position 'Z') (text.drop (position + 1))
      some (clock, some offset)

/-- `datetime.fromisoformat`: the fields and, for an aware value, the offset in microseconds. -/
def fromisoformat (text : List Char) : Option (DateTime × Option Int) := do
  let location ← separatorLocation text
  let date ← parseDate (text.take location)
  let rest := text.drop (location + 1)
  let (clock, offset) ← if rest = [] then some ({ hour := 0 }, none) else parseTime rest
  let fields : DateTime :=
    { date, hour := clock.hour, minute := clock.minute, second := clock.second, microsecond := clock.microsecond }
  if fields.Valid then some (fields, offset) else none

/-! ## Reading what was written -/

theorem parseDate_text {date : Date} (year : date.year < 10000) (month : date.month < 100) (day : date.day < 100) :
    parseDate (four date.year ++ '-' :: two date.month ++ '-' :: two date.day) = some date := by
  have noWeek : digit (date.month / 10) ≠ 'W' := digit_ne (by decide) _
  simp [parseDate, four, two, afterDash, year, month, day, noWeek]

theorem parseClock_text {fields : DateTime} (valid : fields.Valid) :
    parseClock (clockText fields) =
      some { hour := fields.hour, minute := fields.minute, second := fields.second, microsecond := fields.microsecond } := by
  have hour : fields.hour < 100 := by have := valid.hour; omega
  have minute : fields.minute < 100 := by have := valid.minute; omega
  have second : fields.second < 100 := by have := valid.second; omega
  simp only [clockText, two, parseClock]
  by_cases whole : fields.microsecond = 0
  · simp [whole, hour, minute, second]
  · have micro : fraction ('.' :: six fields.microsecond) = some fields.microsecond := by
      have decimals : (six fields.microsecond).all fun c => (digit? c).isSome := by simp [six, digit?_digit]
      have sixDigits : (six fields.microsecond).take 6 = six fields.microsecond := rfl
      simp [fraction, decimals, sixDigits, digits?_six valid.microsecond]
      simp [six]
    simp [whole, hour, minute, second, micro]

/-- A clock time has no sign of an offset. -/
theorem clockText_unsigned {fields : DateTime} {c : Char} (member : c ∈ clockText fields) : c ≠ '-' ∧ c ≠ '+' := by
  have digits (n : Nat) : digit n ≠ '-' ∧ digit n ≠ '+' := ⟨digit_ne (by decide) n, digit_ne (by decide) n⟩
  simp only [clockText, two, six] at member
  split at member
  · simp only [List.cons_append, List.nil_append, List.mem_cons, List.not_mem_nil, or_false] at member
    rcases member with rfl | rfl | rfl | rfl | rfl | rfl | rfl | rfl <;> first | exact digits _ | decide
  · simp only [List.cons_append, List.nil_append, List.mem_cons, List.not_mem_nil, or_false] at member
    rcases member with rfl | rfl | rfl | rfl | rfl | rfl | rfl | rfl | rfl | rfl | rfl | rfl | rfl | rfl | rfl <;>
      first | exact digits _ | decide

theorem zonePosition_text {clock : List Char} (unsigned : ∀ c ∈ clock, c ≠ '-' ∧ c ≠ '+') :
    zonePosition (clock ++ ['+', '0', '0', ':', '0', '0']) = some clock.length := by
  have noDash : (clock ++ ['+', '0', '0', ':', '0', '0']).idxOf? '-' = none := by
    rw [List.idxOf?_eq_none_iff]
    simp only [List.mem_append, not_or]
    exact ⟨fun inClock => (unsigned _ inClock).1 rfl, by decide⟩
  have atPlus : (clock ++ ['+', '0', '0', ':', '0', '0']).idxOf? '+' = some clock.length := by
    have notInClock : clock.findIdx? (· == '+') = none := by
      simp only [List.findIdx?_eq_none_iff, beq_eq_false_iff_ne]
      exact fun c inClock => (unsigned c inClock).2
    have first : ['+', '0', '0', ':', '0', '0'].findIdx? (· == '+') = some 0 := rfl
    simp [List.idxOf?, List.findIdx?_append, notInClock, first]
  rw [zonePosition, noDash, atPlus]
  rfl

theorem parseTime_text {fields : DateTime} (valid : fields.Valid) :
    parseTime (clockText fields ++ ['+', '0', '0', ':', '0', '0']) =
      some ({ hour := fields.hour, minute := fields.minute, second := fields.second, microsecond := fields.microsecond },
        some 0) := by
  have zone : parseZone '+' ['0', '0', ':', '0', '0'] = some 0 := by decide +kernel
  have position := zonePosition_text fun c member => @clockText_unsigned fields c member
  rw [parseTime, if_neg (by simp), position]
  simp [parseClock_text valid, zone]

/-- Reading an `isoformat` gives back the fields, in UTC. -/
theorem fromisoformat_isoformat {fields : DateTime} (valid : fields.Valid) :
    fromisoformat (isoformat fields) = some (fields, some 0) := by
  have year := valid.date.year
  have month := valid.date.month
  have day := valid.date.day
  have longest := daysInMonth_le (isLeap fields.date.year) month.2
  have noWeek : digit (fields.date.month / 10) ≠ 'W' := digit_ne (by decide) _
  have location : separatorLocation (isoformat fields) = some 10 := by
    simp [separatorLocation, isoformat, four, two, noWeek]
  have dateText : (isoformat fields).take 10 =
      four fields.date.year ++ '-' :: two fields.date.month ++ '-' :: two fields.date.day := rfl
  have timeText : (isoformat fields).drop 11 = clockText fields ++ ['+', '0', '0', ':', '0', '0'] := rfl
  have notEmpty : clockText fields ++ ['+', '0', '0', ':', '0', '0'] ≠ [] := by simp
  simp only [fromisoformat, location, dateText, timeText, Option.bind_eq_bind, Option.bind_some, if_neg notEmpty,
    parseTime_text valid, parseDate_text (show fields.date.year < 10000 by omega)
      (show fields.date.month < 100 by omega) (show fields.date.day < 100 by omega)]
  rw [if_pos valid]

end ZeroNvr.IsoFormat
