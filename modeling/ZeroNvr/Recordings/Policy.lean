import ZeroNvr.Models
import ZeroNvr.Core.Errors

/-! # Recording policies

The weekly recording schedule: its validation, the membership test the recorder
is arbitrated by, and the enumeration of the next switching instant.
`ZoneInfo` is a parameter, since the zone database is not part of the program.
-/

namespace ZeroNvr

structure WeeklyWindow where
  days : List Int
  startTime : TimeOfDay
  endTime : TimeOfDay
  deriving DecidableEq

/-- `window.start < window.end`: the window does not cross midnight. -/
def WeeklyWindow.sameDay (window : WeeklyWindow) : Bool :=
  window.startTime.micros < window.endTime.micros

/-- The day on which the window that opens on `day` closes. -/
def WeeklyWindow.endDay (window : WeeklyWindow) (day : Int) : Int :=
  if window.sameDay then day else day + 1

namespace RecordingPolicyService

/-! ## `_TIME_RE` and `time.fromisoformat` -/

/-- The first digit of each block of decimal digits, which `\d` accepts beside ASCII. -/
def decimalZeros : List Nat :=
  [0x30, 0x660, 0x6F0, 0x7C0, 0x966, 0x9E6, 0xA66, 0xAE6, 0xB66, 0xBE6, 0xC66, 0xCE6, 0xD66, 0xDE6,
    0xE50, 0xED0, 0xF20, 0x1040, 0x1090, 0x17E0, 0x1810, 0x1946, 0x19D0, 0x1A80, 0x1A90, 0x1B50,
    0x1BB0, 0x1C40, 0x1C50, 0xA620, 0xA8D0, 0xA900, 0xA9D0, 0xA9F0, 0xAA50, 0xABF0, 0xFF10, 0x104A0,
    0x10D30, 0x11066, 0x110F0, 0x11136, 0x111D0, 0x112F0, 0x11450, 0x114D0, 0x11650, 0x116C0,
    0x11730, 0x118E0, 0x11950, 0x11C50, 0x11D50, 0x11DA0, 0x11F50, 0x16A60, 0x16AC0, 0x16B50,
    0x1D7CE, 0x1D7D8, 0x1D7E2, 0x1D7EC, 0x1D7F6, 0x1E140, 0x1E2F0, 0x1E4F0, 0x1E950, 0x1FBF0]

def isDecimal (c : Char) : Bool := decimalZeros.any fun first => first ≤ c.toNat && c.toNat < first + 10

/-- `^(?:[01]\d|2[0-3]):[0-5]\d$`; the final `$` also matches before a trailing newline. -/
def timeReMatch (value : String) : Bool :=
  let clock (h₁ h₂ m₁ m₂ : Char) : Bool :=
    (((h₁ == '0' || h₁ == '1') && isDecimal h₂) || (h₁ == '2' && '0' ≤ h₂ && h₂ ≤ '3')) &&
      '0' ≤ m₁ && m₁ ≤ '5' && isDecimal m₂
  match value.toList with
  | [h₁, h₂, ':', m₁, m₂] => clock h₁ h₂ m₁ m₂
  | [h₁, h₂, ':', m₁, m₂, '\n'] => clock h₁ h₂ m₁ m₂
  | _ => false

def digit? (c : Char) : Option Int := if '0' ≤ c ∧ c ≤ '9' then some (c.toNat - 48) else none

/-- `time.fromisoformat` on values that match `_TIME_RE`. -/
def timeFromisoformat (value : String) : Result TimeOfDay :=
  let parsed := match value.toList with
    | [h₁, h₂, ':', m₁, m₂] => do
      let hours := (← digit? h₁) * 10 + (← digit? h₂)
      let minutes := (← digit? m₁) * 10 + (← digit? m₂)
      if inDay : (0 ≤ hours ∧ hours < 24) ∧ 0 ≤ minutes ∧ minutes < 60 then
        some ⟨hours * 3600000000 + minutes * 60000000, by omega⟩
      else none
    | _ => none
  match parsed with
  | some time => .ok time
  | none => .error (.valueError ("Invalid isoformat string: " ++ value))

/-! ## `validate_schedule` -/

def scheduleInvalid (message : String) : PyError := apiError 400 "recording_schedule_invalid" message

/-- The integers of a JSON list of integers; a boolean is not one of them. -/
def intList? : List Json → Option (List Int)
  | [] => some []
  | .int day :: rest => (intList? rest).map (day :: ·)
  | _ :: _ => none

/-- One iteration of the loop over `weekly`. -/
def validateWindow (raw : Json) : Result WeeklyWindow :=
  match raw with
  | .obj window =>
    if window.all (fun field => field.1 ∈ ["days", "start", "end"]) ∧
        (Dict.get window "days").isSome ∧ (Dict.get window "start").isSome ∧
        (Dict.get window "end").isSome then
      match Dict.get window "days", Dict.get window "start", Dict.get window "end" with
      | some (.arr rawDays), some (.str startValue), some (.str endValue) =>
        match intList? rawDays with
        | some days =>
          if rawDays.isEmpty ∨ ¬ timeReMatch startValue ∨ ¬ timeReMatch endValue then
            .error (scheduleInvalid "Weekly schedule values are invalid.")
          else if days.any fun day => day < 0 ∨ 6 < day then
            .error (scheduleInvalid "Schedule days must use Monday=0 through Sunday=6.")
          else do
            let startTime ← timeFromisoformat startValue
            let endTime ← timeFromisoformat endValue
            if startTime = endTime then
              .error (scheduleInvalid "Schedule start and end times must differ.")
            else .ok { days := days.dedup.insertionSort (· ≤ ·), startTime, endTime }
        | none => .error (scheduleInvalid "Weekly schedule values are invalid.")
      | _, _, _ => .error (scheduleInvalid "Weekly schedule values are invalid.")
    else .error (scheduleInvalid "Each weekly window must contain days, start, and end.")
  | _ => .error (scheduleInvalid "Each weekly window must contain days, start, and end.")

/-- The zone database of a system that only knows UTC. -/
def utcOnly (key : String) : Result TimeZone :=
  if key = "UTC" then .ok (.fixed 0) else .error (.zoneInfoNotFoundError key)

variable (zoneInfo : String → Result TimeZone)

/-- `ZoneInfo(schedule_timezone)` with an unknown key reported to the client. -/
def checkTimezone (timezone : String) : Result Unit :=
  match zoneInfo timezone with
  | .ok _ => .ok ()
  | .error (.zoneInfoNotFoundError _) =>
    .error (apiError 400 "recording_schedule_timezone_invalid"
      "Schedule timezone is not a valid IANA timezone.")
  | .error other => .error other

def validateSchedule (baselineMode : BaselineMode) (scheduleJson : Dict)
    (scheduleTimezone : Option String) : Result (List WeeklyWindow) :=
  if baselineMode ≠ .schedule then
    if ¬ scheduleJson.isEmpty then
      .error (apiError 400 "recording_schedule_not_allowed"
        "Schedule entries are allowed only for scheduled baseline recording.")
    else if scheduleTimezone.isSome then
      .error (apiError 400 "recording_schedule_timezone_not_allowed"
        "Schedule timezone is allowed only for scheduled baseline recording.")
    else .ok []
  else
    let timezone := scheduleTimezone.getD ""
    if timezone = "" then
      .error (apiError 400 "recording_schedule_timezone_required"
        "Scheduled recording requires an IANA timezone.")
    else do
      checkTimezone zoneInfo timezone
      if scheduleJson.any fun field => field.1 ≠ "weekly" then
        .error (scheduleInvalid "Recording schedule contains unsupported fields.")
      else match Dict.get scheduleJson "weekly" with
        | some (.arr rawWindows) =>
          if rawWindows.isEmpty then
            .error (apiError 400 "recording_schedule_required"
              "Scheduled recording requires at least one weekly window.")
          else if 64 < rawWindows.length then
            .error (apiError 400 "recording_schedule_too_large"
              "Recording schedule has too many weekly windows.")
          else rawWindows.mapM validateWindow
        | _ => .error (apiError 400 "recording_schedule_required"
            "Scheduled recording requires at least one weekly window.")

/-- `validate_schedule` on the stored policy. -/
def windowsOf (policy : RecordingPolicy) : Result (List WeeklyWindow) :=
  validateSchedule zoneInfo policy.baselineMode policy.scheduleJson policy.scheduleTimezone

/-- `ZoneInfo(policy.schedule_timezone)`. -/
def zoneOf (policy : RecordingPolicy) : Result TimeZone := zoneInfo (policy.scheduleTimezone.getD "")

/-! ## Membership -/

/-- Whether a window is open at a wall clock reading.  The early-morning portion of a
    cross-midnight window belongs to the previous schedule day. -/
def windowContains (window : WeeklyWindow) (day : Int) (localTime : TimeOfDay) : Bool :=
  if window.sameDay then
    decide (weekday day ∈ window.days ∧ window.startTime.micros ≤ localTime.micros ∧
      localTime.micros < window.endTime.micros)
  else
    decide ((weekday day ∈ window.days ∧ window.startTime.micros ≤ localTime.micros) ∨
      ((weekday day - 1) % 7 ∈ window.days ∧ localTime.micros < window.endTime.micros))

def scheduleContains (windows : List WeeklyWindow) (wall : Int) : Bool :=
  windows.any fun window => windowContains window (WallClock.date wall) (WallClock.time wall)

def baselineShouldRecord (policy : RecordingPolicy) (at_ : Int) : Result Bool :=
  if ¬ policy.enabled then .ok false
  else match policy.baselineMode with
    | .continuous => .ok true
    | .disabled => .ok false
    | .schedule => do
      let windows ← windowsOf zoneInfo policy
      let zone ← zoneOf zoneInfo policy
      let local_ := zone.astimezone at_
      .ok (scheduleContains windows local_.wall)

/-! ## The next transition -/

/-- The instant of a wall clock reading.  An imaginary local time is replaced by the reading
    `zoneinfo` gives it on a round trip through UTC, which denotes the same instant. -/
def wallClock (zone : TimeZone) (day : Int) (value : TimeOfDay) : Aware :=
  let candidate := zone.combine day value
  let roundtrip := zone.astimezone candidate.instant
  if WallClock.date roundtrip.wall ≠ day ∨ WallClock.time roundtrip.wall ≠ value then roundtrip else candidate

/-- The start and the end of a window that opens on `day`. -/
def windowBoundaries (zone : TimeZone) (day : Int) (window : WeeklyWindow) : List Int :=
  if weekday day ∈ window.days then
    [(wallClock zone day window.startTime).instant,
      (wallClock zone (window.endDay day) window.endTime).instant]
  else []

def candidates (windows : List WeeklyWindow) (zone : TimeZone) (startDate : Int) : List Int :=
  (List.range 9).flatMap fun (offset : Nat) => windows.flatMap (windowBoundaries zone (startDate + offset))

def nextBaselineTransition (policy : RecordingPolicy) (after : Int) : Result (Option Int) :=
  if ¬ policy.enabled ∨ policy.baselineMode ≠ .schedule ∨ policy.scheduleTimezone.getD "" = "" then
    .ok none
  else do
    let windows ← windowsOf zoneInfo policy
    let zone ← zoneOf zoneInfo policy
    let localAfter := zone.astimezone after
    let future := ((candidates windows zone (WallClock.date localAfter.wall)).filter (after < ·)).insertionSort (· ≤ ·)
    .ok future.head?

end RecordingPolicyService

end ZeroNvr
