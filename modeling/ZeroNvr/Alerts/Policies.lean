import ZeroNvr.Alerts.Service

/-! # Alert policies

`normalize_match` turns the filters of a request into the ones a policy is stored
with.  A filter that is `null` or an empty list is left out.
-/

namespace ZeroNvr

open Lib

namespace AlertPolicyService

/-- `_TIME_RE`. -/
def timeRe (text : String) : Bool :=
  match text.toList with
  | [h₁, h₂, ':', m₁, m₂] =>
    (((h₁ = '0' ∨ h₁ = '1') ∧ (decimal? h₂).isSome) ∨ (h₁ = '2' ∧ '0' ≤ h₂ ∧ h₂ ≤ '3')) ∧
      ('0' ≤ m₁ ∧ m₁ ≤ '5') ∧ (decimal? m₂).isSome
  | _ => false

/-- `_ALLOWED_MATCH_KEYS`. -/
def allowedMatchKeys : List String :=
  ["camera_ids", "sources", "categories", "labels", "zones", "min_confidence", "min_duration_seconds", "severities",
    "weekdays", "time_start", "time_end", "timezone"]

/-- `_ALERT_SEVERITIES`. -/
def alertSeverities : List String := ["info", "warning", "critical"]

def matchInvalid (message : String) : PyError := apiError 400 "alert_policy_match_invalid" message

/-! ## Lists of a request -/

/-- The items of a list, each one once. -/
def listItems {α : Type} [DecidableEq α] (value : Option Json) (fieldName : String) (maxItems : Nat)
    (parse : Json → Result α) : Result (List α) :=
  match value with
  | none | some .null => .ok []
  | some (.arr items) =>
    if maxItems < items.length then .error (matchInvalid (fieldName ++ " contains too many items."))
    else items.foldlM (fun result raw => do
      let parsed ← parse raw
      .ok (if parsed ∉ result then result ++ [parsed] else result)) []
  | some _ => .error (matchInvalid (fieldName ++ " must be a list."))

/-- `uuid.UUID(str(raw))`; the text of any other value has no 32 hexadecimal digits. -/
def uuidOf (raw : Json) : Option Uuid :=
  match raw with
  | .str text => uuidOfText text
  | .int value => uuidOfText (toString value)
  | _ => none

def uuidList (value : Option Json) (fieldName : String) : Result (List Uuid) :=
  listItems value fieldName 256 fun raw =>
    match uuidOf raw with
    | some parsed => .ok parsed
    | none => .error (matchInvalid (fieldName ++ " contains an invalid UUID."))

def textItem (fieldName : String) (maxLength : Nat) (raw : Json) : Result String :=
  match raw with
  | .str text =>
    if strip text = "" ∨ maxLength < (strip text).length then
      .error (matchInvalid (fieldName ++ " contains an invalid value."))
    else .ok (strip text)
  | _ => .error (matchInvalid (fieldName ++ " contains an invalid value."))

def stringList (value : Option Json) (fieldName : String) (maxLength : Nat) : Result (List String) :=
  listItems value fieldName 128 (textItem fieldName maxLength)

/-- A list is stored when it has items. -/
def whenItems (items : List String) : Option Json := if items.isEmpty then none else some (.arr (items.map Json.str))

/-! ## Other filters -/

/-- `float(value)`, which is exact for the integers that are accepted. -/
def floatOf (value : Int) : Result ℚ := if 2 ^ 1024 - 2 ^ 970 ≤ value.natAbs then .error .overflowError else .ok value

def minimum (value : Option Json) (maximum : ℚ) (message : String) : Result (Option Json) :=
  let checked (number : ℚ) : Result (Option Json) :=
    if 0 ≤ number ∧ number ≤ maximum then .ok (some (.float number)) else .error (matchInvalid message)
  match value with
  | none | some .null => .ok none
  | some (.int number) => do checked (← floatOf number)
  | some (.float number) => checked number
  | some _ => .error (matchInvalid message)

def weekdaysField (value : Option Json) : Result (Option Json) :=
  let invalid := matchInvalid "Weekdays must use Monday=0 through Sunday=6."
  match value with
  | none | some .null => .ok none
  | some (.arr items) =>
    match RecordingPolicyService.intList? items with
    | some days =>
      if days.isEmpty ∨ ¬days.all (fun day => 0 ≤ day ∧ day ≤ 6) then .error invalid
      else .ok (some (.arr ((days.dedup.insertionSort (· ≤ ·)).map Json.int)))
    | none => .error invalid
  | some _ => .error invalid

structure TimeWindow where
  timeStart : String
  timeEnd : String
  timezone : String

def isNull (value : Option Json) : Bool :=
  match value with
  | none | some .null => true
  | some _ => false

/-- The time of day and the timezone come together. -/
def timeWindow (zoneInfo : String → Result TimeZone) (value : Dict) : Result (Option TimeWindow) :=
  if isNull (Dict.get value "time_start") ∧ isNull (Dict.get value "time_end") ∧ isNull (Dict.get value "timezone") then
    .ok none
  else
    match Dict.get value "time_start", Dict.get value "time_end", Dict.get value "timezone" with
    | some (.str timeStart), some (.str timeEnd), some (.str timezone) =>
      if ¬timeRe timeStart ∨ ¬timeRe timeEnd ∨ timeStart = timeEnd ∨ strip timezone = "" then
        .error (matchInvalid "Alert policy time window is invalid.")
      else
        match zoneInfo (strip timezone) with
        | .ok _ => .ok (some { timeStart, timeEnd, timezone := strip timezone })
        | .error (.zoneInfoNotFoundError _) => .error (matchInvalid "Alert policy timezone is invalid.")
        | .error other => .error other
    | _, _, _ => .error (matchInvalid "Alert policy time window is invalid.")

/-! ## The stored filters -/

/-- The fields that have a value. -/
def present (fields : List (String × Option Json)) : Dict :=
  fields.filterMap fun field => field.2.map (field.1, ·)

def normalizeMatch (zoneInfo : String → Result TimeZone) (db : Database) (value : Dict) : Result Dict :=
  if value.any fun field => field.1 ∉ allowedMatchKeys then
    .error (matchInvalid "Alert policy contains unsupported match fields.")
  else do
    let cameraIds ← uuidList (Dict.get value "camera_ids") "camera_ids"
    if ¬cameraIds.all (fun cameraId => (db.cameras.get? cameraId).isSome) then
      .error (apiError 400 "alert_policy_camera_invalid" "Alert policy references an unknown camera.")
    else
      let sources ← stringList (Dict.get value "sources") "sources" 64
      let categories ← stringList (Dict.get value "categories") "categories" 64
      let labels ← stringList (Dict.get value "labels") "labels" 128
      let zones ← stringList (Dict.get value "zones") "zones" 128
      let severities ← stringList (Dict.get value "severities") "severities" 32
      if ¬severities.all (· ∈ alertSeverities) then
        .error (matchInvalid "Alert policy event severity is invalid.")
      else
        let minConfidence ← minimum (Dict.get value "min_confidence") 1 "Minimum confidence must be between 0 and 1."
        let minDuration ← minimum (Dict.get value "min_duration_seconds") 86400 "Minimum duration is invalid."
        let weekdays ← weekdaysField (Dict.get value "weekdays")
        let window ← timeWindow zoneInfo value
        .ok (present
          [("camera_ids", whenItems (cameraIds.map UUID.text)), ("sources", whenItems sources),
            ("categories", whenItems categories), ("labels", whenItems labels), ("zones", whenItems zones),
            ("severities", whenItems severities), ("min_confidence", minConfidence),
            ("min_duration_seconds", minDuration), ("weekdays", weekdays),
            ("time_start", window.map fun window => .str window.timeStart),
            ("time_end", window.map fun window => .str window.timeEnd),
            ("timezone", window.map fun window => .str window.timezone)])

end AlertPolicyService

end ZeroNvr
