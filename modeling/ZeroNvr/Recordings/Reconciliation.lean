import ZeroNvr.Recordings.Ingestion

/-! # The reconciliation of the catalog with the disk

A settled file that the catalog does not know is written down from its path and
what a probe says of it; a known one that was missing is available again.
-/

namespace ZeroNvr

open Lib

/-! ## File names -/

/-- The words between the slashes. -/
def splitSlash : List Char → List (List Char)
  | [] => [[]]
  | c :: rest =>
    if c = '/' then [] :: splitSlash rest
    else match splitSlash rest with
      | [] => [[c]]
      | word :: words => (c :: word) :: words

/-- `path.parts` of a relative path. -/
def pathParts (path : String) : List String := (splitSlash path.toList).map String.ofList

/-- A number of the given width, and the rest; digits outside ASCII are not read. -/
def digits? (width : Nat) (text : List Char) : Option (Nat × List Char) :=
  let word := text.take width
  if word.length = width ∧ word.all Char.isDigit then
    some (word.foldl (fun value c => 10 * value + (c.toNat - '0'.toNat)) 0, text.drop width)
  else none

/-- The rest after a literal. -/
def skip? (literal : String) (text : List Char) : Option (List Char) :=
  if literal.toList.isPrefixOf text then some (text.drop literal.length) else none

/-- `(?:-\d+)?\.mp4`. -/
def isRecordingSuffix (text : List Char) : Bool :=
  text = ".mp4".toList ||
    match text with
    | '-' :: rest => !(rest.takeWhile Char.isDigit).isEmpty && rest.dropWhile Char.isDigit = ".mp4".toList
    | _ => false

structure FileTime where
  year : Nat
  month : Nat
  day : Nat
  hour : Nat
  minute : Nat
  second : Nat
  deriving DecidableEq

/-- `_FILENAME.fullmatch`: the time in the name of a file that ZLM writes. -/
def fileTime? (name : String) : Option FileTime := do
  let (year, rest) ← digits? 4 name.toList
  let (month, rest) ← skip? "-" rest >>= digits? 2
  let (day, rest) ← skip? "-" rest >>= digits? 2
  let (hour, rest) ← skip? "-" rest >>= digits? 2
  let (minute, rest) ← skip? "-" rest >>= digits? 2
  let (second, rest) ← skip? "-" rest >>= digits? 2
  if isRecordingSuffix rest then some { year, month, day, hour, minute, second } else none

def isLeapYear (year : Nat) : Bool := year % 4 = 0 ∧ (year % 100 ≠ 0 ∨ year % 400 = 0)

def daysInMonth (year month : Nat) : Nat :=
  if month = 2 then if isLeapYear year then 29 else 28
  else if month ∈ [4, 6, 9, 11] then 30 else 31

/-- The day number of a date, 1970-01-01 being 0. -/
def dayNumber (year month day : Nat) : Int :=
  let before := year - 1
  let inYear := ((List.range' 1 (month - 1)).map (daysInMonth year)).sum + day
  (before * 365 + before / 4 - before / 100 + before / 400 + inYear : Nat) - 719163

/-- `datetime(...)` in UTC, where the fields are in range. -/
def FileTime.instant? (time : FileTime) : Option Int :=
  if 1 ≤ time.year ∧ 1 ≤ time.month ∧ time.month ≤ 12 ∧ 1 ≤ time.day ∧
      time.day ≤ daysInMonth time.year time.month ∧ time.hour < 24 ∧ time.minute < 60 ∧ time.second < 60 then
    some (days (dayNumber time.year time.month time.day) +
      seconds (time.hour * 3600 + time.minute * 60 + time.second))
  else none

/-! ## Recovery -/

structure RecoveredMediaProbe where
  durationMs : Nat
  codec : Option String
  positive : 0 < durationMs

structure RecoveredIdentity where
  profileId : Uuid
  startedAt : Int
  stream : String

/-- The catalog's parameters, and what the disk says of a file: its probe and its size. -/
structure ReconciliationEnv where
  catalog : CatalogEnv
  probe : String → Option RecoveredMediaProbe
  size : String → Option Int

inductive RecoveryOutcome where
  | relinked | known | ambiguous | error | recovered
  deriving DecidableEq

namespace RecordingCatalogReconciliationService

variable (env : ReconciliationEnv) (uuid4 : Supply Uuid)

def isHexDigit (c : Char) : Bool := c.isDigit || ('a' ≤ c && c ≤ 'f') || ('A' ≤ c && c ≤ 'F')

/-- `_STREAM.fullmatch`. -/
def streamProfile? (stream : String) : Option Uuid := do
  let hex ← skip? RecordingCatalogService.streamPrefix stream.toList
  if hex.length = 32 ∧ hex.all isHexDigit then env.catalog.parseUuid (String.ofList hex) else none

/-- `_identity`: a file is recorded under its stream and day. -/
def identity (root path : String) : Option RecoveredIdentity := do
  let relative ← env.catalog.paths.relativeTo root path
  match pathParts relative with
  | ["record", "zero-nvr", stream, date, name] => do
    let profileId ← streamProfile? env stream
    let time ← fileTime? name
    if date.toList ≠ name.toList.take 10 then none
    else do
      let startedAt ← time.instant?
      some { profileId, startedAt, stream }
  | _ => none

def recoveredSegment (profile : CameraStreamProfile) (identity : RecoveredIdentity) (probe : RecoveredMediaProbe)
    (sizeBytes : Int) (reasons : List String) (completionReason : String) (id : Uuid) : RecordingSegment :=
  { id
    cameraId := profile.cameraId
    streamProfileId := some profile.id
    startedAt := identity.startedAt
    endedAt := identity.startedAt + milliseconds probe.durationMs
    durationMs := probe.durationMs
    timingStatus := .final
    timingSource := .recovery
    recordingReasons := reasons
    sizeBytes
    codec := probe.codec.or profile.codec
    sourceApp := "zero-nvr"
    sourceStream := identity.stream
    integrityStatus := "OK"
    completionReason := some completionReason }

/-- A file whose copy was missing is available again, unless its size has changed. -/
def relink (db : Database) (location : RecordingLocation) (path : String) (now : Int) :
    Result (Database × RecoveryOutcome) :=
  match env.size path with
  | none => .error .osError
  | some sizeBytes =>
    if sizeBytes ≤ 0 ∨ (0 < location.sizeBytes ∧ location.sizeBytes ≠ sizeBytes) then .ok (db, .error)
    else .ok (db.modifyLocation location.id fun row =>
      { row with state := .available, sizeBytes, lastAttemptAt := some now, lastError := none }, .relinked)

/-- A file that the catalog does not know. -/
def recoverUnknown (db : Database) (targetId : Uuid) (root path objectPath : String) (now : Int)
    (completionReason : String) : Result (Database × RecoveryOutcome) :=
  match identity env root path with
  | none => .ok (db, .ambiguous)
  | some identity =>
    match db.streamProfiles.get? identity.profileId with
    | none => .ok (db, .ambiguous)
    | some profile =>
      match env.probe path, env.size path with
      | some probe, some sizeBytes =>
        if sizeBytes ≤ 0 then .ok (db, .error)
        else do
          let reasons ← RecordingCatalogService.recordingReasons env.catalog.zoneInfo db profile.cameraId
            identity.startedAt (identity.startedAt + milliseconds probe.durationMs)
          let segment := recoveredSegment profile identity probe sizeBytes reasons completionReason
            (db.segments.newKey uuid4)
          let stored ← db.insertRecording uuid4 segment targetId objectPath (some now) (some now)
          .ok (stored, .recovered)
      | _, _ => .ok (db, .error)

def recoverFile (db : Database) (targetId : Uuid) (root path objectPath : String) (now : Int)
    (completionReason : String) : Result (Database × RecoveryOutcome) :=
  match db.locationAt targetId objectPath with
  | some location =>
    if location.state = .missing then relink env db location path now else .ok (db, .known)
  | none => recoverUnknown env uuid4 db targetId root path objectPath now completionReason

end RecordingCatalogReconciliationService

end ZeroNvr
