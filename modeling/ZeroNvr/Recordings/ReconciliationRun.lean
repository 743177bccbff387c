import ZeroNvr.Lib.Directory
import ZeroNvr.Recordings.Reconciliation

/-! # A reconciliation run

A run marks what has gone missing, and then takes every recording file it finds
under the roots of the local targets into the catalog.  A hidden file that was
never finalized gets the name it would have had.  Symbolic links and directories
never change; they are part of what the disk is.
-/

namespace ZeroNvr

open Lib

/-- The names of the regular files, by their real paths. -/
abbrev MediaFiles := Directory String Nat

/-! ## Names -/

/-- `path.name`. -/
def fileName (path : String) : String := String.ofList (path.toList.reverse.takeWhile (· ≠ '/')).reverse

def isHidden (path : String) : Bool := (fileName path).toList.head? = some '.'

/-- `path.with_name(path.name[1:])`. -/
def unhidden (path : String) : String :=
  String.ofList ((path.toList.reverse.dropWhile (· ≠ '/')).reverse ++ (fileName path).toList.drop 1)

/-- What a run takes from outside: `pathlib`, the names that are not regular files, how a directory is
    walked, and what each inode holds. -/
structure DiskEnv where
  catalog : CatalogEnv
  resolve : String → String
  resolveWithin : String → String → Option String
  taken : String → Bool
  isDir : String → Bool
  rglob : String → MediaFiles → List String
  probe : Nat → Option RecoveredMediaProbe
  size : Nat → Int
  modifiedAt : Nat → Int

/-- The disk as a recovery sees it. -/
def DiskEnv.at (env : DiskEnv) (files : MediaFiles) : ReconciliationEnv where
  catalog := env.catalog
  probe path := (files.inode? path).bind env.probe
  size path := (files.inode? path).map env.size

/-- What a run reports of a name it has found; a name that is gone is not counted. -/
inductive ScanOutcome where
  | gone | outside | older | unsettled | known | relinked | recovered | partialRecovered | ambiguous | error
  deriving DecidableEq

def RecoveryOutcome.scanned : RecoveryOutcome → ScanOutcome
  | .relinked => .relinked
  | .known => .known
  | .ambiguous => .ambiguous
  | .error => .error
  | .recovered => .recovered

def RecoveryOutcome.scannedPartial : RecoveryOutcome → ScanOutcome
  | .recovered => .partialRecovered
  | outcome => outcome.scanned

/-- A name that was taken up, the inode it led to then, and what came of it. -/
structure ScanReport where
  targetId : Uuid
  path : String
  inode : Option Nat
  outcome : ScanOutcome

structure ScanState where
  db : Database
  files : MediaFiles
  reports : List ScanReport := []

structure RecordingReconciliationResult where
  full : Bool
  reports : List ScanReport
  missing : Nat
  missingErrors : Nat

namespace RecordingReconciliationResult

variable (result : RecordingReconciliationResult)

def count (outcome : ScanOutcome) : Nat := result.reports.countP fun report => report.outcome = outcome

/-- The files that were looked at. -/
def scannedFiles : Nat :=
  result.reports.countP fun report => report.outcome ∉ [ScanOutcome.gone, .outside, .older, .unsettled]

def recovered : Nat := result.count .recovered
def recoveredPartials : Nat := result.count .partialRecovered
def relinked : Nat := result.count .relinked
def ambiguous : Nat := result.count .ambiguous
def errors : Nat := result.missingErrors + result.count .outside + result.count .error
def skippedUnsettled : Nat := result.count .unsettled
def changes : Nat := result.recovered + result.recoveredPartials + result.relinked + result.missing

end RecordingReconciliationResult

namespace RecordingCatalogReconciliationService

def settleSeconds : Int := 30
def partialSettleSeconds : Int := 90

variable (env : DiskEnv) (uuid4 : Supply Uuid)

/-! ## Targets -/

def targetRoot (target : StorageTarget) : Option String :=
  match Dict.get target.config "path" with
  | some (.str raw) => if strip raw = "" then none else some (env.resolve (strip raw))
  | _ => none

/-- `ORDER BY name, id`. -/
def listedBefore (left right : StorageTarget) : Bool :=
  left.name < right.name ∨ (left.name = right.name ∧ left.id ≤ right.id)

/-- The enabled local recording targets and their roots. -/
def targets (db : Database) : List (Uuid × String) :=
  ((db.storageTargets.select RecordingStorageResolver.isLocalRecording).insertionSort
    fun left right => listedBefore left right).filterMap fun target =>
      (targetRoot env target).map fun root => (target.id, root)

/-! ## Missing files -/

structure MissingCount where
  db : Database
  missing : Nat := 0
  errors : Nat := 0

/-- One of the locations that were available when the pass over the target began. -/
def markLocation (files : MediaFiles) (root : String) (now : Int) (count : MissingCount)
    (location : RecordingLocation) : MissingCount :=
  match env.resolveWithin root location.objectPath with
  | none => { count with errors := count.errors + 1 }
  | some path =>
    if (files.inode? path).isSome then count
    else if ((count.db.locations.get? location.id).any fun current => current.state = .available) then
      { count with
        db := count.db.modifyLocation location.id fun row =>
          { row with state := .missing, lastAttemptAt := some now, lastError := some "recording_file_missing" }
        missing := count.missing + 1 }
    else count

def markTarget (files : MediaFiles) (now : Int) (count : MissingCount) (target : Uuid × String) : MissingCount :=
  (count.db.locations.select fun location =>
    location.storageTargetId = target.1 ∧ location.state = .available).foldl
      (markLocation env files target.2 now) count

/-- `_mark_missing`. -/
def markMissing (db : Database) (files : MediaFiles) (targets : List (Uuid × String)) (now : Int) : MissingCount :=
  targets.foldl (markTarget env files now) { db }

/-! ## Hidden files -/

/-- `_partial_destination`: the name a hidden file would have been finalized under. -/
def partialDestination (root path : String) : Option String :=
  if isHidden path ∧ 1 < (fileName path).length then
    (identity (env.at .empty) root (env.resolve (unhidden path))).map fun _ => unhidden path
  else none

/-- `path.exists()`. -/
def pathExists (files : MediaFiles) (path : String) : Bool :=
  (files.inode? (env.resolve path)).isSome || env.isDir (env.resolve path)

/-- The file is not empty and a probe reads it. -/
def readable (files : MediaFiles) (path : String) : Bool :=
  (files.inode? path).any fun inode => 0 < env.size inode ∧ (env.probe inode).isSome

/-- `os.link`: the new name may not be in use by anything. -/
def linkName (files : MediaFiles) (path destination : String) : Except LinkError MediaFiles :=
  if (files.inode? path).isSome ∧ env.taken destination then .error .exists_ else files.link path destination

/-- `_recover_partial_file`. -/
def recoverPartialFile (db : Database) (files : MediaFiles) (targetId : Uuid) (root path : String) (now : Int) :
    Result (Database × MediaFiles × ScanOutcome) :=
  match partialDestination env root path with
  | none => .ok (db, files, .ambiguous)
  | some destination =>
    if pathExists env files destination then .ok (db, files, .ambiguous)
    else if ¬ readable env files path then .ok (db, files, .error)
    else match linkName env files path destination with
    | .error .exists_ => .ok (db, files, .ambiguous)
    | .error .missing => .ok (db, files, .error)
    | .ok linked =>
      match linked.unlink path with
      | none => .ok (db, (linked.unlink destination).getD linked, .error)
      | some moved =>
        match env.catalog.paths.relativeTo root destination with
        | none => .error (.valueError "path is not in the subpath of the root")
        | some objectPath => do
          let (stored, outcome) ← recoverFile (env.at moved) uuid4 db targetId root destination objectPath now
            "RECOVERY_INTERRUPTED"
          .ok (stored, moved, outcome.scannedPartial)

/-! ## The scan -/

/-- The latest modification a file may have to count as settled. -/
def settledBefore (now : Int) (path : String) : Int :=
  now - seconds (if isHidden path then partialSettleSeconds else settleSeconds)

/-- A settled file of a target. -/
def recoverSettled (db : Database) (files : MediaFiles) (targetId : Uuid) (root path objectPath : String) (now : Int) :
    Result (Database × MediaFiles × ScanOutcome) :=
  if isHidden path then recoverPartialFile env uuid4 db files targetId root path now
  else do
    let (stored, outcome) ← recoverFile (env.at files) uuid4 db targetId root path objectPath now "RECOVERY"
    .ok (stored, files, outcome.scanned)

/-- One name of the walk; a link leads to the file it names. -/
def scanName (since : Option Int) (now : Int) (target : Uuid × String) (db : Database) (files : MediaFiles)
    (name : String) : Result (Database × MediaFiles × ScanOutcome) :=
  let resolved := env.resolve name
  match files.inode? resolved with
  | none => .ok (db, files, .gone)
  | some inode =>
    match env.catalog.paths.relativeTo target.2 resolved with
    | none => .ok (db, files, .outside)
    | some objectPath =>
      if since.any (env.modifiedAt inode < ·) then .ok (db, files, .older)
      else if settledBefore now resolved < env.modifiedAt inode then .ok (db, files, .unsettled)
      else recoverSettled env uuid4 db files target.1 target.2 resolved objectPath now

def scanStep (since : Option Int) (now : Int) (target : Uuid × String) (state : ScanState) (name : String) :
    Result ScanState := do
  let (db, files, outcome) ← scanName env uuid4 since now target state.db state.files name
  let inode := state.files.inode? (env.resolve name)
  .ok { db, files, reports := state.reports ++ [{ targetId := target.1, path := name, inode, outcome }] }

def scanTarget (since : Option Int) (now : Int) (state : ScanState) (target : Uuid × String) : Result ScanState :=
  if env.isDir target.2 then
    (env.rglob target.2 state.files).foldlM (scanStep env uuid4 since now target) state
  else .ok state

/-- `reconcile`; where a recent run starts from is left to the caller. -/
def reconcile (full : Bool) (recentSince now : Int) (db : Database) (files : MediaFiles) :
    Result (Database × MediaFiles × RecordingReconciliationResult) := do
  let roots := targets env db
  let marked := if full then markMissing env db files roots now else { db }
  let last ← roots.foldlM (scanTarget env uuid4 (if full then none else some recentSince) now) { db := marked.db, files }
  .ok (last.db, last.files,
    { full, reports := last.reports, missing := marked.missing, missingErrors := marked.errors })

/-! ## What a recovery does to the catalog -/

section Recovery

variable {env : ReconciliationEnv} {uuid4 : Supply Uuid} {db db' : Database} {targetId : Uuid}
  {root path objectPath completionReason : String} {now : Int} {outcome : RecoveryOutcome}

/-- A recovery makes the copy at one path of one target available, and touches no other row. -/
structure Recovers (db : Database) (targetId : Uuid) (objectPath : String) (db' : Database) : Prop where
  locationAt : ∀ targetId' objectPath', db'.locationAt targetId' objectPath' = db.locationAt targetId' objectPath' ∨
    ∃ row, db'.locationAt targetId' objectPath' = some row ∧ row.state = .available
  rows : ∀ row ∈ db'.locations, row ∈ db.locations ∨
    (row.state = .available ∧ row.storageTargetId = targetId ∧ row.objectPath = objectPath)
  kept : ∀ row ∈ db.locations, row.state ≠ .missing → row ∈ db'.locations
  profiles : db'.streamProfiles = db.streamProfiles
  storageTargets : db'.storageTargets = db.storageTargets

theorem Recovers.refl (db : Database) (targetId : Uuid) (objectPath : String) : Recovers db targetId objectPath db :=
  ⟨fun _ _ => .inl rfl, fun _ member => .inl member, fun _ member _ => member, rfl, rfl⟩

/-- There is nothing to do for the file: the catalog knows it, or cannot take it. -/
def Idle (env : ReconciliationEnv) (db : Database) (targetId : Uuid) (root path objectPath : String) : Prop :=
  match db.locationAt targetId objectPath with
  | some location => location.state = .missing → ∀ sizeBytes, env.size path = some sizeBytes →
      sizeBytes ≤ 0 ∨ (0 < location.sizeBytes ∧ location.sizeBytes ≠ sizeBytes)
  | none => ∀ identity_, identity env root path = some identity_ → ∀ profile,
      db.streamProfiles.get? identity_.profileId = some profile → ∀ probe sizeBytes, env.probe path = some probe →
      env.size path = some sizeBytes → sizeBytes ≤ 0

/-- What came of a file the catalog was left as it is for. -/
def unchangedOutcomes : List RecoveryOutcome := [.known, .ambiguous, .error]

theorem idle_of_available {row : RecordingLocation} (found : db.locationAt targetId objectPath = some row)
    (available : row.state ≠ .missing) : Idle env db targetId root path objectPath := by
  unfold Idle
  rw [found]
  exact fun isMissing => absurd isMissing available

theorem locationAt_relinked {location : RecordingLocation} {f : RecordingLocation → RecordingLocation}
    (keeps : ∀ row, (f row).id = row.id)
    (same : ∀ row, (f row).storageTargetId = row.storageTargetId ∧ (f row).objectPath = row.objectPath)
    (targetId' : Uuid) (objectPath' : String) :
    (db.modifyLocation location.id f keeps).locationAt targetId' objectPath' =
      (db.locationAt targetId' objectPath').map fun row => if row.id = location.id then f row else row := by
  refine Table.first?_modify keeps fun row => ?_
  rw [(same row).1, (same row).2]

theorem relink_recovers {location : RecordingLocation} (found : db.locationAt targetId objectPath = some location)
    (isMissing : location.state = .missing) {f : RecordingLocation → RecordingLocation}
    (keeps : ∀ row, (f row).id = row.id)
    (same : ∀ row, (f row).storageTargetId = row.storageTargetId ∧ (f row).objectPath = row.objectPath)
    (available : ∀ row, (f row).state = .available) :
    Recovers db targetId objectPath (db.modifyLocation location.id f keeps) := by
  obtain ⟨isLocation, isAt⟩ := Table.mem_of_first? found
  obtain ⟨ofTarget, isPath⟩ := of_decide_eq_true isAt
  refine ⟨fun targetId' objectPath' => ?_, fun row member => ?_, fun row member notMissing => ?_, rfl, rfl⟩
  · rw [locationAt_relinked keeps same]
    cases db.locationAt targetId' objectPath' with
    | none => exact .inl rfl
    | some row =>
      rw [Option.map_some]
      split
      · exact .inr ⟨_, rfl, available row⟩
      · exact .inl rfl
  · obtain ⟨old, oldMember, rfl⟩ := (@Table.mem_modify _ _ _ _ db.locations location.id f keeps row).mp member
    split
    next isOld =>
      have isLocation' : old = location := Table.eq_of_key_eq oldMember isLocation isOld
      exact .inr ⟨available old, (same old).1.trans (isLocation' ▸ ofTarget), (same old).2.trans (isLocation' ▸ isPath)⟩
    next => exact .inl oldMember
  · refine (@Table.mem_modify _ _ _ _ db.locations location.id f keeps row).mpr ⟨row, member, if_neg fun isRow => ?_⟩
    have isLocation' : row = location := Table.eq_of_key_eq member isLocation isRow
    exact notMissing (isLocation' ▸ isMissing)

theorem insertLocation_spec {location : RecordingLocation} (inserted : db.insertLocation location = .ok db') :
    ∃ locations, db.locations.insert? location = some locations ∧ db' = { db with locations } := by
  unfold Database.insertLocation at inserted
  split at inserted
  · cases inserted
  · split at inserted
    · cases inserted
    · split at inserted
      next locations grown =>
        cases inserted
        exact ⟨locations, grown, rfl⟩
      next => cases inserted

theorem insertSegment_spec {segment : RecordingSegment} (inserted : db.insertSegment segment = .ok db') :
    ∃ segments, db' = { db with segments } := by
  unfold Database.insertSegment at inserted
  split at inserted
  · cases inserted
  · split at inserted
    · cases inserted
    · split at inserted
      next segments _ =>
        cases inserted
        exact ⟨segments, rfl⟩
      next => cases inserted

theorem insertRecording_recovers {segment : RecordingSegment} {verifiedAt lastAttemptAt : Option Int}
    (inserted : db.insertRecording uuid4 segment targetId objectPath verifiedAt lastAttemptAt = .ok db') :
    Recovers db targetId objectPath db' ∧
      ((db.locationAt targetId objectPath).isSome ∨
        ∃ row, db'.locationAt targetId objectPath = some row ∧ row.state = .available) := by
  unfold Database.insertRecording at inserted
  rw [bind_eq_ok] at inserted
  obtain ⟨stored, isStored, inserted⟩ := inserted
  obtain ⟨segments, rfl⟩ := insertSegment_spec isStored
  obtain ⟨locations, grown, rfl⟩ := insertLocation_spec inserted
  have looked (targetId' : Uuid) (objectPath' : String) := Table.first?_insert? grown fun location =>
    location.storageTargetId = targetId' ∧ location.objectPath = objectPath'
  refine ⟨⟨fun targetId' objectPath' => ?_, fun row member => ?_, fun row member _ => ?_, rfl, rfl⟩, ?_⟩
  · unfold Database.locationAt
    rw [looked]
    cases db.locations.first? _ with
    | some row => exact .inl rfl
    | none =>
      rw [Option.none_or]
      split
      · exact .inr ⟨_, rfl, rfl⟩
      · exact .inl rfl
  · rcases (Table.mem_insert? grown).mp member with old | rfl
    · exact .inl old
    · exact .inr ⟨rfl, rfl, rfl⟩
  · exact (Table.mem_insert? grown).mpr (.inl member)
  · unfold Database.locationAt
    rw [looked]
    cases db.locations.first? _ with
    | some row => exact .inl rfl
    | none =>
      rw [Option.none_or, if_pos (decide_eq_true ⟨rfl, rfl⟩)]
      exact .inr ⟨_, rfl, rfl⟩

theorem idle_of_absent (absent : db.locationAt targetId objectPath = none)
    (stays : ∀ identity_, identity env root path = some identity_ → ∀ profile,
      db.streamProfiles.get? identity_.profileId = some profile → ∀ probe sizeBytes, env.probe path = some probe →
      env.size path = some sizeBytes → sizeBytes ≤ 0) : Idle env db targetId root path objectPath := by
  unfold Idle
  rw [absent]
  exact stays

/-- A recovery that is done: the rows it touches, that nothing is left to do, and what its outcome says. -/
structure Recovered (env : ReconciliationEnv) (db : Database) (targetId : Uuid) (root path objectPath : String)
    (outcome : RecoveryOutcome) (db' : Database) : Prop where
  recovers : Recovers db targetId objectPath db'
  idle : Idle env db' targetId root path objectPath
  unchanged : outcome ∈ unchangedOutcomes → db' = db
  catalogued : outcome ∉ [RecoveryOutcome.ambiguous, .error] → ∃ row, db'.locationAt targetId objectPath = some row

theorem Recovered.same (idle : Idle env db targetId root path objectPath) (known : outcome = .known →
    ∃ row, db.locationAt targetId objectPath = some row) (isUnchanged : outcome ∈ unchangedOutcomes) :
    Recovered env db targetId root path objectPath outcome db := by
  refine ⟨.refl db targetId objectPath, idle, fun _ => rfl, fun isKnown => known ?_⟩
  cases outcome with
  | known => rfl
  | ambiguous | error => exact absurd (by decide) isKnown
  | relinked | recovered => exact absurd isUnchanged (by decide)

theorem relink_spec {location : RecordingLocation} (found : db.locationAt targetId objectPath = some location)
    (isMissing : location.state = .missing) (done : relink env db location path now = .ok (db', outcome)) :
    Recovered env db targetId root path objectPath outcome db' := by
  unfold relink at done
  split at done
  next => cases done
  next sizeBytes isSize =>
    split at done
    next differs =>
      cases done
      refine .same ?_ nofun (by decide)
      unfold Idle
      rw [found]
      intro _ sizeBytes' isSize'
      rw [isSize] at isSize'
      cases isSize'
      exact differs
    next =>
      cases done
      let available (row : RecordingLocation) : RecordingLocation :=
        { row with state := .available, sizeBytes, lastAttemptAt := some now, lastError := none }
      have keeps (row : RecordingLocation) : (available row).id = row.id := rfl
      have same (row : RecordingLocation) :
          (available row).storageTargetId = row.storageTargetId ∧ (available row).objectPath = row.objectPath := ⟨rfl, rfl⟩
      have recovers := relink_recovers found isMissing keeps same fun _ => rfl
      have relinked : (db.modifyLocation location.id available keeps).locationAt targetId objectPath =
          some (available location) := by
        rw [locationAt_relinked keeps same, found, Option.map_some, if_pos rfl]
      exact ⟨recovers, idle_of_available relinked nofun, nofun, fun _ => ⟨_, relinked⟩⟩

theorem recoverUnknown_spec (absent : db.locationAt targetId objectPath = none)
    (done : recoverUnknown env uuid4 db targetId root path objectPath now completionReason = .ok (db', outcome)) :
    Recovered env db targetId root path objectPath outcome db' := by
  unfold recoverUnknown at done
  split at done
  next noIdentity =>
    cases done
    refine .same (idle_of_absent absent fun identity_ isIdentity => ?_) nofun (by decide)
    cases noIdentity.symm.trans isIdentity
  next identity_ isIdentity =>
    split at done
    next noProfile =>
      cases done
      refine .same (idle_of_absent absent fun identity' isIdentity' profile isProfile => ?_) nofun (by decide)
      cases isIdentity.symm.trans isIdentity'
      cases noProfile.symm.trans isProfile
    next profile isProfile =>
      split at done
      next probe sizeBytes isProbe isSize =>
        split at done
        next empty =>
          cases done
          refine .same (idle_of_absent absent fun _ _ _ _ _ sizeBytes' _ isSize' => ?_) nofun (by decide)
          cases isSize.symm.trans isSize'
          exact empty
        next =>
          rw [bind_eq_ok] at done
          obtain ⟨reasons, _, done⟩ := done
          dsimp only at done
          rw [bind_eq_ok] at done
          obtain ⟨stored, isStored, done⟩ := done
          cases done
          obtain ⟨recovers, isKnown | ⟨row, found, available⟩⟩ := insertRecording_recovers isStored
          · rw [absent] at isKnown
            cases isKnown
          · exact ⟨recovers, idle_of_available found (by rw [available]; nofun), nofun, fun _ => ⟨row, found⟩⟩
      next unread =>
        cases done
        refine .same (idle_of_absent absent fun _ _ _ _ probe sizeBytes isProbe isSize => ?_) nofun (by decide)
        exact absurd isSize (unread probe sizeBytes isProbe)

theorem recoverFile_spec
    (done : recoverFile env uuid4 db targetId root path objectPath now completionReason = .ok (db', outcome)) :
    Recovered env db targetId root path objectPath outcome db' := by
  unfold recoverFile at done
  split at done
  next location found =>
    split at done
    next isMissing => exact relink_spec found isMissing done
    next notMissing =>
      cases done
      exact .same (idle_of_available found notMissing) (fun _ => ⟨location, found⟩) (by decide)
  next absent => exact recoverUnknown_spec absent done

end Recovery

/-! ## What a recovery does to the files -/

section Files

variable {env : DiskEnv} {uuid4 : Supply Uuid} {db db' : Database} {files files' : MediaFiles} {targetId : Uuid}
  {root path destination : String} {now : Int} {outcome : ScanOutcome}

/-- What `pathlib` promises of the paths of a disk. -/
structure PathLaws (env : DiskEnv) : Prop where
  name : ∀ root path relative, env.catalog.paths.relativeTo root path = some relative →
    1 < (pathParts relative).length → (pathParts relative).getLast? = some (fileName path)
  within : ∀ root path relative, env.resolve path = path → env.catalog.paths.relativeTo root path = some relative →
    env.resolveWithin root relative = some path
  sibling : ∀ path, env.resolve path = path → env.taken (unhidden path) = false →
    env.resolve (unhidden path) = unhidden path
  directory : ∀ path, env.isDir path = true → env.taken path = true

/-- The names of regular files are real paths. -/
def RealFiles (env : DiskEnv) (files : MediaFiles) : Prop :=
  ∀ path, (files.inode? path).isSome → env.resolve path = path

theorem digits?_head {width : Nat} {text : List Char} {read : Nat × List Char} (isRead : digits? (width + 1) text = some read) :
    text.head? ≠ some '.' := by
  unfold digits? at isRead
  dsimp only at isRead
  split at isRead
  next number =>
    intro isDot
    obtain ⟨_, digits⟩ := number
    cases text with
    | nil => cases isDot
    | cons first rest =>
      cases isDot
      rw [List.take_succ_cons, List.all_cons] at digits
      exact absurd digits (by simp)
  next => cases isRead

theorem fileTime?_visible {name : String} {time : FileTime} (isTime : fileTime? name = some time) :
    name.toList.head? ≠ some '.' := by
  unfold fileTime? at isTime
  rw [Option.bind_eq_bind, Option.bind_eq_some_iff] at isTime
  obtain ⟨_, isYear, _⟩ := isTime
  exact digits?_head isYear

/-- The name of a file that identifies a recording is the name of a recording. -/
theorem fileTime?_of_identity (laws : PathLaws env) {identity_ : RecoveredIdentity}
    (isIdentity : identity (env.at files) root path = some identity_) :
    ∃ time, fileTime? (fileName path) = some time := by
  unfold identity at isIdentity
  rw [Option.bind_eq_bind, Option.bind_eq_some_iff] at isIdentity
  obtain ⟨relative, isRelative, isIdentity⟩ := isIdentity
  split at isIdentity
  next stream date name parts =>
    have last := laws.name root path relative isRelative (by rw [parts]; exact Nat.le_add_left 2 3)
    rw [parts] at last
    have isName : name = fileName path := Option.some.inj last
    rw [Option.bind_eq_bind, Option.bind_eq_some_iff] at isIdentity
    obtain ⟨_, _, isIdentity⟩ := isIdentity
    rw [Option.bind_eq_bind, Option.bind_eq_some_iff] at isIdentity
    obtain ⟨time, isTime, _⟩ := isIdentity
    exact ⟨time, isName ▸ isTime⟩
  next => cases isIdentity

/-- Only a visible name identifies a recording. -/
theorem visible_of_identity (laws : PathLaws env) {identity_ : RecoveredIdentity}
    (isIdentity : identity (env.at files) root path = some identity_) : isHidden path = false := by
  obtain ⟨time, isTime⟩ := fileTime?_of_identity laws isIdentity
  exact decide_eq_false (fileTime?_visible isTime)

/-! ### The suffix -/

theorem digits?_suffix {width : Nat} {text rest : List Char} {read : Nat}
    (isRead : digits? width text = some (read, rest)) : rest <:+ text := by
  unfold digits? at isRead
  dsimp only at isRead
  split at isRead
  · cases isRead
    exact List.drop_suffix width text
  · cases isRead

theorem skip?_suffix {literal : String} {text rest : List Char} (isRead : skip? literal text = some rest) :
    rest <:+ text := by
  unfold skip? at isRead
  split at isRead
  · cases isRead
    exact List.drop_suffix _ text
  · cases isRead

theorem isRecordingSuffix_mp4 {text : List Char} (isSuffix : isRecordingSuffix text = true) :
    ".mp4".toList <:+ text := by
  unfold isRecordingSuffix at isSuffix
  rw [Bool.or_eq_true] at isSuffix
  rcases isSuffix with plain | numbered
  · rw [of_decide_eq_true plain]
  · split at numbered
    next rest =>
      rw [Bool.and_eq_true] at numbered
      rw [← of_decide_eq_true numbered.2]
      exact (List.dropWhile_suffix _).trans (List.suffix_cons _ _)
    next => cases numbered

theorem fileTime?_mp4 {name : String} {time : FileTime} (isTime : fileTime? name = some time) :
    ".mp4".toList <:+ name.toList := by
  unfold fileTime? at isTime
  simp only [Option.bind_eq_bind, Option.bind_eq_some_iff, Prod.exists] at isTime
  obtain ⟨_, year, isYear, _, month, ⟨_, skipMonth, isMonth⟩, _, day, ⟨_, skipDay, isDay⟩, _, hour, ⟨_, skipHour, isHour⟩,
    _, minute, ⟨_, skipMinute, isMinute⟩, _, second, ⟨_, skipSecond, isSecond⟩, isTime⟩ := isTime
  split at isTime
  next isSuffix =>
    refine (isRecordingSuffix_mp4 isSuffix).trans ?_
    refine (digits?_suffix isSecond).trans ((skip?_suffix skipSecond).trans ?_)
    refine (digits?_suffix isMinute).trans ((skip?_suffix skipMinute).trans ?_)
    refine (digits?_suffix isHour).trans ((skip?_suffix skipHour).trans ?_)
    refine (digits?_suffix isDay).trans ((skip?_suffix skipDay).trans ?_)
    refine (digits?_suffix isMonth).trans ((skip?_suffix skipMonth).trans ?_)
    exact digits?_suffix isYear
  next => cases isTime

theorem fileName_toList (path : String) :
    (fileName path).toList = (path.toList.reverse.takeWhile (· ≠ '/')).reverse := by
  rw [fileName, String.toList_ofList]

/-- A name without its first letter is the name of the path beside it. -/
theorem fileName_unhidden (path : String) : (fileName (unhidden path)).toList = (fileName path).toList.drop 1 := by
  have inName : ∀ c ∈ ((fileName path).toList.drop 1).reverse, decide (c ≠ '/') = true := by
    intro c member
    rw [List.mem_reverse] at member
    have inName := List.mem_of_mem_drop member
    rw [fileName_toList, List.mem_reverse] at inName
    exact @List.mem_takeWhile_imp _ (fun c => decide (c ≠ '/')) _ _ inName
  have stops : (path.toList.reverse.dropWhile (· ≠ '/')).takeWhile (· ≠ '/') = [] := by
    cases rest : path.toList.reverse.dropWhile (· ≠ '/') with
    | nil => rfl
    | cons slash rest' =>
      have isSlash := List.head?_dropWhile_not (fun c => decide (c ≠ '/')) path.toList.reverse
      rw [rest, List.head?_cons] at isSlash
      rw [List.takeWhile_cons, isSlash]
      rfl
  rw [fileName_toList (unhidden path), unhidden, String.toList_ofList, List.reverse_append, List.reverse_reverse,
    List.takeWhile_append_of_pos inName, stops, List.append_nil, List.reverse_reverse]

theorem fileName_suffix (path : String) : (fileName path).toList <:+ path.toList := by
  rw [fileName_toList]
  have isPrefix := @List.takeWhile_prefix _ path.toList.reverse (fun c => decide (c ≠ '/'))
  have suffix := List.reverse_suffix.mpr isPrefix
  rw [List.reverse_reverse] at suffix
  exact suffix

/-- The destination of a hidden file is a visible name beside it. -/
theorem partialDestination_spec (isDestination : partialDestination env root path = some destination) :
    isHidden path = true ∧ destination = unhidden path ∧
      ∃ identity_, identity (env.at .empty) root (env.resolve destination) = some identity_ := by
  unfold partialDestination at isDestination
  split at isDestination
  next hidden =>
    obtain ⟨identity_, isIdentity, rfl⟩ := Option.map_eq_some_iff.mp isDestination
    exact ⟨hidden.1, rfl, identity_, isIdentity⟩
  next => cases isDestination

theorem destination_visible (laws : PathLaws env) (isDestination : partialDestination env root path = some destination)
    (real : env.resolve destination = destination) : isHidden destination = false := by
  obtain ⟨_, _, identity_, isIdentity⟩ := partialDestination_spec isDestination
  rw [real] at isIdentity
  exact visible_of_identity laws isIdentity

/-- A hidden file that has a destination is an mp4 file. -/
theorem mp4_of_destination (laws : PathLaws env) (isDestination : partialDestination env root path = some destination)
    (real : env.resolve destination = destination) : ".mp4".toList <:+ path.toList := by
  obtain ⟨_, isUnhidden, identity_, isIdentity⟩ := partialDestination_spec isDestination
  rw [real] at isIdentity
  obtain ⟨time, isTime⟩ := fileTime?_of_identity laws isIdentity
  have suffix := fileTime?_mp4 isTime
  rw [isUnhidden, fileName_unhidden] at suffix
  exact suffix.trans ((List.drop_suffix 1 _).trans (fileName_suffix path))

/-- The hidden file stays where it is: it has no destination, the destination is in use, or nothing
    can be read from it. -/
def Stuck (env : DiskEnv) (files : MediaFiles) (root path : String) : Prop :=
  ∀ destination, partialDestination env root path = some destination →
    (files.inode? destination).isSome ∨ env.taken destination = true ∨ readable env files path = false

theorem taken_of_pathExists (laws : PathLaws env) (real : env.resolve path = path)
    (isDestination : partialDestination env root path = some destination)
    (exists_ : pathExists env files destination = true) :
    (files.inode? destination).isSome ∨ env.taken destination = true := by
  obtain ⟨_, rfl, _⟩ := partialDestination_spec isDestination
  cases isTaken : env.taken (unhidden path) with
  | true => exact .inr rfl
  | false =>
    unfold pathExists at exists_
    rw [laws.sibling path real isTaken, Bool.or_eq_true] at exists_
    refine exists_.imp id fun isDir => ?_
    rw [laws.directory _ isDir] at isTaken
    cases isTaken

/-- The hidden file gets its final name and is taken into the catalog under it. -/
structure Moved (env : DiskEnv) (db : Database) (files : MediaFiles) (targetId : Uuid) (root path destination : String)
    (inode : Nat) (objectPath : String) (recovery : RecoveryOutcome) (db' : Database) (files' : MediaFiles) : Prop where
  isDestination : partialDestination env root path = some destination
  real : env.resolve destination = destination
  isPath : env.catalog.paths.relativeTo root destination = some objectPath
  isInode : files.inode? path = some inode
  free : files.inode? destination = none
  notTaken : env.taken destination = false
  isReadable : readable env files path = true
  names : ∀ name, files'.inode? name =
    if name = path then none else if name = destination then some inode else files.inode? name
  recovered : Recovered (env.at files') db targetId root destination objectPath recovery db'

theorem recoverPartialFile_cases (laws : PathLaws env) (real : env.resolve path = path)
    (isFile : (files.inode? path).isSome)
    (done : recoverPartialFile env uuid4 db files targetId root path now = .ok (db', files', outcome)) :
    (db' = db ∧ files' = files ∧ outcome ∈ [ScanOutcome.ambiguous, .error] ∧ Stuck env files root path) ∨
      ∃ destination inode objectPath, ∃ recovery : RecoveryOutcome, outcome = recovery.scannedPartial ∧
        Moved env db files targetId root path destination inode objectPath recovery db' files' := by
  unfold recoverPartialFile at done
  cases isDestination : partialDestination env root path with
  | none =>
    rw [isDestination] at done
    cases done
    refine .inl ⟨rfl, rfl, by decide, fun destination isDestination' => ?_⟩
    cases isDestination.symm.trans isDestination'
  | some destination =>
    rw [isDestination] at done
    dsimp only at done
    have stuck (reason : (files.inode? destination).isSome ∨ env.taken destination = true ∨
        readable env files path = false) : Stuck env files root path := by
      intro destination' isDestination'
      cases isDestination.symm.trans isDestination'
      exact reason
    split at done
    next exists_ =>
      cases done
      refine .inl ⟨rfl, rfl, by decide, stuck ?_⟩
      exact (taken_of_pathExists laws real isDestination exists_).imp id .inl
    split at done
    next unreadable =>
      cases done
      exact .inl ⟨rfl, rfl, by decide, stuck (.inr (.inr (Bool.eq_false_iff.mpr unreadable)))⟩
    next isReadable =>
    cases isLinked : linkName env files path destination with
    | error refused =>
      rw [isLinked] at done
      unfold linkName at isLinked
      have taken : refused = .exists_ ∧ ((files.inode? destination).isSome ∨ env.taken destination = true) := by
        split at isLinked
        next isTaken =>
          cases isLinked
          exact ⟨rfl, .inr isTaken.2⟩
        next =>
          rcases Directory.link_eq_error isLinked with ⟨_, isMissing⟩ | ⟨isRefused, inUse⟩
          · rw [isMissing] at isFile
            cases isFile
          · exact ⟨isRefused, .inl inUse⟩
      obtain ⟨rfl, inUse⟩ := taken
      cases done
      exact .inl ⟨rfl, rfl, by decide, stuck (inUse.imp id .inl)⟩
    | ok linked =>
      rw [isLinked] at done
      dsimp only at done
      unfold linkName at isLinked
      split at isLinked
      next => cases isLinked
      next notBoth =>
        have notTaken : env.taken destination = false := by
          rw [← Bool.not_eq_true]
          exact fun isTaken => notBoth ⟨isFile, isTaken⟩
        obtain ⟨free, inode, isInode, afterLink⟩ := Directory.inode?_link isLinked
        have differs : path ≠ destination := by
          rintro rfl
          rw [free] at isFile
          cases isFile
        obtain ⟨_, isUnhidden, _⟩ := partialDestination_spec isDestination
        have real' : env.resolve destination = destination := by
          rw [isUnhidden] at notTaken ⊢
          exact laws.sibling path real notTaken
        cases isMoved : linked.unlink path with
        | none =>
          unfold Directory.unlink at isMoved
          rw [afterLink, if_neg differs, isInode, Option.isSome_some, if_pos rfl] at isMoved
          cases isMoved
        | some moved =>
          rw [isMoved] at done
          dsimp only at done
          obtain ⟨_, afterUnlink⟩ := Directory.inode?_unlink isMoved
          split at done
          next => cases done
          next objectPath isPath =>
            rw [bind_eq_ok] at done
            obtain ⟨⟨stored, recovery⟩, isRecovered, done⟩ := done
            cases done
            refine .inr ⟨destination, inode, objectPath, recovery, rfl, isDestination, real', isPath, isInode, free,
              notTaken, not_not.mp isReadable, fun name => ?_, recoverFile_spec isRecovered⟩
            rw [afterUnlink, afterLink]

variable {since : Option Int} {target : Uuid × String} {name : String}

/-- A name that is not looked into: it is gone, leads out of the root, or was modified too early or too late. -/
def Skipped (env : DiskEnv) (since : Option Int) (now : Int) (files : MediaFiles) (root path : String)
    (outcome : ScanOutcome) : Prop :=
  (outcome = .gone ∧ files.inode? path = none) ∨
  (outcome = .outside ∧ env.catalog.paths.relativeTo root path = none) ∨
  (outcome = .older ∧ since.isSome) ∨
  (outcome = .unsettled ∧ ∃ inode, files.inode? path = some inode ∧ settledBefore now path < env.modifiedAt inode)

/-- What scanning a name does: nothing, a rename of a hidden file, or a recovery of a visible one. -/
inductive Scanned (env : DiskEnv) (since : Option Int) (now : Int) (target : Uuid × String) (db : Database)
    (files : MediaFiles) (path : String) : Database → MediaFiles → ScanOutcome → Prop
  | skipped {outcome : ScanOutcome} (skipped : Skipped env since now files target.2 path outcome) :
      Scanned env since now target db files path db files outcome
  | stuck {outcome : ScanOutcome} (hidden : isHidden path = true) (stuck : Stuck env files target.2 path)
      (isOutcome : outcome ∈ [ScanOutcome.ambiguous, .error]) :
      Scanned env since now target db files path db files outcome
  | moved {destination objectPath : String} {inode : Nat} {recovery : RecoveryOutcome} {db' : Database}
      {files' : MediaFiles} (hidden : isHidden path = true)
      (inside : (env.catalog.paths.relativeTo target.2 path).isSome)
      (moved : Moved env db files target.1 target.2 path destination inode objectPath recovery db' files') :
      Scanned env since now target db files path db' files' recovery.scannedPartial
  | visible {objectPath : String} {recovery : RecoveryOutcome} {db' : Database} (visible : isHidden path = false)
      (isFile : (files.inode? path).isSome) (isPath : env.catalog.paths.relativeTo target.2 path = some objectPath)
      (recovered : Recovered (env.at files) db target.1 target.2 path objectPath recovery db') :
      Scanned env since now target db files path db' files recovery.scanned

theorem scanName_cases (laws : PathLaws env) (real : RealFiles env files)
    (done : scanName env uuid4 since now target db files name = .ok (db', files', outcome)) :
    Scanned env since now target db files (env.resolve name) db' files' outcome := by
  unfold scanName at done
  dsimp only at done
  split at done
  next gone =>
    cases done
    exact .skipped (.inl ⟨rfl, gone⟩)
  next inode isInode =>
    have isFile : (files.inode? (env.resolve name)).isSome := by rw [isInode]; rfl
    split at done
    next outside =>
      cases done
      exact .skipped (.inr (.inl ⟨rfl, outside⟩))
    next objectPath isPath =>
      split at done
      next old =>
        cases done
        refine .skipped (.inr (.inr (.inl ⟨rfl, ?_⟩)))
        cases since with
        | none => cases old
        | some since => rfl
      split at done
      next unsettled =>
        cases done
        exact .skipped (.inr (.inr (.inr ⟨rfl, inode, isInode, unsettled⟩)))
      unfold recoverSettled at done
      split at done
      next hidden =>
        rcases recoverPartialFile_cases laws (real _ isFile) isFile done with
          ⟨rfl, rfl, isOutcome, stuck⟩ | ⟨destination, inode, objectPath, recovery, rfl, moved⟩
        · exact .stuck hidden stuck isOutcome
        · exact .moved hidden (by rw [isPath]; rfl) moved
      next visible =>
        rw [bind_eq_ok] at done
        obtain ⟨⟨stored, recovery⟩, isRecovered, done⟩ := done
        cases done
        exact .visible (Bool.eq_false_iff.mpr visible) isFile isPath (recoverFile_spec isRecovered)

/-- Nothing is left to do for a file of a target. -/
def Done (env : DiskEnv) (db : Database) (files : MediaFiles) (target : Uuid × String) (path : String) : Prop :=
  ∀ objectPath, env.catalog.paths.relativeTo target.2 path = some objectPath →
    if isHidden path then Stuck env files target.2 path
    else Idle (env.at files) db target.1 target.2 path objectPath

/-- The outcomes that change the catalog or the disk. -/
def changing : List ScanOutcome := [.recovered, .partialRecovered, .relinked]

end Files

/-! ## A disk without links -/

/-- `path.relative_to(root)`. -/
def plainRelative (root path : String) : Option String :=
  if (root ++ "/").toList.isPrefixOf path.toList then some (String.ofList (path.toList.drop (root.length + 1)))
  else none

def plainListed (root path : String) : Bool :=
  (plainRelative root path).isSome && ".mp4".toList.isSuffixOf path.toList

/-- A disk with the given directories, whose inodes are numbered by their sizes. -/
def plainDisk (directories : List String) (modifiedAt : Int) : DiskEnv where
  catalog :=
    { zoneInfo := fun key => .error (.zoneInfoNotFoundError key)
      paths := { resolveRoot := some, isAbsolute := fun path => path.startsWith "/", relativeTo := plainRelative }
      parseUuid := fun _ => some 3
      fromTimestamp := fun seconds => ⌊seconds * 1000000⌋
      roundMs := fun seconds => ⌊seconds * 1000⌋ }
  resolve := id
  resolveWithin root relative := some (root ++ "/" ++ relative)
  taken path := directories.contains path
  isDir path := directories.contains path
  rglob root files := (files.rows.map DirectoryEntry.name).filter (plainListed root)
  probe _ := some { durationMs := 5000, codec := none, positive := by decide }
  size inode := inode
  modifiedAt _ := modifiedAt

/-- The last word of a text. -/
def lastWord (text : List Char) : List Char := (text.reverse.takeWhile (· ≠ '/')).reverse

theorem splitSlash_noSlash {text : List Char} (noSlash : '/' ∉ text) : splitSlash text = [text] := by
  induction text with
  | nil => rfl
  | cons c rest ih =>
    obtain ⟨differs, inRest⟩ := not_or.mp (List.mem_cons.not.mp noSlash)
    rw [splitSlash, if_neg (Ne.symm differs), ih inRest]

theorem splitSlash_slash {text : List Char} (slash : '/' ∈ text) :
    ∃ word next words, splitSlash text = word :: next :: words := by
  induction text with
  | nil => cases slash
  | cons c rest ih =>
    rw [splitSlash]
    split
    · cases split : splitSlash rest with
      | nil =>
        cases rest with
        | nil => cases split
        | cons d rest =>
          rw [splitSlash] at split
          split at split
          · cases split
          · split at split <;> cases split
      | cons word words => exact ⟨[], word, words, rfl⟩
    next differs =>
      obtain ⟨word, next, words, split⟩ := ih ((List.mem_cons.mp slash).resolve_left fun same => differs same.symm)
      rw [split]
      exact ⟨c :: word, next, words, rfl⟩

theorem lastWord_append (front rest : List Char) : lastWord (front ++ '/' :: rest) = lastWord rest := by
  unfold lastWord
  rw [List.reverse_append, List.reverse_cons, List.append_assoc, List.singleton_append, List.takeWhile_append]
  split
  next whole =>
    rw [List.takeWhile_cons_of_neg (by decide), List.append_nil,
      (List.takeWhile_prefix _).eq_of_length whole]
  next => rfl

theorem splitSlash_getLast? (text : List Char) : (splitSlash text).getLast? = some (lastWord text) := by
  induction text with
  | nil => rfl
  | cons c rest ih =>
    by_cases isSlash : c = '/'
    · subst isSlash
      have last := lastWord_append [] rest
      rw [List.nil_append] at last
      rw [splitSlash, if_pos rfl, last, ← ih]
      cases split : splitSlash rest with
      | nil => rw [split] at ih; cases ih
      | cons word words => rfl
    · by_cases slash : '/' ∈ rest
      · obtain ⟨word, next, words, split⟩ := splitSlash_slash slash
        have last : lastWord (c :: rest) = lastWord rest := by
          obtain ⟨front, back, rfl⟩ := List.append_of_mem slash
          rw [← List.cons_append, lastWord_append, lastWord_append]
        rw [splitSlash, if_neg isSlash, last, ← ih, split]
        rfl
      · have noSlash : '/' ∉ c :: rest := by
          rintro (_ | ⟨_, inRest⟩)
          · exact isSlash rfl
          · exact slash inRest
        have whole : ∀ d ∈ (c :: rest).reverse, decide (d ≠ '/') = true := by
          intro d member
          rw [List.mem_reverse] at member
          exact decide_eq_true fun same => noSlash (same ▸ member)
        rw [splitSlash_noSlash noSlash, lastWord, List.takeWhile_eq_self_iff.mpr whole, List.reverse_reverse]
        rfl

theorem plainRelative_toList {root path relative : String} (isRelative : plainRelative root path = some relative) :
    path.toList = root.toList ++ '/' :: relative.toList := by
  unfold plainRelative at isRelative
  split at isRelative
  next inside =>
    cases isRelative
    obtain ⟨rest, isPath⟩ := List.isPrefixOf_iff_prefix.mp inside
    rw [String.toList_ofList, ← isPath, String.toList_append]
    have length : root.length + 1 = (root.toList ++ "/".toList).length := by
      rw [List.length_append, String.length_toList]
      rfl
    rw [length, List.drop_left, List.append_assoc]
    rfl
  next => cases isRelative

theorem plainDisk_laws (directories : List String) (modifiedAt : Int) : PathLaws (plainDisk directories modifiedAt) where
  name root path relative isRelative _ := by
    rw [pathParts, List.getLast?_map, splitSlash_getLast?, fileName, plainRelative_toList isRelative]
    exact congrArg (fun text => some (String.ofList text)) (lastWord_append root.toList relative.toList).symm
  within root path relative _ isRelative := by
    refine congrArg some (String.toList_injective ?_)
    rw [String.toList_append, String.toList_append, plainRelative_toList isRelative, List.append_assoc]
    rfl
  sibling _ _ _ := rfl
  directory _ isDir := isDir

end RecordingCatalogReconciliationService

end ZeroNvr
