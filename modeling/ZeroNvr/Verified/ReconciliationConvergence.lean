import ZeroNvr.Recordings.ReconciliationRun

/-! # A full reconciliation run leaves nothing to do

After a full run every file it found is known to the catalog or cannot be taken
into it, and every available copy has its file; a second run then changes
nothing.  Two things would undo that: a rename of the hidden file that an
available copy points at, and a rename under one root that another root sees.
-/

namespace ZeroNvr.RecordingCatalogReconciliationService

open Lib

variable {env : DiskEnv} {uuid4 : Supply Uuid} {db db' : Database} {files files' : MediaFiles} {now : Int}

/-! ## Marking what is missing -/

/-- Marking takes available copies to missing ones, and leaves everything else. -/
structure MarksOnly (db db' : Database) : Prop where
  rows : ∀ row ∈ db'.locations, row ∈ db.locations ∨ row.state = .missing
  kept : ∀ row ∈ db.locations, row.state ≠ .available → row ∈ db'.locations
  profiles : db'.streamProfiles = db.streamProfiles
  storageTargets : db'.storageTargets = db.storageTargets

theorem MarksOnly.refl (db : Database) : MarksOnly db db :=
  ⟨fun _ member => .inl member, fun _ member _ => member, rfl, rfl⟩

theorem MarksOnly.trans {db'' : Database} (first : MarksOnly db db') (second : MarksOnly db' db'') : MarksOnly db db'' := by
  refine ⟨fun row member => ?_, fun row member notAvailable => ?_, second.profiles.trans first.profiles,
    second.storageTargets.trans first.storageTargets⟩
  · rcases second.rows row member with old | isMissing
    · exact first.rows row old
    · exact .inr isMissing
  · exact second.kept row (first.kept row member notAvailable) notAvailable

/-- The available copy has its file, or its path leads out of the root. -/
def HasFile (env : DiskEnv) (files : MediaFiles) (root : String) (location : RecordingLocation) : Prop :=
  ∀ path, env.resolveWithin root location.objectPath = some path → (files.inode? path).isSome

/-- The roots of two targets are the same or have no path in common. -/
def RootsApart (env : DiskEnv) (roots : List (Uuid × String)) : Prop :=
  ∀ left ∈ roots, ∀ right ∈ roots, ∀ path, (env.catalog.paths.relativeTo left.2 path).isSome →
    (env.catalog.paths.relativeTo right.2 path).isSome → left.2 = right.2

/-- The path is not that of a hidden file with a destination under one of the roots. -/
def NotPartial (env : DiskEnv) (roots : List (Uuid × String)) (path : String) : Prop :=
  ∀ root ∈ roots, partialDestination env root.2 path = none

/-- Every file has been left alone for as long as the scan asks for. -/
def AllSettled (env : DiskEnv) (now : Int) (files : MediaFiles) : Prop :=
  ∀ path inode, files.inode? path = some inode → env.modifiedAt inode ≤ settledBefore now path

/-- A walk yields the names under the root that a pattern accepts; every mp4 file is among them. -/
structure Walks (env : DiskEnv) (listed : String → String → Bool) : Prop where
  yields : ∀ root files name, name ∈ env.rglob root files ↔
    listed root name = true ∧ ((files.inode? name).isSome ∨ env.taken name = true)
  lists : ∀ root path, env.resolve path = path → (env.catalog.paths.relativeTo root path).isSome →
    ".mp4".toList <:+ path.toList → listed root path = true

/-- What holds of catalog and disk all through the scan. -/
structure Steady (env : DiskEnv) (roots : List (Uuid × String)) (now : Int) (db : Database) (files : MediaFiles) : Prop where
  real : RealFiles env files
  settled : AllSettled env now files
  copies : ∀ target ∈ roots, ∀ row ∈ db.locations, row.storageTargetId = target.1 → row.state = .available →
    ∀ path, env.resolveWithin target.2 row.objectPath = some path →
      (files.inode? path).isSome ∧ NotPartial env roots path

theorem partialDestination_visible {root path : String} (visible : isHidden path = false) :
    partialDestination env root path = none := by
  unfold partialDestination
  rw [visible]
  exact if_neg (by simp)

theorem settledBefore_le (now : Int) (path other : String) (hidden : isHidden path = true) :
    settledBefore now path ≤ settledBefore now other := by
  unfold settledBefore seconds settleSeconds partialSettleSeconds
  rw [if_pos hidden]
  split <;> omega

section Moving

variable {target : Uuid × String} {path destination objectPath : String} {inode : Nat} {recovery : RecoveryOutcome}

theorem Moved.visible (laws : PathLaws env)
    (moved : Moved env db files target.1 target.2 path destination inode objectPath recovery db' files') :
    isHidden destination = false := destination_visible laws moved.isDestination moved.real

theorem Moved.hidden (moved : Moved env db files target.1 target.2 path destination inode objectPath recovery db' files') :
    isHidden path = true := (partialDestination_spec moved.isDestination).1

theorem Moved.differs (laws : PathLaws env)
    (moved : Moved env db files target.1 target.2 path destination inode objectPath recovery db' files') :
    destination ≠ path := by
  rintro rfl
  exact Bool.false_ne_true ((moved.visible laws).symm.trans moved.hidden)

theorem Moved.inode_destination (laws : PathLaws env)
    (moved : Moved env db files target.1 target.2 path destination inode objectPath recovery db' files') :
    files'.inode? destination = some inode := by
  rw [moved.names, if_neg (moved.differs laws), if_pos rfl]

theorem Moved.inode_other
    (moved : Moved env db files target.1 target.2 path destination inode objectPath recovery db' files')
    {other : String} (notPath : other ≠ path) (notDestination : other ≠ destination) :
    files'.inode? other = files.inode? other := by
  rw [moved.names, if_neg notPath, if_neg notDestination]

/-- The files after a move are the destination and those before it but the hidden one. -/
theorem Moved.isSome_cases
    (moved : Moved env db files target.1 target.2 path destination inode objectPath recovery db' files')
    {other : String} (isFile : (files'.inode? other).isSome) :
    other = destination ∨ (other ≠ path ∧ other ≠ destination ∧ (files.inode? other).isSome) := by
  by_cases isDestination : other = destination
  · exact .inl isDestination
  · rw [moved.names, if_neg isDestination] at isFile
    by_cases isPath : other = path
    · rw [if_pos isPath] at isFile
      cases isFile
    · rw [if_neg isPath] at isFile
      exact .inr ⟨isPath, isDestination, isFile⟩

end Moving

/-! ## Nothing is left to do -/

theorem Idle.mono {targetId targetId' : Uuid} {root path objectPath objectPath' : String}
    (sameFile : files'.inode? path = files.inode? path) (recovers : Recovers db targetId' objectPath' db')
    (idle : Idle (env.at files) db targetId root path objectPath) :
    Idle (env.at files') db' targetId root path objectPath := by
  rcases recovers.locationAt targetId objectPath with same | ⟨row, found, available⟩
  · have sameSize : (env.at files').size path = (env.at files).size path := by
      change (files'.inode? path).map env.size = (files.inode? path).map env.size
      rw [sameFile]
    have sameProbe : (env.at files').probe path = (env.at files).probe path := by
      change (files'.inode? path).bind env.probe = (files.inode? path).bind env.probe
      rw [sameFile]
    unfold Idle at idle ⊢
    rw [same, sameSize, sameProbe, recovers.profiles]
    exact idle
  · exact idle_of_available found (by rw [available]; nofun)

section Moving

variable {target other : Uuid × String} {path destination objectPath : String} {inode : Nat} {recovery : RecoveryOutcome}

/-- A move leaves the other hidden files stuck: it takes no visible name away. -/
theorem Stuck.moved (laws : PathLaws env) (real : RealFiles env files)
    (moved : Moved env db files target.1 target.2 path destination inode objectPath recovery db' files')
    {root path' : String} (stays : (files'.inode? path').isSome) (hidden : isHidden path' = true)
    (stuck : Stuck env files root path') : Stuck env files' root path' := by
  intro destination' isDestination'
  have notDestination : path' ≠ destination := by
    rintro rfl
    exact Bool.false_ne_true ((moved.visible laws).symm.trans hidden)
  rcases moved.isSome_cases stays with isDestination | ⟨notPath, _, _⟩
  · exact absurd isDestination notDestination
  rcases stuck destination' isDestination' with inUse | isTaken | unreadable
  · refine .inl ?_
    have visible := destination_visible laws isDestination' (real destination' inUse)
    have notHidden : destination' ≠ path := by
      rintro rfl
      exact Bool.false_ne_true (visible.symm.trans moved.hidden)
    by_cases same : destination' = destination
    · rw [same, moved.inode_destination laws]
      rfl
    · rw [moved.inode_other notHidden same]
      exact inUse
  · exact .inr (.inl isTaken)
  · refine .inr (.inr ?_)
    unfold readable at unreadable ⊢
    rw [moved.inode_other notPath notDestination]
    exact unreadable

theorem Done.moved (laws : PathLaws env) (real : RealFiles env files)
    (moved : Moved env db files target.1 target.2 path destination inode objectPath recovery db' files')
    {path' : String} (stays : (files'.inode? path').isSome) (notDestination : path' ≠ destination)
    (done : Done env db files other path') : Done env db' files' other path' := by
  intro objectPath' isPath'
  have done := done objectPath' isPath'
  split at done
  next hidden =>
    rw [if_pos hidden]
    exact done.moved laws real moved stays hidden
  next visible =>
    rw [if_neg visible]
    rcases moved.isSome_cases stays with isDestination | ⟨notPath, _, _⟩
    · exact absurd isDestination notDestination
    · exact done.mono (moved.inode_other notPath notDestination) moved.recovered.recovers

theorem Done.at_destination (laws : PathLaws env)
    (moved : Moved env db files target.1 target.2 path destination inode objectPath recovery db' files') :
    Done env db' files' target destination := by
  intro objectPath' isPath'
  cases moved.isPath.symm.trans isPath'
  rw [if_neg (by rw [moved.visible laws]; exact Bool.false_ne_true)]
  exact moved.recovered.idle

theorem Done.recovers {objectPath' : String} {targetId' : Uuid} (recovers : Recovers db targetId' objectPath' db')
    (done : Done env db files other path) : Done env db' files other path := by
  intro objectPath isPath
  have done := done objectPath isPath
  split at done
  next hidden =>
    rw [if_pos hidden]
    exact done
  next visible =>
    rw [if_neg visible]
    exact done.mono rfl recovers

/-- A hidden file that moves under a root is not done for any target with that root. -/
theorem Moved.not_done (moved : Moved env db files target.1 target.2 path destination inode objectPath recovery db' files')
    (sameRoot : other.2 = target.2) (inside : (env.catalog.paths.relativeTo target.2 path).isSome) :
    ¬ Done env db files other path := by
  intro done
  obtain ⟨relative, isRelative⟩ := Option.isSome_iff_exists.mp inside
  have stuck := done relative (by rw [sameRoot, isRelative])
  rw [if_pos moved.hidden, sameRoot] at stuck
  rcases stuck destination moved.isDestination with inUse | isTaken | unreadable
  · rw [moved.free] at inUse
    cases inUse
  · rw [moved.notTaken] at isTaken
    cases isTaken
  · rw [moved.isReadable] at unreadable
    cases unreadable

theorem Steady.moved {roots : List (Uuid × String)} (laws : PathLaws env) (isRoot : target ∈ roots)
    (functional : ∀ left ∈ roots, ∀ right ∈ roots, left.1 = right.1 → left = right)
    (moved : Moved env db files target.1 target.2 path destination inode objectPath recovery db' files')
    (steady : Steady env roots now db files) : Steady env roots now db' files' := by
  refine ⟨fun name isFile => ?_, fun name inode' isInode => ?_, fun other isOther row member ofTarget available name isName => ?_⟩
  · rcases moved.isSome_cases isFile with rfl | ⟨_, _, wasFile⟩
    · exact moved.real
    · exact steady.real name wasFile
  · by_cases isDestination : name = destination
    · rw [isDestination, moved.inode_destination laws] at isInode
      cases isInode
      exact (steady.settled path inode moved.isInode).trans (settledBefore_le now path name moved.hidden)
    · rcases moved.isSome_cases (by rw [isInode]; rfl) with same | ⟨notPath, _, _⟩
      · exact absurd same isDestination
      · rw [moved.inode_other notPath isDestination] at isInode
        exact steady.settled name inode' isInode
  · rcases moved.recovered.recovers.rows row member with old | ⟨_, isTarget, isObject⟩
    · obtain ⟨isFile, notPartial⟩ := steady.copies other isOther row old ofTarget available name isName
      refine ⟨?_, notPartial⟩
      have notPath : name ≠ path := by
        rintro rfl
        cases (notPartial target isRoot).symm.trans moved.isDestination
      by_cases same : name = destination
      · rw [same, moved.inode_destination laws]
        rfl
      · rw [moved.inode_other notPath same]
        exact isFile
    · obtain rfl : other = target := functional other isOther target isRoot (ofTarget.symm.trans isTarget)
      rw [isObject, laws.within other.2 destination objectPath moved.real moved.isPath] at isName
      cases isName
      rw [moved.inode_destination laws]
      exact ⟨rfl, fun _ _ => partialDestination_visible (moved.visible laws)⟩

theorem Steady.recovered {roots : List (Uuid × String)} (laws : PathLaws env) (isRoot : target ∈ roots)
    (functional : ∀ left ∈ roots, ∀ right ∈ roots, left.1 = right.1 → left = right)
    (visible : isHidden path = false) (isFile : (files.inode? path).isSome)
    (isPath : env.catalog.paths.relativeTo target.2 path = some objectPath)
    (recovers : Recovers db target.1 objectPath db') (steady : Steady env roots now db files) :
    Steady env roots now db' files := by
  refine ⟨steady.real, steady.settled, fun other isOther row member ofTarget available name isName => ?_⟩
  rcases recovers.rows row member with old | ⟨_, isTarget, isObject⟩
  · exact steady.copies other isOther row old ofTarget available name isName
  · obtain rfl : other = target := functional other isOther target isRoot (ofTarget.symm.trans isTarget)
    rw [isObject, laws.within other.2 path objectPath (steady.real path isFile) isPath] at isName
    cases isName
    exact ⟨isFile, fun _ _ => partialDestination_visible visible⟩

end Moving

/-! ## The scan -/

section Scan

variable {listed : String → String → Bool} {roots finished : List (Uuid × String)} {target : Uuid × String}

/-- A walk of the target comes to the path, under its own name or through a link. -/
def Seen (env : DiskEnv) (listed : String → String → Bool) (target : Uuid × String) (path : String) : Prop :=
  ∃ name, listed target.2 name = true ∧ (name = path ∨ env.taken name = true) ∧ env.resolve name = path

/-- Nothing is left to do for the files that walks of the target come to. -/
def Finished (env : DiskEnv) (listed : String → String → Bool) (db : Database) (files : MediaFiles)
    (target : Uuid × String) : Prop :=
  ∀ path, (files.inode? path).isSome → Seen env listed target path → Done env db files target path

/-- The targets scanned before are finished, and the current one but for the rest of its walk. -/
structure Scanning (env : DiskEnv) (listed : String → String → Bool) (roots finished : List (Uuid × String))
    (target : Uuid × String) (now : Int) (rest : List String) (db : Database) (files : MediaFiles) : Prop where
  steady : Steady env roots now db files
  finished : ∀ other ∈ finished, env.isDir other.2 = true → Finished env listed db files other
  current : ∀ path, (files.inode? path).isSome → Seen env listed target path →
    Done env db files target path ∨ ∃ name ∈ rest, env.resolve name = path

/-- What the targets of a run are. -/
structure Roots (env : DiskEnv) (roots : List (Uuid × String)) : Prop where
  functional : ∀ left ∈ roots, ∀ right ∈ roots, left.1 = right.1 → left = right
  apart : RootsApart env roots

theorem Scanning.idle {name : String} {rest : List String}
    (scanning : Scanning env listed roots finished target now (name :: rest) db files)
    (own : (files.inode? (env.resolve name)).isSome → Done env db files target (env.resolve name)) :
    Scanning env listed roots finished target now rest db files := by
  refine ⟨scanning.steady, scanning.finished, fun path isFile seen => ?_⟩
  rcases scanning.current path isFile seen with done | ⟨other, inRest, rfl⟩
  · exact .inl done
  · rcases List.mem_cons.mp inRest with rfl | inRest
    · exact .inl (own isFile)
    · exact .inr ⟨other, inRest, rfl⟩

theorem Scanning.moved {name destination objectPath : String} {inode : Nat} {recovery : RecoveryOutcome}
    {rest : List String} (laws : PathLaws env) (walks : Walks env listed) (isRoots : Roots env roots)
    (isRoot : target ∈ roots) (areRoots : ∀ other ∈ finished, other ∈ roots)
    (scanning : Scanning env listed roots finished target now (name :: rest) db files)
    (inside : (env.catalog.paths.relativeTo target.2 (env.resolve name)).isSome)
    (moved : Moved env db files target.1 target.2 (env.resolve name) destination inode objectPath recovery db' files') :
    Scanning env listed roots finished target now rest db' files' := by
  have real := scanning.steady.real
  have wasFile : (files.inode? (env.resolve name)).isSome := by rw [moved.isInode]; rfl
  refine ⟨scanning.steady.moved laws isRoot isRoots.functional moved, fun other isFinished isDir path isFile seen => ?_,
    fun path isFile seen => ?_⟩
  · by_cases isDestination : path = destination
    · subst isDestination
      intro relative isRelative
      have sameRoot : other.2 = target.2 := isRoots.apart other (areRoots other isFinished) target isRoot path
        (by rw [isRelative]; rfl) (by rw [moved.isPath]; rfl)
      have isListed : listed other.2 (env.resolve name) = true := by
        rw [sameRoot]
        exact walks.lists target.2 _ (real _ wasFile) inside (mp4_of_destination laws moved.isDestination moved.real)
      have finishedName := scanning.finished other isFinished isDir (env.resolve name) wasFile
        ⟨_, isListed, .inl rfl, real _ wasFile⟩
      exact absurd finishedName (moved.not_done sameRoot inside)
    · rcases moved.isSome_cases isFile with same | ⟨_, _, wasOther⟩
      · exact absurd same isDestination
      · exact (scanning.finished other isFinished isDir path wasOther seen).moved laws real moved isFile isDestination
  · by_cases isDestination : path = destination
    · subst isDestination
      exact .inl (.at_destination laws moved)
    · rcases moved.isSome_cases isFile with same | ⟨notPath, _, wasOther⟩
      · exact absurd same isDestination
      · rcases scanning.current path wasOther seen with done | ⟨other, inRest, rfl⟩
        · exact .inl (done.moved laws real moved isFile isDestination)
        · rcases List.mem_cons.mp inRest with rfl | inRest
          · exact absurd rfl notPath
          · exact .inr ⟨other, inRest, rfl⟩

theorem Scanning.recovered {name objectPath : String} {recovery : RecoveryOutcome} {rest : List String}
    (laws : PathLaws env) (isRoots : Roots env roots) (isRoot : target ∈ roots)
    (scanning : Scanning env listed roots finished target now (name :: rest) db files)
    (visible : isHidden (env.resolve name) = false) (isFile : (files.inode? (env.resolve name)).isSome)
    (isPath : env.catalog.paths.relativeTo target.2 (env.resolve name) = some objectPath)
    (recovered : Recovered (env.at files) db target.1 target.2 (env.resolve name) objectPath recovery db') :
    Scanning env listed roots finished target now rest db' files := by
  refine ⟨scanning.steady.recovered laws isRoot isRoots.functional visible isFile isPath recovered.recovers,
    fun other isFinished isDir path isFile seen =>
      (scanning.finished other isFinished isDir path isFile seen).recovers recovered.recovers,
    fun path isFile seen => ?_⟩
  rcases scanning.current path isFile seen with done | ⟨other, inRest, rfl⟩
  · exact .inl (done.recovers recovered.recovers)
  · rcases List.mem_cons.mp inRest with rfl | inRest
    · refine .inl fun objectPath' isPath' => ?_
      cases isPath.symm.trans isPath'
      rw [if_neg (by rw [visible]; exact Bool.false_ne_true)]
      exact recovered.idle
    · exact .inr ⟨other, inRest, rfl⟩

theorem Scanning.step {name : String} {rest : List String} {state state' : ScanState} (laws : PathLaws env)
    (walks : Walks env listed) (isRoots : Roots env roots) (isRoot : target ∈ roots)
    (areRoots : ∀ other ∈ finished, other ∈ roots)
    (scanning : Scanning env listed roots finished target now (name :: rest) state.db state.files)
    (stepped : scanStep env uuid4 none now target state name = .ok state') :
    Scanning env listed roots finished target now rest state'.db state'.files := by
  unfold scanStep at stepped
  rw [bind_eq_ok] at stepped
  obtain ⟨⟨db', files', outcome⟩, done, same⟩ := stepped
  cases same
  cases scanName_cases laws scanning.steady.real done with
  | skipped skipped =>
    refine scanning.idle fun isFile objectPath isPath => ?_
    rcases skipped with ⟨_, gone⟩ | ⟨_, outside⟩ | ⟨_, since⟩ | ⟨_, inode, isInode, unsettled⟩
    · rw [gone] at isFile
      cases isFile
    · cases outside.symm.trans isPath
    · cases since
    · exact absurd (scanning.steady.settled _ inode isInode) (not_le.mpr unsettled)
  | stuck hidden stuck _ =>
    refine scanning.idle fun isFile objectPath isPath => ?_
    rw [if_pos hidden]
    exact stuck
  | moved hidden inside moved => exact scanning.moved laws walks isRoots isRoot areRoots inside moved
  | visible visible isFile isPath recovered =>
    exact scanning.recovered laws isRoots isRoot visible isFile isPath recovered

end Scan

/-! ## The whole run -/

/-- What a run may do to the rows of the catalog. -/
structure RunKeeps (db db' : Database) : Prop where
  kept : ∀ row ∈ db.locations, row.state ≠ .available → row.state ≠ .missing → row ∈ db'.locations
  storageTargets : db'.storageTargets = db.storageTargets

theorem RunKeeps.refl (db : Database) : RunKeeps db db := ⟨fun _ member _ _ => member, rfl⟩

theorem RunKeeps.recovers {start : Database} {targetId : Uuid} {objectPath : String} (keeps : RunKeeps start db)
    (recovers : Recovers db targetId objectPath db') : RunKeeps start db' :=
  ⟨fun row member notAvailable notMissing =>
      recovers.kept row (keeps.kept row member notAvailable notMissing) notMissing,
    recovers.storageTargets.trans keeps.storageTargets⟩

theorem plainDisk_walks {directories : List String} (modifiedAt : Int)
    (noMedia : ∀ directory ∈ directories, ".mp4".toList.isSuffixOf directory.toList = false) :
    Walks (plainDisk directories modifiedAt) plainListed where
  yields root files name := by
    change name ∈ (files.rows.map DirectoryEntry.name).filter (plainListed root) ↔ _
    rw [List.mem_filter, List.mem_map, and_comm]
    refine and_congr_right fun isListed => ⟨?_, ?_⟩
    · rintro ⟨entry, member, rfl⟩
      exact .inl (Option.isSome_iff_exists.mpr ⟨entry.inode, Directory.inode?_eq_some_iff.mpr member⟩)
    · rintro (isFile | isTaken)
      · obtain ⟨inode, isInode⟩ := Option.isSome_iff_exists.mp isFile
        exact ⟨_, Directory.inode?_eq_some_iff.mp isInode, rfl⟩
      · rw [plainListed, noMedia name (List.contains_iff_mem.mp isTaken), Bool.and_false] at isListed
        cases isListed
  lists root path _ inside isMp4 := by
    rw [plainListed, Bool.and_eq_true]
    exact ⟨inside, List.isSuffixOf_iff_suffix.mpr isMp4⟩

/-- Where recordings lie under a root. -/
def recordingName (name : String) : String :=
  "record/zero-nvr/profile-0123456789abcdef0123456789abcdef/2024-01-02/" ++ name

def localTarget (id : Uuid) (name path : String) : StorageTarget :=
  { id, type := .local, role := .recording, name, config := [("path", .str path)] }

def copyAt (targetId : Uuid) (objectPath : String) (state : LocationState) : RecordingLocation :=
  { id := 1, recordingSegmentId := 1, storageTargetId := targetId, objectPath, state, sizeBytes := 7 }

/-- The hidden file of a recording that was never finalized. -/
def hiddenFile (root : String) : MediaFiles := ⟨[⟨root ++ "/" ++ recordingName ".2024-01-02-03-04-05.mp4", 7⟩], by simp⟩

/-- One target with a missing copy, and the hidden file the copy will be found in. -/
def missingCopy : Database := {
  storageTargets := ⟨[localTarget 1 "a" "/r"], by decide⟩
  locations := ⟨[copyAt 1 (recordingName "2024-01-02-03-04-05.mp4") .missing], by decide⟩ }

end ZeroNvr.RecordingCatalogReconciliationService
