import ZeroNvr.Recordings.PartialRecovery
import ZeroNvr.Verified.ReconciliationConvergence

/-! # Hidden files are neither lost nor put over others

A reconciler that has made the canonical link owns it until it has taken one of
the two names away: the link was refused while the name was in use, so there is
one owner at most, and both names lead to the hidden file for as long as there
is one.  ZLM's rename does nothing then, as both names lead to the same inode.
-/

namespace ZeroNvr.RecordingCatalogReconciliationService

open Lib

variable {env : DiskEnv} {uuid4 : Supply Uuid} {path destination root : String} {inode : Nat}

/-! ## The names of a hidden file -/

theorem unhidden_ne (hidden : isHidden path = true) : unhidden path ≠ path := by
  intro same
  have parts : path.toList = (path.toList.reverse.dropWhile (· ≠ '/')).reverse ++ (fileName path).toList := by
    rw [fileName_toList, ← List.reverse_append, List.takeWhile_append_dropWhile, List.reverse_reverse]
  have lengths := congrArg (fun text => text.toList.length) same
  rw [unhidden, String.toList_ofList, List.length_append, List.length_drop] at lengths
  have whole := congrArg List.length parts
  rw [List.length_append] at whole
  have nonempty : 0 < (fileName path).toList.length := by
    cases isName : (fileName path).toList with
    | nil =>
      rw [isHidden, isName] at hidden
      cases hidden
    | cons c rest => exact Nat.succ_pos _
  omega

/-! ## The invariant -/

/-- The hidden file has one of its two names, and both while a reconciler holds the link. -/
structure Safe (path destination : String) (inode : Nat) (world : PartialWorld) : Prop where
  reachable : world.files.inode? path = some inode ∨ world.files.inode? destination = some inode
  own : ∀ other, world.files.inode? path = some other → other = inode
  held : ∀ execution, (world.phase execution).holds = true →
    world.files.inode? path = some inode ∧ world.files.inode? destination = some inode
  unique : ∀ one other, (world.phase one).holds = true → (world.phase other).holds = true → one = other

section Steps

variable {world world' : PartialWorld} {execution : Nat}

theorem Safe.free (safe : Safe path destination inode world) (isFree : world.files.inode? destination = none)
    (other : Nat) : (world.phase other).holds = false := by
  cases holds : (world.phase other).holds with
  | false => rfl
  | true =>
    obtain ⟨_, isTaken⟩ := safe.held other holds
    cases isFree.symm.trans isTaken

theorem Safe.same (safe : Safe path destination inode world) (sameFiles : world'.files = world.files)
    (others : ∀ other ≠ execution, world'.phase other = world.phase other)
    (own : (world'.phase execution).holds = true → (world.phase execution).holds = true) :
    Safe path destination inode world' := by
  have held (other : Nat) (holds : (world'.phase other).holds = true) : (world.phase other).holds = true := by
    by_cases isOwn : other = execution
    · rw [isOwn] at holds ⊢
      exact own holds
    · rw [← others other isOwn]
      exact holds
  refine ⟨?_, ?_, fun other holds => ?_, fun one other holds holds' => safe.unique one other (held one holds) (held other holds')⟩
  · rw [sameFiles]
    exact safe.reachable
  · rw [sameFiles]
    exact safe.own
  · rw [sameFiles]
    exact safe.held other (held other holds)

/-- Making the link: nobody else holds it, as the name was free. -/
theorem Safe.linked (differs : path ≠ destination) (safe : Safe path destination inode world)
    (others : ∀ other ≠ execution, world'.phase other = world.phase other)
    (isFree : world.files.inode? destination = none) {linked : Nat} (isInode : world.files.inode? path = some linked)
    (names : ∀ name, world'.files.inode? name = if name = destination then some linked else world.files.inode? name) :
    Safe path destination inode world' := by
  obtain rfl : linked = inode := safe.own linked isInode
  have stays : world'.files.inode? path = some linked := by rw [names, if_neg differs, isInode]
  have isLinked : world'.files.inode? destination = some linked := by rw [names, if_pos rfl]
  have onlyOwn (other : Nat) (holds : (world'.phase other).holds = true) : other = execution := by
    by_contra isOther
    rw [others other isOther, safe.free isFree other] at holds
    cases holds
  refine ⟨.inl stays, fun other isOther => ?_, fun _ _ => ⟨stays, isLinked⟩, fun one other holds holds' => ?_⟩
  · exact Option.some.inj (isOther.symm.trans stays)
  · rw [onlyOwn one holds, onlyOwn other holds']

/-- The owner of the link lets go of it: one of the two names is taken away. -/
theorem Safe.released (safe : Safe path destination inode world)
    (others : ∀ other ≠ execution, world'.phase other = world.phase other)
    (held : (world.phase execution).holds = true) (freed : (world'.phase execution).holds = false)
    (reachable : world'.files.inode? path = some inode ∨ world'.files.inode? destination = some inode)
    (own : ∀ other, world'.files.inode? path = some other → other = inode) : Safe path destination inode world' := by
  have none (other : Nat) : (world'.phase other).holds = false := by
    by_cases isOwn : other = execution
    · rw [isOwn]
      exact freed
    · rw [others other isOwn]
      by_contra holds
      rw [Bool.not_eq_false] at holds
      exact isOwn (safe.unique other execution holds held)
  refine ⟨reachable, own, fun other holds => ?_, fun one _ holds => ?_⟩
  · cases (none other).symm.trans holds
  · cases (none one).symm.trans holds

theorem Safe.performed (differs : path ≠ destination) (safe : Safe path destination inode world)
    (others : ∀ other ≠ execution, world'.phase other = world.phase other)
    (performed : Performed env path destination world execution world') : Safe path destination inode world' := by
  cases performed with
  | same sameFiles phase => exact safe.same sameFiles others phase
  | linked isFree _ isInode names => exact safe.linked differs others isFree isInode names
  | unlinked held freed names =>
    obtain ⟨_, isLinked⟩ := safe.held execution held
    refine safe.released others held freed (.inr ?_) fun other isOther => ?_
    · rw [names, if_neg differs.symm, isLinked]
    · rw [names, if_pos rfl] at isOther
      cases isOther
  | undone held freed names =>
    obtain ⟨isPath, _⟩ := safe.held execution held
    have stays : world'.files.inode? path = some inode := by rw [names, if_neg differs, isPath]
    exact safe.released others held freed (.inl stays) fun other isOther => Option.some.inj (isOther.symm.trans stays)

theorem Safe.finalized (differs : path ≠ destination) (safe : Safe path destination inode world) {files : MediaFiles}
    (renamed : world.files.rename path destination = some files) :
    Safe path destination inode { world with files } := by
  obtain ⟨moved, isMoved, isLinked, rfl | ⟨notSame, names⟩⟩ := Directory.inode?_rename renamed
  · exact safe
  · obtain rfl : moved = inode := safe.own moved isMoved
    have none (other : Nat) : (world.phase other).holds = false := by
      by_contra holds
      rw [Bool.not_eq_false] at holds
      exact notSame (safe.held other holds).2
    refine ⟨.inr isLinked, fun other isOther => ?_, fun other holds => ?_, fun one _ holds => ?_⟩
    · dsimp only at isOther
      rw [names path differs, if_pos rfl] at isOther
      cases isOther
    · cases (none other).symm.trans holds
    · cases (none one).symm.trans holds

theorem Safe.step {action : PartialAction} (differs : path ≠ destination) (safe : Safe path destination inode world)
    (step : PartialStep env uuid4 path destination world action world') : Safe path destination inode world' := by
  cases step with
  | perform done =>
    exact safe.performed differs (fun other isOther => perform_others isOther done) (perform_cases done)
  | finalize notTaken renamed => exact safe.finalized differs renamed
  | elsewhere real samePath sameDestination =>
    refine ⟨?_, ?_, ?_, safe.unique⟩
    · dsimp only
      rw [samePath, sameDestination]
      exact safe.reachable
    · dsimp only
      rw [samePath]
      exact safe.own
    · dsimp only
      rw [samePath, sameDestination]
      exact safe.held

/-- No step but ZLM's rename touches another file that has the canonical name. -/
theorem Safe.other_stays {action : PartialAction} (differs : path ≠ destination) (safe : Safe path destination inode world)
    (step : PartialStep env uuid4 path destination world action world') (notFinalize : action ≠ .finalize) {other : Nat}
    (isOther : other ≠ inode) (taken : world.files.inode? destination = some other) :
    world'.files.inode? destination = some other := by
  cases step with
  | perform done =>
    cases perform_cases done with
    | same sameFiles phase => rw [sameFiles, taken]
    | linked isFree _ _ _ => cases isFree.symm.trans taken
    | unlinked held freed names => rw [names, if_neg differs.symm, taken]
    | undone held freed names =>
      obtain ⟨_, isOwn⟩ := safe.held _ held
      exact absurd (Option.some.inj (taken.symm.trans isOwn)) isOther
  | finalize notTaken renamed => exact absurd rfl notFinalize
  | elsewhere real samePath sameDestination =>
    dsimp only
    rw [sameDestination, taken]

end Steps

/-- The names stay real paths. -/
theorem PartialStep.real {world world' : PartialWorld} {action : PartialAction} (laws : PathLaws env)
    (isDestination : destination = unhidden path) (realPath : env.resolve path = path) (real : RealFiles env world.files)
    (step : PartialStep env uuid4 path destination world action world') : RealFiles env world'.files := by
  have realDestination (notTaken : env.taken destination = false) : env.resolve destination = destination := by
    rw [isDestination] at notTaken ⊢
    exact laws.sibling path realPath notTaken
  cases step with
  | perform done =>
    intro name isFile
    cases perform_cases done with
    | same sameFiles phase =>
      rw [sameFiles] at isFile
      exact real name isFile
    | linked isFree notTaken isInode names =>
      by_cases same : name = destination
      · rw [same]
        exact realDestination notTaken
      · rw [names, if_neg same] at isFile
        exact real name isFile
    | unlinked held freed names =>
      rw [names] at isFile
      split at isFile
      · cases isFile
      · exact real name isFile
    | undone held freed names =>
      rw [names] at isFile
      split at isFile
      · cases isFile
      · exact real name isFile
  | finalize notTaken renamed =>
    obtain ⟨moved, isMoved, isLinked, rfl | ⟨notSame, names⟩⟩ := Directory.inode?_rename renamed
    · exact real
    · intro name isFile
      by_cases same : name = destination
      · rw [same]
        exact realDestination notTaken
      · dsimp only at isFile
        rw [names name same] at isFile
        split at isFile
        · cases isFile
        · exact real name isFile
  | elsewhere realFiles _ _ => exact realFiles

/-! ## The recovery as a run of its steps -/

/-- The first reconciler gets to the outcome by steps of its own. -/
def Reaches (env : DiskEnv) (uuid4 : Supply Uuid) (path destination : String) (world : PartialWorld) (db : Database)
    (files : MediaFiles) (outcome : ScanOutcome) : Prop :=
  ∃ actions last, Run (PartialStep env uuid4 path destination) world actions last ∧
    last.db = db ∧ last.files = files ∧ last.phase 0 = .ended (some outcome)

theorem Reaches.ended (world : PartialWorld) (outcome : ScanOutcome) :
    Reaches env uuid4 path destination (world.entering 0 (.ended (some outcome))) world.db world.files outcome :=
  ⟨[], _, .done _, rfl, rfl, PartialWorld.phase_entering world 0 _⟩

theorem Reaches.next {world world' : PartialWorld} {db : Database} {files : MediaFiles} {outcome : ScanOutcome}
    {phase : PartialPhase} (operation : PartialOperation) (isPhase : world.phase 0 = phase)
    (done : perform env uuid4 path destination world 0 operation phase = some world')
    (reaches : Reaches env uuid4 path destination world' db files outcome) :
    Reaches env uuid4 path destination world db files outcome := by
  obtain ⟨actions, last, run, isLast⟩ := reaches
  exact ⟨_, last, .next (.perform (by rw [isPhase, done])) run, isLast⟩

theorem Reaches.catalogued {world : PartialWorld} {db : Database} {targetId : Uuid} {objectPath : String} {now : Int}
    {recovery : RecoveryOutcome} (isPhase : world.phase 0 = .moved)
    (done : recoverFile (env.at world.files) uuid4 world.db targetId root destination objectPath now
      "RECOVERY_INTERRUPTED" = .ok (db, recovery)) :
    Reaches env uuid4 path destination world db world.files recovery.scannedPartial := by
  refine .next (.catalog targetId root objectPath now) isPhase ?_ (.ended { world with db } _)
  rw [perform, done]

/-- Undisturbed, a recovery that returns takes the steps of one reconciler. -/
theorem recoverPartialFile_reaches {db db' : Database} {files files' : MediaFiles} {targetId : Uuid} {now : Int}
    {outcome : ScanOutcome} (isDestination : partialDestination env root path = some destination)
    (done : recoverPartialFile env uuid4 db files targetId root path now = .ok (db', files', outcome)) :
    Reaches env uuid4 path destination { db, files, phase := fun _ => .idle } db' files' outcome := by
  unfold recoverPartialFile at done
  rw [isDestination] at done
  dsimp only at done
  refine .next .look rfl rfl ?_
  split at done
  next exists_ =>
    cases done
    rw [if_pos exists_]
    exact .ended _ _
  next isFree =>
  rw [if_neg isFree]
  refine .next .read (PartialWorld.phase_entering _ _ _) rfl ?_
  rw [PartialWorld.files_entering]
  split at done
  next unread =>
    cases done
    rw [if_neg unread]
    exact .ended _ _
  next isRead =>
  rw [if_pos (not_not.mp isRead)]
  refine .next .link (PartialWorld.phase_entering _ _ _) rfl ?_
  rw [tryLink, PartialWorld.files_entering, PartialWorld.files_entering]
  split at done
  next notLinked =>
    cases done
    rw [notLinked]
    exact .ended (PartialWorld.entering _ 0 .readable) _
  next notLinked =>
    cases done
    rw [notLinked]
    exact .ended (PartialWorld.entering _ 0 .readable) _
  next linked isLinked =>
  rw [isLinked]
  refine .next .unlinkHidden (PartialWorld.phase_entering _ _ _) rfl ?_
  rw [tryUnlink, PartialWorld.files_entering]
  dsimp only
  split at done
  next isGone =>
    cases done
    rw [isGone]
    refine .next .unlinkDestination (PartialWorld.phase_entering _ _ _) rfl ?_
    exact .ended _ _
  next moved isUnlinked =>
  rw [isUnlinked]
  split at done
  next => cases done
  next objectPath isPath =>
  rw [bind_eq_ok] at done
  obtain ⟨⟨stored, recovery⟩, isRecovered, same⟩ := done
  cases same
  exact .catalogued (PartialWorld.phase_entering _ _ _) isRecovered

/-! ## A full run afterwards -/

/-- The run has met an error. -/
def MetError (reports : List ScanReport) : Prop :=
  ∃ report ∈ reports, report.outcome = .error ∨ report.outcome = .outside

/-- The inode has a visible name that the catalog has a location for. -/
def Catalogued (env : DiskEnv) (roots : List (Uuid × String)) (db : Database) (files : MediaFiles) (inode : Nat) : Prop :=
  ∃ target ∈ roots, ∃ path objectPath, files.inode? path = some inode ∧ isHidden path = false ∧
    env.catalog.paths.relativeTo target.2 path = some objectPath ∧ (db.locationAt target.1 objectPath).isSome

/-- The inode was reported as ambiguous, or as one not settled yet. -/
def Reported (reports : List ScanReport) (inode : Nat) : Prop :=
  ∃ report ∈ reports, report.inode = some inode ∧ (report.outcome = .ambiguous ∨ report.outcome = .unsettled)

/-- What is to be said of the inode has been said. -/
def Accounted (env : DiskEnv) (roots : List (Uuid × String)) (inode : Nat) (state : ScanState) : Prop :=
  MetError state.reports ∨ Catalogued env roots state.db state.files inode ∨ Reported state.reports inode

section FullRun

variable {roots : List (Uuid × String)} {target : Uuid × String} {name : String} {now : Int} {state state' : ScanState}

theorem Catalogued.moved {db db' : Database} {files files' : MediaFiles} {destination objectPath : String}
    {moved : Nat} {recovery : RecoveryOutcome} (catalogued : Catalogued env roots db files inode)
    (move : Moved env db files target.1 target.2 path destination moved objectPath recovery db' files') :
    Catalogued env roots db' files' inode := by
  obtain ⟨other, isRoot, visible, objectPath', isInode, isVisible, isPath, isKnown⟩ := catalogued
  have notPath : visible ≠ path := by
    rintro rfl
    exact Bool.false_ne_true (isVisible.symm.trans move.hidden)
  have notDestination : visible ≠ destination := by
    rintro rfl
    cases isInode.symm.trans move.free
  refine ⟨other, isRoot, visible, objectPath', by rw [move.inode_other notPath notDestination, isInode], isVisible, isPath, ?_⟩
  rcases move.recovered.recovers.locationAt other.1 objectPath' with same | ⟨row, found, _⟩
  · rw [same]
    exact isKnown
  · rw [found]
    rfl

theorem Catalogued.recovers {db db' : Database} {files : MediaFiles} {targetId : Uuid} {objectPath : String}
    (catalogued : Catalogued env roots db files inode) (recovers : Recovers db targetId objectPath db') :
    Catalogued env roots db' files inode := by
  obtain ⟨other, isRoot, visible, objectPath', isInode, isVisible, isPath, isKnown⟩ := catalogued
  refine ⟨other, isRoot, visible, objectPath', isInode, isVisible, isPath, ?_⟩
  rcases recovers.locationAt other.1 objectPath' with same | ⟨row, found, _⟩
  · rw [same]
    exact isKnown
  · rw [found]
    rfl

/-- A file that a recovery was done for is accounted for, whatever came of it. -/
theorem accounted_of_recovered {db db' : Database} {files : MediaFiles} {visible objectPath : String}
    {recovery : RecoveryOutcome} {reports : List ScanReport} {report : ScanReport} (isRoot : target ∈ roots)
    (recovered : Recovered (env.at files) db target.1 target.2 visible objectPath recovery db')
    (isInode : files.inode? visible = some inode) (isVisible : isHidden visible = false)
    (isPath : env.catalog.paths.relativeTo target.2 visible = some objectPath) (member : report ∈ reports)
    (ofInode : report.inode = some inode)
    (isOutcome : report.outcome = recovery.scanned ∨ report.outcome = recovery.scannedPartial) :
    Accounted env roots inode { db := db', files, reports } := by
  have catalogued (isKnown : recovery ∉ [RecoveryOutcome.ambiguous, .error]) :
      Accounted env roots inode { db := db', files, reports } := by
    obtain ⟨row, found⟩ := recovered.catalogued isKnown
    exact .inr (.inl ⟨target, isRoot, visible, objectPath, isInode, isVisible, isPath, by rw [found]; rfl⟩)
  cases recovery with
  | known | relinked | recovered => exact catalogued (by decide)
  | ambiguous => exact .inr (.inr ⟨report, member, ofInode, .inl (isOutcome.elim id id)⟩)
  | error => exact .inl ⟨report, member, .inl (isOutcome.elim id id)⟩

theorem Accounted.mono {db : Database} {files : MediaFiles} {reports reports' : List ScanReport}
    (accounted : Accounted env roots inode { db, files, reports }) (grows : ∀ report ∈ reports, report ∈ reports')
    {db' : Database} {files' : MediaFiles}
    (catalogued : Catalogued env roots db files inode → Catalogued env roots db' files' inode) :
    Accounted env roots inode { db := db', files := files', reports := reports' } := by
  rcases accounted with ⟨report, member, isError⟩ | isCatalogued | ⟨report, member, isReported⟩
  · exact .inl ⟨report, grows report member, isError⟩
  · exact .inr (.inl (catalogued isCatalogued))
  · exact .inr (.inr ⟨report, grows report member, isReported⟩)

/-- One name of the walk: the file it leads to is accounted for, and what was accounted for stays so;
    a file is only taken from its path together with that. -/
theorem scanStep_accounts (laws : PathLaws env) (isRoot : target ∈ roots) (real : RealFiles env state.files)
    (stepped : scanStep env uuid4 none now target state name = .ok state') :
    RealFiles env state'.files ∧ (Accounted env roots inode state → Accounted env roots inode state') ∧
      (state.files.inode? path = some inode →
        Accounted env roots inode state' ∨ env.resolve name ≠ path ∧ state'.files.inode? path = some inode) := by
  unfold scanStep at stepped
  rw [bind_eq_ok] at stepped
  obtain ⟨⟨db', files', outcome⟩, done, same⟩ := stepped
  cases same
  let report : ScanReport :=
    { targetId := target.1, path := name, inode := state.files.inode? (env.resolve name), outcome }
  have isReport : report ∈ state.reports ++ [report] := List.mem_append_right _ List.mem_cons_self
  have grows (other : ScanReport) (member : other ∈ state.reports) : other ∈ state.reports ++ [report] :=
    List.mem_append_left _ member
  cases scanName_cases laws real done with
  | skipped skipped =>
    refine ⟨real, fun accounted => accounted.mono grows id, fun isInode => ?_⟩
    by_cases isName : env.resolve name = path
    · rw [isName] at skipped
      rcases skipped with ⟨_, gone⟩ | ⟨isOutside, _⟩ | ⟨_, since⟩ | ⟨isUnsettled, _⟩
      · cases gone.symm.trans isInode
      · exact .inl (.inl ⟨report, isReport, .inr isOutside⟩)
      · cases since
      · exact .inl (.inr (.inr ⟨report, isReport, by rw [← isInode, ← isName], .inr isUnsettled⟩))
    · exact .inr ⟨isName, isInode⟩
  | stuck hidden stuck isOutcome =>
    refine ⟨real, fun accounted => accounted.mono grows id, fun isInode => ?_⟩
    by_cases isName : env.resolve name = path
    · simp only [List.mem_cons, List.not_mem_nil, or_false] at isOutcome
      rcases isOutcome with isAmbiguous | isError
      · exact .inl (.inr (.inr ⟨report, isReport, by rw [← isInode, ← isName], .inl isAmbiguous⟩))
      · exact .inl (.inl ⟨report, isReport, .inl isError⟩)
    · exact .inr ⟨isName, isInode⟩
  | moved hidden inside moved =>
    refine ⟨fun other isFile => ?_, fun accounted => accounted.mono grows fun catalogued => catalogued.moved moved,
      fun isInode => ?_⟩
    · rcases moved.isSome_cases isFile with rfl | ⟨_, _, wasFile⟩
      · exact moved.real
      · exact real other wasFile
    · by_cases isName : env.resolve name = path
      · left
        have sameInode := moved.isInode
        rw [isName, isInode] at sameInode
        cases sameInode
        refine accounted_of_recovered isRoot moved.recovered (moved.inode_destination laws) (moved.visible laws) moved.isPath
          isReport ?_ (.inr rfl)
        change state.files.inode? (env.resolve name) = some inode
        rw [isName, isInode]
      · refine .inr ⟨isName, ?_⟩
        rw [moved.inode_other (Ne.symm isName), isInode]
        rintro rfl
        cases isInode.symm.trans moved.free
  | visible visible isFile isPath recovered =>
    refine ⟨real, fun accounted => accounted.mono grows fun catalogued => catalogued.recovers recovered.recovers,
      fun isInode => ?_⟩
    by_cases isName : env.resolve name = path
    · left
      rw [isName] at visible isPath recovered
      exact accounted_of_recovered isRoot recovered isInode visible isPath isReport
        (by rw [← isInode, ← isName]) (.inl rfl)
    · exact .inr ⟨isName, isInode⟩

/-- Walking a target that comes to the file accounts for it. -/
theorem scanTarget_accounts {listed : String → String → Bool} (laws : PathLaws env) (walks : Walks env listed)
    (isRoot : target ∈ roots) (real : RealFiles env state.files)
    (scanned : scanTarget env uuid4 none now state target = .ok state') :
    RealFiles env state'.files ∧ (Accounted env roots inode state → Accounted env roots inode state') ∧
      (state.files.inode? path = some inode → Accounted env roots inode state' ∨
        state'.files.inode? path = some inode ∧ (env.isDir target.2 = true → ¬ Seen env listed target path)) := by
  unfold scanTarget at scanned
  split at scanned
  next isDir =>
    have last := @foldlM_invariant_rest _ _ _ _ (fun rest current => RealFiles env current.files ∧
        (Accounted env roots inode state → Accounted env roots inode current) ∧
        (state.files.inode? path = some inode → Accounted env roots inode current ∨
          current.files.inode? path = some inode ∧ (Seen env listed target path → ∃ name ∈ rest, env.resolve name = path))) _
      (fun name rest current next kept stepped => by
        obtain ⟨real, stays, tracked⟩ := kept
        obtain ⟨realNext, staysNext, trackedNext⟩ := @scanStep_accounts env uuid4 path inode roots target name now current
          next laws isRoot real stepped
        refine ⟨realNext, fun accounted => staysNext (stays accounted), fun isInode => ?_⟩
        rcases tracked isInode with accounted | ⟨isThere, comes⟩
        · exact .inl (staysNext accounted)
        · rcases trackedNext isThere with accounted | ⟨notName, stillThere⟩
          · exact .inl accounted
          · refine .inr ⟨stillThere, fun seen => ?_⟩
            obtain ⟨other, inRest, isName⟩ := comes seen
            rcases List.mem_cons.mp inRest with rfl | inRest
            · exact absurd isName notName
            · exact ⟨other, inRest, isName⟩)
      _ _ ⟨real, id, fun isInode => .inr ⟨isInode, fun seen => by
        obtain ⟨name, isListed, isName, isPath⟩ := seen
        refine ⟨name, (walks.yields target.2 state.files name).mpr ⟨isListed, ?_⟩, isPath⟩
        refine isName.imp (fun same => ?_) id
        rw [same, isInode]
        rfl⟩⟩ scanned
    obtain ⟨realLast, stays, tracked⟩ := last
    refine ⟨realLast, stays, fun isInode => (tracked isInode).imp id fun ⟨isThere, comes⟩ => ⟨isThere, fun _ seen => ?_⟩⟩
    obtain ⟨_, inNil, _⟩ := comes seen
    cases inNil
  next notDir =>
    cases scanned
    exact ⟨real, id, fun isInode => .inr ⟨isInode, fun isDir => absurd isDir notDir⟩⟩

/-- A full run without errors accounts for every file it comes to. -/
theorem reconcile_accounts {listed : String → String → Bool} {db db' : Database} {files files' : MediaFiles}
    {recentSince : Int} {result : RecordingReconciliationResult} (laws : PathLaws env) (walks : Walks env listed)
    (real : RealFiles env files)
    (done : reconcile env uuid4 true recentSince now db files = .ok (db', files', result)) (noErrors : result.errors = 0)
    (isRoot : target ∈ targets env db) (isDir : env.isDir target.2 = true) (seen : Seen env listed target path)
    (isInode : files.inode? path = some inode) :
    Catalogued env (targets env db) db' files' inode ∨ Reported result.reports inode := by
  unfold reconcile at done
  dsimp only at done
  rw [bind_eq_ok] at done
  obtain ⟨last, scanned, same⟩ := done
  cases same
  have accounted := @foldlM_invariant_rest _ _ _ _ (fun rest state => (∀ other ∈ rest, other ∈ targets env db) ∧
      RealFiles env state.files ∧ (Accounted env (targets env db) inode state ∨
        state.files.inode? path = some inode ∧ target ∈ rest)) _
    (fun other rest state next kept scannedOther => by
      obtain ⟨areRoots, real, tracked⟩ := kept
      obtain ⟨realNext, stays, trackedNext⟩ := @scanTarget_accounts env uuid4 path inode (targets env db) other now state next
        listed laws walks (areRoots other List.mem_cons_self) real scannedOther
      refine ⟨fun other member => areRoots other (List.mem_cons_of_mem _ member), realNext, ?_⟩
      rcases tracked with accounted | ⟨isThere, isAhead⟩
      · exact .inl (stays accounted)
      · rcases trackedNext isThere with accounted | ⟨stillThere, unseen⟩
        · exact .inl accounted
        · rcases List.mem_cons.mp isAhead with rfl | isAhead
          · exact absurd seen (unseen isDir)
          · exact .inr ⟨stillThere, isAhead⟩)
    _ _ ⟨fun _ member => member, real, .inr ⟨isInode, isRoot⟩⟩ scanned
  obtain ⟨_, _, (⟨report, member, isError⟩ | accounted) | ⟨_, inNil⟩⟩ := accounted
  · have counted (outcome : ScanOutcome) (isOutcome : report.outcome = outcome) :
        0 < last.reports.countP fun report => report.outcome = outcome :=
      List.countP_pos_iff.mpr ⟨report, member, decide_eq_true isOutcome⟩
    unfold RecordingReconciliationResult.errors RecordingReconciliationResult.count at noErrors
    dsimp only at noErrors
    rcases isError with isError | isOutside
    · have := counted .error isError
      omega
    · have := counted .outside isOutside
      omega
  · exact accounted
  · cases inNil

end FullRun

theorem Safe.start {world : PartialWorld} (idle : ∀ execution, world.phase execution = .idle)
    (isInode : world.files.inode? path = some inode) : Safe path destination inode world := by
  have free (execution : Nat) : (world.phase execution).holds = false := by
    rw [idle]
    rfl
  refine ⟨.inl isInode, fun other isOther => Option.some.inj (isOther.symm.trans isInode), fun other holds => ?_,
    fun one _ holds => ?_⟩
  · cases (free other).symm.trans holds
  · cases (free one).symm.trans holds

/-- The hidden file keeps one of its names, no reconciler touches another file that has the canonical one, and
    a full run without errors leaves every file it comes to catalogued, ambiguous or not settled yet. -/
theorem partial_recovery_safe {listed : String → String → Bool} {world world' : PartialWorld}
    {actions : List PartialAction} (laws : PathLaws env) (walks : Walks env listed)
    (isDestination : partialDestination env root path = some destination) (real : RealFiles env world.files)
    (idle : ∀ execution, world.phase execution = .idle) (isInode : world.files.inode? path = some inode)
    (run : Run (PartialStep env uuid4 path destination) world actions world') :
    (world'.files.inode? path = some inode ∨ world'.files.inode? destination = some inode) ∧
      (∀ action next, PartialStep env uuid4 path destination world' action next → action ≠ .finalize →
        ∀ other ≠ inode, world'.files.inode? destination = some other → next.files.inode? destination = some other) ∧
      ∀ recentSince now db files result,
        reconcile env uuid4 true recentSince now world'.db world'.files = .ok (db, files, result) → result.errors = 0 →
        ∀ target ∈ targets env world'.db, env.isDir target.2 = true →
        ∀ found, Seen env listed target found → ∀ inode, world'.files.inode? found = some inode →
          Catalogued env (targets env world'.db) db files inode ∨ Reported result.reports inode := by
  obtain ⟨hidden, isUnhidden, _⟩ := partialDestination_spec isDestination
  have differs : path ≠ destination := by
    rw [isUnhidden]
    exact (unhidden_ne hidden).symm
  have realPath : env.resolve path = path := real path (by rw [isInode]; rfl)
  obtain ⟨safe, realLast⟩ := @Run.invariant _ _ _
    (fun current => Safe path destination inode current ∧ RealFiles env current.files)
    (fun _ _ _ kept step => ⟨Safe.step differs kept.1 step, PartialStep.real laws isUnhidden realPath kept.2 step⟩)
    _ _ _ run ⟨Safe.start idle isInode, real⟩
  refine ⟨safe.reachable, fun action next step notFinalize other isOther taken => ?_, ?_⟩
  · exact safe.other_stays differs step notFinalize isOther taken
  · intro recentSince now db files result done noErrors target isRoot isDir found seen inode isFound
    exact reconcile_accounts laws walks realLast done noErrors isRoot isDir seen isFound

/-! ## Where the words go too far -/

def hiddenPath : String := "/r/" ++ recordingName ".2024-01-02-03-04-05.mp4"

def canonicalPath : String := "/r/" ++ recordingName "2024-01-02-03-04-05.mp4"

/-- A hidden file and another file under the name it would get. -/
def bothNames : MediaFiles := ⟨[⟨hiddenPath, 7⟩, ⟨canonicalPath, 9⟩], by decide +kernel⟩

/-- A target with an empty catalog. -/
def emptyCatalog : Database := { storageTargets := .single (localTarget 1 "a" "/r") }

/-- ZLM's rename replaces the other file, and a full run passes over a file that is not settled yet. -/
theorem rename_replaces_and_unsettled_passed :
    partialDestination (plainDisk ["/r"] 0) "/r" hiddenPath = some canonicalPath ∧
      (∃ world', PartialStep (plainDisk ["/r"] 0) Supply.counting hiddenPath canonicalPath
          { db := {}, files := bothNames, phase := fun _ => .idle } .finalize world' ∧
        bothNames.inode? canonicalPath = some 9 ∧ world'.files.inode? canonicalPath = some 7) ∧
      ∃ db files result, reconcile (plainDisk ["/r"] (seconds 1000)) Supply.counting true 0 (seconds 1000) emptyCatalog
          (hiddenFile "/r") = .ok (db, files, result) ∧ result.errors = 0 ∧ result.ambiguous = 0 ∧
        files.inode? hiddenPath = some 7 ∧
        ¬ Catalogued (plainDisk ["/r"] (seconds 1000)) (targets (plainDisk ["/r"] (seconds 1000)) emptyCatalog) db files 7 := by
  refine ⟨by decide +kernel, ?_, ?_⟩
  · have renamed : (bothNames.rename hiddenPath canonicalPath).map (·.inode? canonicalPath) = some (some 7) := by
      decide +kernel
    obtain ⟨files, isRenamed, isSeven⟩ := Option.map_eq_some_iff.mp renamed
    exact ⟨_, .finalize (by decide +kernel) isRenamed, by decide +kernel, isSeven⟩
  · have counts : ((fun last => (last.2.2.errors, last.2.2.ambiguous, last.2.1.inode? hiddenPath, last.1.locations.rows.length)) <$>
        reconcile (plainDisk ["/r"] (seconds 1000)) Supply.counting true 0 (seconds 1000) emptyCatalog (hiddenFile "/r")) =
          .ok (0, 0, some 7, 0) := by decide +kernel
    obtain ⟨⟨db, files, result⟩, done, same⟩ := map_eq_ok.mp counts
    simp only [Prod.mk.injEq] at same
    obtain ⟨noErrors, noAmbiguous, isHidden, isEmpty⟩ := same
    refine ⟨db, files, result, done, noErrors, noAmbiguous, isHidden, ?_⟩
    rintro ⟨target, _, found, objectPath, _, _, _, isKnown⟩
    obtain ⟨row, isRow⟩ := Option.isSome_iff_exists.mp isKnown
    obtain ⟨member, _⟩ := Table.mem_of_first? isRow
    have rows : db.locations.rows = [] := List.eq_nil_of_length_eq_zero isEmpty
    change row ∈ db.locations.rows at member
    rw [rows] at member
    cases member

theorem partial_recovery_safe_once : ∃ actions last db files result,
    Run (PartialStep (plainDisk ["/r"] 0) Supply.counting hiddenPath canonicalPath)
      { db := missingCopy, files := hiddenFile "/r", phase := fun _ => .idle } actions last ∧
    last.files.inode? canonicalPath = some 7 ∧
    (last.files.inode? hiddenPath = some 7 ∨ last.files.inode? canonicalPath = some 7) ∧
    reconcile (plainDisk ["/r"] 0) Supply.counting true 0 (seconds 1000) last.db last.files = .ok (db, files, result) ∧
    (Catalogued (plainDisk ["/r"] 0) (targets (plainDisk ["/r"] 0) last.db) db files 7 ∨ Reported result.reports 7) := by
  have results : (do
      let recovered ← recoverPartialFile (plainDisk ["/r"] 0) Supply.counting missingCopy (hiddenFile "/r") 1 "/r"
        hiddenPath (seconds 1000)
      let full ← reconcile (plainDisk ["/r"] 0) Supply.counting true 0 (seconds 1000) recovered.1 recovered.2.1
      .ok (recovered.2.1.inode? canonicalPath, full.2.2.errors, targets (plainDisk ["/r"] 0) recovered.1)) =
        (.ok (some 7, 0, [(1, "/r")]) : Result _) := by decide +kernel
  rw [bind_eq_ok] at results
  obtain ⟨⟨stored, moved, outcome⟩, recovered, results⟩ := results
  dsimp only at results
  rw [bind_eq_ok] at results
  obtain ⟨⟨db, files, result⟩, done, same⟩ := results
  simp only [Except.ok.injEq, Prod.mk.injEq] at same
  obtain ⟨isSeven, noErrors, oneTarget⟩ := same
  have isDestination : partialDestination (plainDisk ["/r"] 0) "/r" hiddenPath = some canonicalPath := by decide +kernel
  obtain ⟨actions, last, run, rfl, rfl, _⟩ := recoverPartialFile_reaches isDestination recovered
  have noMedia : ∀ directory ∈ ["/r"], ".mp4".toList.isSuffixOf directory.toList = false := by decide
  have isHidden : (hiddenFile "/r").inode? hiddenPath = some 7 := by decide +kernel
  obtain ⟨reachable, _, accounted⟩ := partial_recovery_safe (plainDisk_laws ["/r"] 0) (plainDisk_walks 0 noMedia)
    isDestination (fun _ _ => rfl) (fun _ => rfl) isHidden run
  refine ⟨actions, last, db, files, result, run, isSeven, reachable, done, ?_⟩
  refine accounted 0 (seconds 1000) db files result done noErrors (1, "/r") ?_ (by decide) canonicalPath ?_ 7 isSeven
  · rw [oneTarget]
    exact List.mem_cons_self
  · exact ⟨canonicalPath, by decide +kernel, .inl rfl, rfl⟩

end ZeroNvr.RecordingCatalogReconciliationService
