import ZeroNvr.Backups.Execution
import ZeroNvr.Lib.Outcome
import ZeroNvr.Lib.Run

/-! # Snapshots of a backup set

Executions of one set look for a snapshot before they take one, and write the row of
the set whatever it says by then.  Where what an execution has read or made is still
so when it acts on it, one snapshot is taken and a completed set stays completed; and
it is so where executions do not overlap, wherever they fail or stop.
-/

namespace ZeroNvr.BackupSnapshots

open Lib BackupExecutionService

/-! ## Executions -/

/-- What an execution wrote stands for it. -/
structure StagedFiles where
  database : Option Nat := none
  manifest : Option Nat := none
deriving DecidableEq

/-- A snapshot in the repository with the tag of the set, and whose files it holds. -/
structure TakenSnapshot where
  snapshotId : String
  database : Option Nat
  manifest : Option Nat
deriving DecidableEq

inductive BackupPhase where
  | idle
  /-- `prepare` has read the row. -/
  | preparing (row : BackupSet)
  | planned (plan : BackupExecutionPlan)
  | cleared (plan : BackupExecutionPlan)
  | made (plan : BackupExecutionPlan)
  | dumped (plan : BackupExecutionPlan)
  | staged (plan : BackupExecutionPlan)
  /-- The repository had no snapshot when so many had been taken. -/
  | absent (plan : BackupExecutionPlan) (taken : Nat)
  | copying (plan : BackupExecutionPlan) (taken : Nat) (database : Option Nat)
  | known (plan : BackupExecutionPlan) (result : ResticBackupResult)
  | checked (plan : BackupExecutionPlan) (outcome : BackupOutcome)
  | kept (outcome : BackupOutcome)
  | completing (outcome : BackupOutcome) (row : BackupSet)
  | failing (error : BackupError)
  | marking (error : BackupError) (row : BackupSet)
  | cleaning
  | finished

/-- The execution is inside of its `try`. -/
def BackupPhase.guarded : BackupPhase → Bool
  | idle | preparing _ | planned _ | cleared _ | cleaning | finished => false
  | _ => true

/-- The execution has neither begun nor is it under way. -/
def BackupPhase.atRest : BackupPhase → Bool
  | idle | finished => true
  | _ => false

def reportedPhase (plan : BackupExecutionPlan) : Except BackupError ResticBackupResult → BackupPhase
  | .ok result => .known plan result
  | .error error => .failing error

/-- The rows, the snapshots of the set in the repository, all that were ever taken, and the directory the
    executions share. -/
structure BackupWorld where
  sets : Table BackupSet
  snapshots : List TakenSnapshot := []
  taken : List TakenSnapshot := []
  workDir : Option StagedFiles := none
  phase : Nat → BackupPhase := fun _ => .idle

namespace BackupWorld

def row (setId : Uuid) (world : BackupWorld) : Option BackupSet := world.sets.get? setId

def entering (world : BackupWorld) (execution : Nat) (phase : BackupPhase) : BackupWorld :=
  { world with phase := Function.update world.phase execution phase }

/-- A session commits what it made of a row. -/
def flush (world : BackupWorld) (read new : BackupSet) : BackupWorld :=
  { world with sets := world.sets.modify read.id (read.flush new) }

def files (world : BackupWorld) : StagedFiles := world.workDir.getD {}

end BackupWorld

open BackupWorld

/-- `restic forget` keeps the newest snapshot of each group. -/
def Forgets (before after : List TakenSnapshot) : Prop :=
  after.Sublist before ∧ after.getLast? = before.getLast?

inductive BackupAction where
  | reserve
  | begin (execution : Nat)
  | commit (execution : Nat)
  | copyDatabase (execution : Nat)
  | takeSnapshot (execution : Nat)
  | goOn (execution : Nat)
  | elsewhere

/-- Executions of a set go on one call at a time, each of which may fail; a process may stop anywhere. -/
inductive BackupStep (env : BackupEnv) (uuid4 : Supply Uuid) (setId : Uuid) :
    BackupWorld → BackupAction → BackupWorld → Prop
  | reserve {world : BackupWorld} {seen sets : Table BackupSet} {policy : BackupPolicy} {reason : String}
      {scheduleSlot : Option String} {now : Int} {backupSet : BackupSet} {created : Bool}
      (done : BackupRunService.reserve env uuid4 seen world.sets policy reason scheduleSlot now =
        .ok (sets, backupSet, created)) :
      BackupStep env uuid4 setId world .reserve { world with sets }
  | begin {world : BackupWorld} {execution : Nat} {row : BackupSet} (idle : world.phase execution = .idle)
      (found : world.row setId = some row) :
      BackupStep env uuid4 setId world (.begin execution) (world.entering execution (.preparing row))
  | prepare {world : BackupWorld} {execution : Nat} {policies : Table BackupPolicy}
      {resolve : BackupPolicy → Result ResolvedBackupPolicy} {row new : BackupSet} {now : Int}
      {plan : Option BackupExecutionPlan} (at_ : world.phase execution = .preparing row)
      (done : prepare env policies resolve row now = .ok (new, plan)) :
      BackupStep env uuid4 setId world (.commit execution)
        ((world.flush row new).entering execution ((plan.map BackupPhase.planned).getD .finished))
  | clear {world : BackupWorld} {execution : Nat} {plan : BackupExecutionPlan}
      (at_ : world.phase execution = .planned plan) :
      BackupStep env uuid4 setId world (.goOn execution)
        { world.entering execution (.cleared plan) with workDir := none }
  | makeDir {world : BackupWorld} {execution : Nat} {plan : BackupExecutionPlan}
      (at_ : world.phase execution = .cleared plan) :
      BackupStep env uuid4 setId world (.goOn execution)
        { world.entering execution (.made plan) with workDir := some world.files }
  | dump {world : BackupWorld} {execution : Nat} {plan : BackupExecutionPlan} (at_ : world.phase execution = .made plan) :
      BackupStep env uuid4 setId world (.goOn execution)
        { world.entering execution (.dumped plan) with
          workDir := some { world.files with database := some execution } }
  /-- A dump that fails has taken its file away. -/
  | dumpFails {world : BackupWorld} {execution : Nat} {plan : BackupExecutionPlan} (error : BackupError)
      (at_ : world.phase execution = .made plan) :
      BackupStep env uuid4 setId world (.goOn execution)
        { world.entering execution (.failing error) with
          workDir := world.workDir.map fun files => { files with database := none } }
  | manifest {world : BackupWorld} {execution : Nat} {plan : BackupExecutionPlan} {files : StagedFiles}
      (at_ : world.phase execution = .dumped plan) (there : world.workDir = some files) :
      BackupStep env uuid4 setId world (.goOn execution)
        { world.entering execution (.staged plan) with workDir := some { files with manifest := some execution } }
  /-- The deployment configuration or the repository is not there. -/
  | unready {world : BackupWorld} {execution : Nat} {plan : BackupExecutionPlan} (error : BackupError)
      (at_ : world.phase execution = .staged plan) :
      BackupStep env uuid4 setId world (.goOn execution) (world.entering execution (.failing error))
  | found {world : BackupWorld} {execution : Nat} {plan : BackupExecutionPlan} {newest : TakenSnapshot}
      (at_ : world.phase execution = .staged plan) (there : world.snapshots.getLast? = some newest) :
      BackupStep env uuid4 setId world (.goOn execution)
        (world.entering execution (.known plan ⟨newest.snapshotId, none⟩))
  | absent {world : BackupWorld} {execution : Nat} {plan : BackupExecutionPlan}
      (at_ : world.phase execution = .staged plan) (none_ : world.snapshots = []) :
      BackupStep env uuid4 setId world (.goOn execution)
        (world.entering execution (.absent plan world.taken.length))
  /-- The backup reads one file after the other. -/
  | copyDatabase {world : BackupWorld} {execution taken : Nat} {plan : BackupExecutionPlan}
      (at_ : world.phase execution = .absent plan taken) :
      BackupStep env uuid4 setId world (.copyDatabase execution)
        (world.entering execution (.copying plan taken world.files.database))
  /-- The snapshot is there, and restic reports it, or it fails or takes too long.  Without a report of its
      own the newest snapshot of the repository stands for it. -/
  | takeSnapshot {world : BackupWorld} {execution taken : Nat} {plan : BackupExecutionPlan} {database : Option Nat}
      (snapshotId : String) (reported : Except BackupError ResticBackupResult)
      (at_ : world.phase execution = .copying plan taken database) :
      BackupStep env uuid4 setId world (.takeSnapshot execution)
        { world.entering execution (reportedPhase plan reported) with
          snapshots := world.snapshots ++ [⟨snapshotId, database, world.files.manifest⟩]
          taken := world.taken ++ [⟨snapshotId, database, world.files.manifest⟩] }
  | backupFails {world : BackupWorld} {execution taken : Nat} {plan : BackupExecutionPlan} {database : Option Nat}
      (error : BackupError) (at_ : world.phase execution = .copying plan taken database) :
      BackupStep env uuid4 setId world (.goOn execution) (world.entering execution (.failing error))
  | verify {world : BackupWorld} {execution : Nat} {plan : BackupExecutionPlan} {result : ResticBackupResult}
      (check : Except BackupError Unit) (at_ : world.phase execution = .known plan result) :
      BackupStep env uuid4 setId world (.goOn execution)
        (world.entering execution (.checked plan (verified plan result check)))
  | skipRetention {world : BackupWorld} {execution : Nat} {plan : BackupExecutionPlan} {outcome : BackupOutcome}
      (at_ : world.phase execution = .checked plan outcome) (unset : plan.retention = []) :
      BackupStep env uuid4 setId world (.goOn execution) (world.entering execution (.kept outcome))
  | retain {world : BackupWorld} {execution : Nat} {plan : BackupExecutionPlan} {outcome : BackupOutcome}
      {snapshots : List TakenSnapshot} (forget : Except BackupError Unit)
      (at_ : world.phase execution = .checked plan outcome) (forgets : Forgets world.snapshots snapshots) :
      BackupStep env uuid4 setId world (.goOn execution)
        { world.entering execution (.kept (retained outcome forget)) with snapshots }
  | readToComplete {world : BackupWorld} {execution : Nat} {outcome : BackupOutcome} {row : BackupSet}
      (at_ : world.phase execution = .kept outcome) (found : world.row setId = some row) :
      BackupStep env uuid4 setId world (.goOn execution) (world.entering execution (.completing outcome row))
  | complete {world : BackupWorld} {execution : Nat} {outcome : BackupOutcome} {row : BackupSet} (now : Int)
      (at_ : world.phase execution = .completing outcome row) :
      BackupStep env uuid4 setId world (.commit execution)
        ((world.flush row (complete row outcome now)).entering execution .cleaning)
  | readToMark {world : BackupWorld} {execution : Nat} {error : BackupError} {row : BackupSet}
      (at_ : world.phase execution = .failing error) (found : world.row setId = some row) :
      BackupStep env uuid4 setId world (.goOn execution) (world.entering execution (.marking error row))
  | markFailed {world : BackupWorld} {execution : Nat} {error : BackupError} {row : BackupSet} (now : Int)
      (at_ : world.phase execution = .marking error row) :
      BackupStep env uuid4 setId world (.commit execution)
        ((world.flush row (markFailed row error now)).entering execution .cleaning)
  /-- Any other error ends the execution at once. -/
  | raises {world : BackupWorld} {execution : Nat} (guarded : (world.phase execution).guarded = true) :
      BackupStep env uuid4 setId world (.goOn execution) (world.entering execution .cleaning)
  | cleanUp {world : BackupWorld} {execution : Nat} (at_ : world.phase execution = .cleaning) :
      BackupStep env uuid4 setId world (.goOn execution)
        { world.entering execution .finished with workDir := none }
  | stops {world : BackupWorld} {execution : Nat} :
      BackupStep env uuid4 setId world (.goOn execution) (world.entering execution .finished)
  /-- An execution of another set applies its retention to the repository. -/
  | forget {world : BackupWorld} {snapshots : List TakenSnapshot} (forgets : Forgets world.snapshots snapshots) :
      BackupStep env uuid4 setId world .elsewhere { world with snapshots }

/-! ## Undisturbed steps -/

/-- What an execution has read or made is still so: no other one has completed the set before its commit,
    written the files it copies, or taken a snapshot since it looked. -/
def Undisturbed (setId : Uuid) (world : BackupWorld) : BackupAction → Prop
  | .commit execution => ∀ current, world.row setId = some current → current.state = .completed →
    match world.phase execution with
    | .preparing row => row.state = .completed
    | .marking .. => False
    | _ => True
  | .copyDatabase execution => world.files.database = some execution
  | .takeSnapshot execution => world.files.manifest = some execution ∧
    match world.phase execution with
    | .copying _ taken _ => world.taken.length = taken
    | _ => True
  | _ => True

/-- An execution begins when no other one is under way. -/
def Serial (world : BackupWorld) : BackupAction → Prop
  | .begin _ => ∀ other, (world.phase other).atRest = true
  | _ => True

/-! ## The invariant -/

/-- One row for a policy and a slot. -/
def OnePerSlot (sets : Table BackupSet) : Prop :=
  ∀ row ∈ sets, ∀ other ∈ sets, row.backupPolicyId = other.backupPolicyId → row.scheduleSlot = other.scheduleSlot →
    row.scheduleSlot ≠ none → row = other

/-- What holds of an execution where it is. -/
def PhaseSound (setId : Uuid) (taken : List TakenSnapshot) (execution : Nat) : BackupPhase → Prop
  | .preparing row | .marking _ row => row.id = setId
  | .absent _ before => before = 0
  | .copying _ before database => before = 0 ∧ database = some execution
  | .known .. | .checked .. | .kept _ => taken ≠ []
  | .completing _ row => taken ≠ [] ∧ row.id = setId
  | _ => True

structure Sound (setId : Uuid) (world : BackupWorld) : Prop where
  slots : OnePerSlot world.sets
  kept : world.snapshots = world.taken
  once : world.taken.length ≤ 1
  whole : ∀ snapshot ∈ world.taken, ∃ execution, snapshot.database = some execution ∧ snapshot.manifest = some execution
  phases : ∀ execution, PhaseSound setId world.taken execution (world.phase execution)
  completed : ∀ row, world.row setId = some row → row.state = .completed → world.taken ≠ []

section Steps

variable {env : BackupEnv} {uuid4 : Supply Uuid} {setId : Uuid} {world world' : BackupWorld} {execution : Nat}

/-- An execution that goes on, apart from the rows and the snapshots. -/
theorem Sound.entering (sound : Sound setId world) {phase : BackupPhase} {workDir : Option StagedFiles}
    (ok : PhaseSound setId world.taken execution phase) :
    Sound setId { world.entering execution phase with workDir } := by
  refine { sound with phases := fun other => ?_ }
  simp only [BackupWorld.entering, Function.update_apply]
  split
  · next same => exact same ▸ ok
  · exact sound.phases other

theorem forgets_one {before after : List TakenSnapshot} (forgets : Forgets before after) (once : before.length ≤ 1) :
    after = before := by
  obtain ⟨fewer, newest⟩ := forgets
  match before, once with
  | [], _ => exact List.sublist_nil.mp fewer
  | [snapshot], _ =>
    rcases List.sublist_singleton.mp fewer with rfl | rfl
    · cases newest
    · rfl

/-! Rows. -/

theorem row_flush {read new : BackupSet} (own : read.id = setId) :
    (world.flush read new).row setId = (world.row setId).map (read.flush new) := by
  subst own
  exact (Table.get?_modify world.sets read.id (read.flush new) (fun _ => rfl) read.id).trans (if_pos rfl)

theorem onePerSlot_flush (slots : OnePerSlot world.sets) (read new : BackupSet) :
    OnePerSlot (world.flush read new).sets := by
  intro row member other otherMember samePolicy sameSlot isSlot
  have rows (row : BackupSet) := @Table.mem_modify _ _ _ _ world.sets read.id (read.flush new) (fun _ => rfl) row
  obtain ⟨old, oldMember, rfl⟩ := (rows row).mp member
  obtain ⟨older, olderMember, rfl⟩ := (rows other).mp otherMember
  have policy (current : BackupSet) : (if Keyed.key current = read.id then read.flush new current else current).backupPolicyId =
      current.backupPolicyId := by split <;> rfl
  have slot (current : BackupSet) : (if Keyed.key current = read.id then read.flush new current else current).scheduleSlot =
      current.scheduleSlot := by split <;> rfl
  rw [policy, policy] at samePolicy
  rw [slot, slot] at sameSlot
  rw [slot] at isSlot
  rw [slots old oldMember older olderMember samePolicy sameSlot isSlot]

/-- `prepare` makes no set completed. -/
theorem prepare_state {policies : Table BackupPolicy} {resolve : BackupPolicy → Result ResolvedBackupPolicy}
    {row new : BackupSet} {now : Int} {plan : Option BackupExecutionPlan}
    (done : prepare env policies resolve row now = .ok (new, plan)) :
    (row.state = .completed ∧ new = row ∧ plan = none) ∨ (row.state ≠ .completed ∧ new.state ≠ .completed ∧
      (plan ≠ none → new.state = .running)) := by
  unfold prepare at done
  split at done
  · next completed =>
    cases done
    exact .inl ⟨completed, rfl, rfl⟩
  · next open_ =>
    split at done
    · cases done
      exact .inr ⟨open_, by simp, by simp⟩
    · obtain ⟨resolved, -, rest⟩ := bind_eq_ok.mp done
      cases rest
      exact .inr ⟨open_, by simp, fun _ => rfl⟩

/-- A session of a set that ended with it completed. -/
theorem state_flush (read new current : BackupSet) :
    (read.flush new current).state = written read.state new.state current.state := rfl

theorem Sound.flush (sound : Sound setId world) {read new : BackupSet} {phase : BackupPhase} (own : read.id = setId)
    (ok : PhaseSound setId world.taken execution phase)
    (completes : new.state = .completed → read.state ≠ .completed → world.taken ≠ []) :
    Sound setId ((world.flush read new).entering execution phase) := by
  have flushed : Sound setId (world.flush read new) := by
    refine { sound with slots := onePerSlot_flush sound.slots read new, completed := ?_ }
    intro row found isCompleted
    rw [row_flush own, Option.map_eq_some_iff] at found
    obtain ⟨current, foundCurrent, rfl⟩ := found
    rw [state_flush, written] at isCompleted
    split at isCompleted
    · exact sound.completed current foundCurrent isCompleted
    · next differs => exact completes isCompleted fun same => differs (isCompleted.trans same.symm)
  exact flushed.entering ok

/-! Reserving. -/

theorem reserve_spec {seen sets sets' : Table BackupSet} {policy : BackupPolicy} {reason : String}
    {scheduleSlot : Option String} {now : Int} {backupSet : BackupSet} {created : Bool}
    (done : BackupRunService.reserve env uuid4 seen sets policy reason scheduleSlot now = .ok (sets', backupSet, created)) :
    sets' = sets ∨ ∃ new : BackupSet, new.state = .pending ∧ BackupRunService.insertSet sets new = some sets' := by
  unfold BackupRunService.reserve at done
  dsimp only at done
  split at done
  · cases done
  split at done
  · cases done
  split at done
  · cases done
    exact .inl rfl
  split at done
  · next inserted =>
    cases done
    exact .inr ⟨_, rfl, inserted⟩
  split at done
  · cases done
    exact .inl rfl
  · cases done

/-- What the constraint admits. -/
theorem insertSet_spec {sets sets' : Table BackupSet} {new : BackupSet}
    (inserted : BackupRunService.insertSet sets new = some sets') :
    sets.insert? new = some sets' ∧ ∀ slot, new.scheduleSlot = some slot →
      ∀ other ∈ sets, ¬(other.backupPolicyId = new.backupPolicyId ∧ other.scheduleSlot = some slot) := by
  unfold BackupRunService.insertSet at inserted
  split at inserted
  · next noSlot => exact ⟨inserted, fun slot isSlot => by rw [noSlot] at isSlot; cases isSlot⟩
  · next slot isSlot =>
    split at inserted
    · cases inserted
    · next free =>
      refine ⟨inserted, fun other isOther row member same => ?_⟩
      obtain rfl : slot = other := Option.some.inj (isSlot.symm.trans isOther)
      rw [Bool.not_eq_true, Option.isSome_eq_false_iff, Option.isNone_iff_eq_none] at free
      have differs := Table.first?_eq_none_iff.mp free row member
      exact absurd (decide_eq_true same) (by simpa using differs)

theorem onePerSlot_insert {sets sets' : Table BackupSet} {new : BackupSet} (slots : OnePerSlot sets)
    (inserted : BackupRunService.insertSet sets new = some sets') : OnePerSlot sets' := by
  obtain ⟨added, free⟩ := insertSet_spec inserted
  intro row member other otherMember samePolicy sameSlot isSlot
  obtain ⟨slot, rowSlot⟩ := Option.ne_none_iff_exists'.mp isSlot
  rcases (Table.mem_insert? added).mp member with old | rfl <;>
    rcases (Table.mem_insert? added).mp otherMember with older | rfl
  · exact slots row old other older samePolicy sameSlot isSlot
  · exact absurd ⟨samePolicy, rowSlot⟩ (free slot (sameSlot.symm.trans rowSlot) row old)
  · exact absurd ⟨samePolicy.symm, sameSlot.symm.trans rowSlot⟩ (free slot rowSlot other older)
  · rfl

theorem Sound.reserve (sound : Sound setId world) {seen sets : Table BackupSet} {policy : BackupPolicy} {reason : String}
    {scheduleSlot : Option String} {now : Int} {backupSet : BackupSet} {created : Bool}
    (done : BackupRunService.reserve env uuid4 seen world.sets policy reason scheduleSlot now =
      .ok (sets, backupSet, created)) : Sound setId { world with sets } := by
  rcases reserve_spec done with rfl | ⟨new, isNew, inserted⟩
  · exact sound
  · refine { sound with slots := onePerSlot_insert sound.slots inserted, completed := ?_ }
    intro row found isCompleted
    have added := (insertSet_spec inserted).1
    rw [BackupWorld.row, Table.get?_eq_some_iff, Table.mem_insert? added] at found
    obtain ⟨old | rfl, isId⟩ := found
    · exact sound.completed row (Table.get?_eq_some_iff.mpr ⟨old, isId⟩) isCompleted
    · rw [isNew] at isCompleted
      cases isCompleted

/-! ## One step -/

theorem PhaseSound.at {phase : BackupPhase} (sound : Sound setId world) (at_ : world.phase execution = phase) :
    PhaseSound setId world.taken execution phase := at_ ▸ sound.phases execution

theorem Sound.takeSnapshot (sound : Sound setId world) {plan : BackupExecutionPlan} {before : Nat} {database : Option Nat}
    {snapshotId : String} (reported : Except BackupError ResticBackupResult)
    (at_ : world.phase execution = .copying plan before database)
    (undisturbed : Undisturbed setId world (.takeSnapshot execution)) :
    Sound setId { world.entering execution (reportedPhase plan reported) with
      snapshots := world.snapshots ++ [⟨snapshotId, database, world.files.manifest⟩]
      taken := world.taken ++ [⟨snapshotId, database, world.files.manifest⟩] } := by
  obtain ⟨ownManifest, still⟩ := undisturbed
  rw [at_] at still
  obtain ⟨rfl, rfl⟩ : before = 0 ∧ database = some execution := PhaseSound.at sound at_
  have first : world.taken = [] := List.length_eq_zero_iff.mp still
  constructor
  · exact sound.slots
  · exact congrArg (· ++ [_]) sound.kept
  · simp [first]
  · intro snapshot member
    simp only [first, List.nil_append, List.mem_singleton] at member
    exact member ▸ ⟨execution, rfl, ownManifest⟩
  · intro other
    simp only [BackupWorld.entering, Function.update_apply]
    split
    · unfold reportedPhase
      split
      · simp [PhaseSound]
      · trivial
    · have before := sound.phases other
      cases here : world.phase other with
      | known _ _ | checked _ _ | kept _ => simp [PhaseSound]
      | completing _ row =>
        rw [here] at before
        exact ⟨by simp, before.2⟩
      | _ =>
        rw [here] at before
        exact before
  · simp

theorem Sound.forgets (sound : Sound setId world) {snapshots : List TakenSnapshot} (forgets : Forgets world.snapshots snapshots) :
    snapshots = world.snapshots := forgets_one forgets (sound.kept ▸ sound.once)

theorem Sound.step {action : BackupAction} (sound : Sound setId world)
    (step : BackupStep env uuid4 setId world action world') (undisturbed : Undisturbed setId world action) :
    Sound setId world' := by
  cases step with
  | reserve done => exact sound.reserve done
  | begin idle found => exact sound.entering (Table.key_of_get? found)
  | prepare at_ done =>
    refine sound.flush (PhaseSound.at sound at_) ?_ fun completes open_ => ?_
    · rename_i plan
      cases plan <;> trivial
    · rcases prepare_state done with ⟨completed, -⟩ | ⟨-, notCompleted, -⟩
      · exact absurd completed open_
      · exact absurd completes notCompleted
  | clear at_ | makeDir at_ | dump at_ | dumpFails _ at_ | manifest at_ _ | unready _ at_ | backupFails _ at_ | cleanUp at_ =>
    exact sound.entering trivial
  | raises guarded => exact sound.entering trivial
  | stops => exact sound.entering trivial
  | found at_ there =>
    refine sound.entering fun none_ => ?_
    rw [sound.kept, none_] at there
    cases there
  | absent at_ none_ =>
    refine sound.entering ?_
    show world.taken.length = 0
    rw [← sound.kept, none_]
    rfl
  | copyDatabase at_ => exact sound.entering ⟨PhaseSound.at sound at_, undisturbed⟩
  | takeSnapshot snapshotId reported at_ => exact sound.takeSnapshot reported at_ undisturbed
  | verify check at_ | skipRetention at_ _ =>
    have known := PhaseSound.at sound at_
    exact sound.entering known
  | retain forget at_ forgets =>
    rw [sound.forgets forgets]
    have known := PhaseSound.at sound at_
    exact sound.entering known
  | readToComplete at_ found => exact sound.entering ⟨PhaseSound.at sound at_, Table.key_of_get? found⟩
  | complete now at_ =>
    obtain ⟨known, own⟩ := PhaseSound.at sound at_
    exact sound.flush own trivial fun _ _ => known
  | readToMark at_ found => exact sound.entering (Table.key_of_get? found)
  | markFailed now at_ => exact sound.flush (PhaseSound.at sound at_) trivial fun completes => by cases completes
  | forget forgets =>
    rw [sound.forgets forgets]
    exact sound

/-- The set is completed. -/
def Completed (setId : Uuid) (world : BackupWorld) : Prop := ∃ row, world.row setId = some row ∧ row.state = .completed

theorem Completed.flush (completed : Completed setId world) {read new : BackupSet} (own : read.id = setId)
    {phase : BackupPhase} (stays : new.state = .completed ∨ new.state = read.state) :
    Completed setId ((world.flush read new).entering execution phase) := by
  obtain ⟨row, found, isCompleted⟩ := completed
  refine ⟨read.flush new row, ?_, ?_⟩
  · exact (row_flush own).trans (by rw [found]; rfl)
  · rw [state_flush]
    rcases stays with isNew | same
    · rcases written_cases read.state new.state row.state with result | result
      · rw [result, isNew]
      · rw [result, isCompleted]
    · rw [same, written_unchanged, isCompleted]

/-- A set that is completed stays so. -/
theorem Completed.step {action : BackupAction} (sound : Sound setId world) (completed : Completed setId world)
    (step : BackupStep env uuid4 setId world action world') (undisturbed : Undisturbed setId world action) :
    Completed setId world' := by
  cases step with
  | reserve done =>
    obtain ⟨row, found, isCompleted⟩ := completed
    rcases reserve_spec done with rfl | ⟨new, -, inserted⟩
    · exact ⟨row, found, isCompleted⟩
    · exact ⟨row, Table.get?_insert?_of_get? (insertSet_spec inserted).1 found, isCompleted⟩
  | prepare at_ done =>
    obtain ⟨current, found, isCompleted⟩ := completed
    have read := undisturbed current found isCompleted
    rw [at_] at read
    refine Completed.flush ⟨current, found, isCompleted⟩ (PhaseSound.at sound at_) (.inr ?_)
    rcases prepare_state done with ⟨-, rfl, -⟩ | ⟨open_, -⟩
    · rfl
    · exact absurd read open_
  | complete now at_ => exact completed.flush (PhaseSound.at sound at_).2 (.inl rfl)
  | markFailed now at_ =>
    obtain ⟨current, found, isCompleted⟩ := completed
    have never := undisturbed current found isCompleted
    rw [at_] at never
    exact never.elim
  | _ => exact completed

/-! ## Runs -/

/-- A set that was reserved or is going to be, and of which no execution has begun. -/
structure Initial (setId : Uuid) (world : BackupWorld) : Prop where
  slots : OnePerSlot world.sets
  pending : ∀ row, world.row setId = some row → row.state = .pending
  snapshots : world.snapshots = []
  taken : world.taken = []
  phase : world.phase = fun _ => .idle

theorem Initial.sound (initial : Initial setId world) : Sound setId world := by
  obtain ⟨slots, pending, snapshots, taken, phase⟩ := initial
  refine ⟨slots, snapshots.trans taken.symm, by simp [taken], by simp [taken], by simp [phase, PhaseSound], ?_⟩
  intro row found isCompleted
  rw [pending row found] at isCompleted
  cases isCompleted

/-- Steps that are not disturbed. -/
abbrev UndisturbedRun (env : BackupEnv) (uuid4 : Supply Uuid) (setId : Uuid) :=
  Run fun world action world' => BackupStep env uuid4 setId world action world' ∧ Undisturbed setId world action

theorem Sound.run {actions : List BackupAction} (sound : Sound setId world)
    (run : UndisturbedRun env uuid4 setId world actions world') : Sound setId world' :=
  @Run.invariant _ _ _ (Sound setId) (fun _ _ _ kept step => kept.step step.1 step.2) _ _ _ run sound

theorem Completed.run {actions : List BackupAction} (sound : Sound setId world) (completed : Completed setId world)
    (run : UndisturbedRun env uuid4 setId world actions world') : Completed setId world' := by
  have both := @Run.invariant _ _ _ (fun world => Sound setId world ∧ Completed setId world)
    (fun _ _ _ kept step => ⟨kept.1.step step.1 step.2, kept.2.step kept.1 step.1 step.2⟩) _ _ _ run ⟨sound, completed⟩
  exact both.2

/-- In every run whose steps are undisturbed there is one row for a policy and a slot, one snapshot
is taken at most, which holds the files of one execution, a set is completed only after it was
taken, and what is completed stays so. -/
theorem backup_taken_once {start middle : BackupWorld} {actions later : List BackupAction} (initial : Initial setId start)
    (first : UndisturbedRun env uuid4 setId start actions middle) (second : UndisturbedRun env uuid4 setId middle later world) :
    OnePerSlot world.sets ∧ world.taken.length ≤ 1 ∧
      (∀ snapshot ∈ world.taken, ∃ execution, snapshot.database = some execution ∧ snapshot.manifest = some execution) ∧
      (Completed setId middle → Completed setId world) ∧ (Completed setId world → world.taken ≠ []) := by
  have between := initial.sound.run first
  have sound := between.run second
  exact ⟨sound.slots, sound.once, sound.whole, fun completed => completed.run between second,
    fun ⟨row, found, isCompleted⟩ => sound.completed row found isCompleted⟩

/-! ## Executions that do not overlap -/

def Open (setId : Uuid) (world : BackupWorld) : Prop := ∀ row, world.row setId = some row → row.state ≠ .completed

/-- What an execution finds when it is the only one. -/
def AlonePhase (setId : Uuid) (world : BackupWorld) (execution : Nat) : BackupPhase → Prop
  | .preparing row => world.row setId = some row
  | .planned _ | .cleared _ | .made _ | .failing _ | .marking .. => Open setId world
  | .dumped _ => Open setId world ∧ world.files.database = some execution
  | .staged _ => Open setId world ∧ world.files = ⟨some execution, some execution⟩
  | .absent _ taken => Open setId world ∧ world.files = ⟨some execution, some execution⟩ ∧ world.taken.length = taken
  | .copying _ taken _ => Open setId world ∧ world.files.manifest = some execution ∧ world.taken.length = taken
  | _ => True

structure Alone (setId : Uuid) (world : BackupWorld) : Prop where
  one : ∀ execution other, (world.phase execution).atRest = false → (world.phase other).atRest = false → execution = other
  own : ∀ execution, AlonePhase setId world execution (world.phase execution)

theorem AlonePhase.of_atRest {phase : BackupPhase} (rests : phase.atRest = true) : AlonePhase setId world execution phase := by
  cases phase with
  | idle | finished => trivial
  | _ => cases rests

theorem Alone.at {phase : BackupPhase} (alone : Alone setId world) (at_ : world.phase execution = phase) :
    AlonePhase setId world execution phase := at_ ▸ alone.own execution

theorem Alone.others (alone : Alone setId world) (active : (world.phase execution).atRest = false) :
    ∀ other, other ≠ execution → (world.phase other).atRest = true := by
  intro other differs
  by_contra active'
  exact differs (alone.one other execution (by simpa using active') active)

/-- One execution goes on while the others rest. -/
theorem Alone.acts {phase : BackupPhase} (rests : ∀ other, other ≠ execution → (world.phase other).atRest = true)
    (moved : world'.phase = Function.update world.phase execution phase)
    (own : AlonePhase setId world' execution phase) : Alone setId world' := by
  have after (other : Nat) (differs : other ≠ execution) : (world'.phase other).atRest = true := by
    rw [moved, Function.update_of_ne differs]
    exact rests other differs
  refine ⟨fun one other active active' => ?_, fun other => ?_⟩
  · have isOne : one = execution := by
      by_contra differs
      rw [after one differs] at active
      cases active
    have isOther : other = execution := by
      by_contra differs
      rw [after other differs] at active'
      cases active'
    exact isOne.trans isOther.symm
  · by_cases same : other = execution
    · subst same
      rw [moved, Function.update_self]
      exact own
    · exact AlonePhase.of_atRest (after other same)

/-- An execution that comes to rest, or was there. -/
theorem Alone.stops (alone : Alone setId world) : Alone setId (world.entering execution .finished) := by
  refine ⟨fun one other active active' => ?_, fun other => ?_⟩
  · simp only [BackupWorld.entering, Function.update_apply] at active active'
    split at active
    · cases active
    split at active'
    · cases active'
    exact alone.one one other active active'
  · simp only [BackupWorld.entering, Function.update_apply]
    split
    · trivial
    · exact alone.own other

theorem Alone.reserve (alone : Alone setId world) {sets : Table BackupSet}
    (reserved : sets = world.sets ∨ ∃ new : BackupSet, new.state = .pending ∧
      BackupRunService.insertSet world.sets new = some sets) : Alone setId { world with sets } := by
  rcases reserved with rfl | ⟨new, isNew, inserted⟩
  · exact alone
  have added := (insertSet_spec inserted).1
  have stays {row : BackupSet} (found : world.row setId = some row) : sets.get? setId = some row :=
    Table.get?_insert?_of_get? added found
  have open_ (before : Open setId world) : Open setId { world with sets } := by
    intro row found
    rw [BackupWorld.row, Table.get?_eq_some_iff, Table.mem_insert? added] at found
    obtain ⟨old | rfl, isId⟩ := found
    · exact before row (Table.get?_eq_some_iff.mpr ⟨old, isId⟩)
    · simp [isNew]
  refine ⟨alone.one, fun execution => ?_⟩
  have before := alone.own execution
  show AlonePhase setId { world with sets } execution (world.phase execution)
  cases here : world.phase execution with
  | preparing row =>
    rw [here] at before
    exact stays before
  | planned _ | cleared _ | made _ | failing _ | marking _ _ =>
    rw [here] at before
    exact open_ before
  | dumped _ | staged _ | absent _ _ | copying _ _ _ =>
    rw [here] at before
    exact ⟨open_ before.1, before.2⟩
  | _ => trivial

/-- A plan is made for a set that is not completed. -/
theorem open_of_planned {row new : BackupSet} (found : world.row setId = some row) (isOpen : new.state ≠ .completed) :
    Open setId (world.flush row new) := by
  have own : row.id = setId := Table.key_of_get? found
  intro current foundCurrent
  rw [row_flush own, found] at foundCurrent
  cases foundCurrent
  rw [state_flush, written_undisturbed]
  exact isOpen

/-- An execution that is alone is not disturbed, and leaves the next one alone. -/
theorem Alone.step {action : BackupAction} (alone : Alone setId world)
    (step : BackupStep env uuid4 setId world action world') (serial : Serial world action) :
    Undisturbed setId world action ∧ Alone setId world' := by
  have rest {execution : Nat} {phase : BackupPhase} (at_ : world.phase execution = phase) (active : phase.atRest = false) :=
    @Alone.others setId world execution alone (at_ ▸ active)
  cases step with
  | reserve done => exact ⟨trivial, alone.reserve (reserve_spec done)⟩
  | begin idle found => exact ⟨trivial, .acts (fun other _ => serial other) rfl found⟩
  | @prepare execution _ _ row new now plan at_ done =>
    have found : world.row setId = some row := alone.at at_
    refine ⟨fun current foundCurrent completed => ?_, .acts (rest at_ rfl) rfl ?_⟩
    · rw [at_]
      cases found.symm.trans foundCurrent
      exact completed
    · cases plan with
      | none => trivial
      | some plan =>
        rcases prepare_state done with ⟨-, -, isNone⟩ | ⟨-, notCompleted, -⟩
        · cases isNone
        · exact open_of_planned found notCompleted
  | clear at_ | makeDir at_ => exact ⟨trivial, .acts (rest at_ rfl) rfl (alone.at at_)⟩
  | dump at_ => exact ⟨trivial, .acts (rest at_ rfl) rfl ⟨alone.at at_, rfl⟩⟩
  | dumpFails error at_ => exact ⟨trivial, .acts (rest at_ rfl) rfl (alone.at at_)⟩
  | @manifest execution plan files at_ there =>
    obtain ⟨isOpen, dumped⟩ := alone.at at_
    refine ⟨trivial, .acts (rest at_ rfl) rfl ⟨isOpen, ?_⟩⟩
    obtain ⟨database, manifest⟩ := files
    rw [BackupWorld.files, there] at dumped
    exact congrArg (StagedFiles.mk · (some execution)) dumped
  | unready error at_ => exact ⟨trivial, .acts (rest at_ rfl) rfl (alone.at at_).1⟩
  | found at_ there => exact ⟨trivial, .acts (rest at_ rfl) rfl trivial⟩
  | absent at_ none_ =>
    obtain ⟨isOpen, files⟩ := alone.at at_
    exact ⟨trivial, .acts (rest at_ rfl) rfl ⟨isOpen, files, rfl⟩⟩
  | copyDatabase at_ =>
    obtain ⟨isOpen, files, looked⟩ := alone.at at_
    exact ⟨congrArg StagedFiles.database files,
      .acts (rest at_ rfl) rfl ⟨isOpen, congrArg StagedFiles.manifest files, looked⟩⟩
  | takeSnapshot snapshotId reported at_ =>
    obtain ⟨isOpen, own, looked⟩ := alone.at at_
    refine ⟨⟨own, by rw [at_]; exact looked⟩, .acts (rest at_ rfl) rfl ?_⟩
    cases reported with
    | ok _ => trivial
    | error _ => exact isOpen
  | backupFails error at_ => exact ⟨trivial, .acts (rest at_ rfl) rfl (alone.at at_).1⟩
  | verify check at_ | skipRetention at_ _ | retain _ at_ _ | readToComplete at_ _ | cleanUp at_ =>
    exact ⟨trivial, .acts (rest at_ rfl) rfl trivial⟩
  | complete now at_ =>
    refine ⟨fun current found completed => ?_, .acts (rest at_ rfl) rfl trivial⟩
    rw [at_]
    trivial
  | readToMark at_ found => exact ⟨trivial, .acts (rest at_ rfl) rfl (alone.at at_)⟩
  | markFailed now at_ =>
    refine ⟨fun current found completed => ?_, .acts (rest at_ rfl) rfl trivial⟩
    exact absurd completed (alone.at at_ current found)
  | @raises execution guarded =>
    have active : (world.phase execution).atRest = false := by
      cases here : world.phase execution with
      | idle | finished => rw [here] at guarded; cases guarded
      | _ => rfl
    exact ⟨trivial, .acts (alone.others active) rfl trivial⟩
  | stops => exact ⟨trivial, alone.stops⟩
  | forget forgets => exact ⟨trivial, ⟨alone.one, alone.own⟩⟩

/-- Executions that do not overlap, wherever they fail or stop, are not disturbed: the next one
finds the snapshot that was taken, and takes none itself. -/
theorem undisturbed_of_serial {start : BackupWorld} {actions : List BackupAction} (initial : Initial setId start)
    (run : Run (fun world action world' => BackupStep env uuid4 setId world action world' ∧ Serial world action)
      start actions world) : UndisturbedRun env uuid4 setId start actions world := by
  have alone : Alone setId start := by
    constructor <;> simp [initial.phase, BackupPhase.atRest, AlonePhase]
  clear initial
  induction run with
  | done world => exact .done world
  | next step _ ih =>
    obtain ⟨undisturbed, after⟩ := alone.step step.1 step.2
    exact .next ⟨step.1, undisturbed⟩ (ih after)

end Steps

/-! ## A nightly backup -/

def nightlyEnv : BackupEnv := { appVersion := "1", cacheDir := "/cache", databaseEngine := "sqlite", schemaRevision := "1" }

def nightlySet : BackupSet :=
  { id := 1, backupPolicyId := 2, reason := "scheduled", scheduleSlot := some "2024-01-01T00:00+00:00", startedAt := 0
    appVersion := "1", schemaRevision := "1", databaseEngine := "sqlite", verificationState := "SKIPPED" }

def nightlyPolicies : Table BackupPolicy := ⟨[{ id := 2, databaseBackend := "sqlite", verifyAfterBackup := false }], by decide⟩

def nightlyRepository (policy : BackupPolicy) : Result ResolvedBackupPolicy :=
  .ok { policyId := policy.id, repository := "/repository", password := "secret", environment := [], initializeIfMissing := true
        retention := [] }

def beforeBackup : BackupWorld where
  sets := ⟨[nightlySet], by decide⟩

theorem beforeBackup_initial : Initial 1 beforeBackup := by
  refine ⟨?_, ?_, rfl, rfl, rfl⟩
  · intro row member other otherMember _ _ _
    rw [List.mem_singleton.mp member, List.mem_singleton.mp otherMember]
  · intro row found
    cases found
    rfl

/-- Two executions that overlap look for a snapshot before either has taken one. -/
theorem overlapping_executions : ∃ actions world,
    Run (BackupStep nightlyEnv .counting 1) beforeBackup actions world ∧ world.taken.length = 2 :=
  ⟨_, _,
    .next (@BackupStep.begin _ _ _ _ 0 nightlySet rfl rfl) <| .next (@BackupStep.begin _ _ _ _ 1 nightlySet rfl rfl) <|
    .next (@BackupStep.prepare _ _ _ _ 0 nightlyPolicies nightlyRepository nightlySet _ 0 (some _) rfl rfl) <|
    .next (@BackupStep.clear _ _ _ _ 0 _ rfl) <| .next (@BackupStep.makeDir _ _ _ _ 0 _ rfl) <|
    .next (@BackupStep.dump _ _ _ _ 0 _ rfl) <| .next (@BackupStep.manifest _ _ _ _ 0 _ _ rfl rfl) <|
    .next (@BackupStep.absent _ _ _ _ 0 _ rfl rfl) <|
    .next (@BackupStep.prepare _ _ _ _ 1 nightlyPolicies nightlyRepository nightlySet _ 0 (some _) rfl rfl) <|
    .next (@BackupStep.clear _ _ _ _ 1 _ rfl) <| .next (@BackupStep.makeDir _ _ _ _ 1 _ rfl) <|
    .next (@BackupStep.dump _ _ _ _ 1 _ rfl) <| .next (@BackupStep.manifest _ _ _ _ 1 _ _ rfl rfl) <|
    .next (@BackupStep.absent _ _ _ _ 1 _ rfl rfl) <| .next (@BackupStep.copyDatabase _ _ _ _ 1 _ _ rfl) <|
    .next (@BackupStep.takeSnapshot _ _ _ _ 1 _ _ _ "b" (.ok ⟨"b", none⟩) rfl) <|
    .next (@BackupStep.copyDatabase _ _ _ _ 0 _ _ rfl) <|
    .next (@BackupStep.takeSnapshot _ _ _ _ 0 _ _ _ "a" (.ok ⟨"a", none⟩) rfl) <| .done _, rfl⟩

theorem backup_taken_twice : ¬∀ (env : BackupEnv) (uuid4 : Supply Uuid) (setId : Uuid) (start world : BackupWorld)
    (actions : List BackupAction), Initial setId start → Run (BackupStep env uuid4 setId) start actions world →
    world.taken.length ≤ 1 := by
  intro always
  obtain ⟨actions, world, run, twice⟩ := overlapping_executions
  have once := always _ _ _ _ _ actions beforeBackup_initial run
  rw [twice] at once
  exact absurd once (by decide)

/-- An execution that stops once the snapshot is taken, and one that finds it. -/
theorem retried_execution : ∃ actions world,
    Run (fun world action world' => BackupStep nightlyEnv .counting 1 world action world' ∧ Serial world action)
      beforeBackup actions world ∧ (∃ snapshot, world.taken = [snapshot]) ∧ Completed 1 world :=
  ⟨_, _,
    .next ⟨@BackupStep.begin _ _ _ _ 0 nightlySet rfl rfl, fun _ => rfl⟩ <|
    .next ⟨@BackupStep.prepare _ _ _ _ 0 nightlyPolicies nightlyRepository nightlySet _ 0 (some _) rfl rfl, trivial⟩ <|
    .next ⟨@BackupStep.clear _ _ _ _ 0 _ rfl, trivial⟩ <| .next ⟨@BackupStep.makeDir _ _ _ _ 0 _ rfl, trivial⟩ <|
    .next ⟨@BackupStep.dump _ _ _ _ 0 _ rfl, trivial⟩ <| .next ⟨@BackupStep.manifest _ _ _ _ 0 _ _ rfl rfl, trivial⟩ <|
    .next ⟨@BackupStep.absent _ _ _ _ 0 _ rfl rfl, trivial⟩ <| .next ⟨@BackupStep.copyDatabase _ _ _ _ 0 _ _ rfl, trivial⟩ <|
    .next ⟨@BackupStep.takeSnapshot _ _ _ _ 0 _ _ _ "a" (.ok ⟨"a", none⟩) rfl, trivial⟩ <|
    .next ⟨@BackupStep.stops _ _ _ _ 0, trivial⟩ <|
    .next ⟨@BackupStep.begin _ _ _ _ 1 _ rfl rfl, fun other => by cases other <;> rfl⟩ <|
    .next ⟨@BackupStep.prepare _ _ _ _ 1 nightlyPolicies nightlyRepository _ _ 1 (some _) rfl rfl, trivial⟩ <|
    .next ⟨@BackupStep.clear _ _ _ _ 1 _ rfl, trivial⟩ <| .next ⟨@BackupStep.makeDir _ _ _ _ 1 _ rfl, trivial⟩ <|
    .next ⟨@BackupStep.dump _ _ _ _ 1 _ rfl, trivial⟩ <| .next ⟨@BackupStep.manifest _ _ _ _ 1 _ _ rfl rfl, trivial⟩ <|
    .next ⟨@BackupStep.found _ _ _ _ 1 _ _ rfl rfl, trivial⟩ <|
    .next ⟨@BackupStep.verify _ _ _ _ 1 _ _ (.ok ()) rfl, trivial⟩ <|
    .next ⟨@BackupStep.skipRetention _ _ _ _ 1 _ _ rfl rfl, trivial⟩ <|
    .next ⟨@BackupStep.readToComplete _ _ _ _ 1 _ _ rfl rfl, trivial⟩ <|
    .next ⟨@BackupStep.complete _ _ _ _ 1 _ _ 2 rfl, trivial⟩ <| .done _,
    ⟨_, rfl⟩, ⟨_, rfl, rfl⟩⟩

theorem backup_taken_once_retried : ∃ world, (∃ snapshot, world.taken = [snapshot]) ∧ Completed 1 world ∧
    OnePerSlot world.sets ∧ world.taken.length ≤ 1 := by
  obtain ⟨actions, world, run, isTaken, completed⟩ := retried_execution
  obtain ⟨slots, once, -⟩ := backup_taken_once beforeBackup_initial (.done _) (undisturbed_of_serial beforeBackup_initial run)
  exact ⟨world, isTaken, completed, slots, once⟩

end ZeroNvr.BackupSnapshots
