import ZeroNvr.Exports.Execution
import ZeroNvr.Lib.Run

/-! # States of an export

An execution, a cancellation and a cleanup each read the row of a job and write it
later.  Where no other one has ended the job in between, where an execution that
fails does not find the job completed, and where none stops before it has tidied up,
the final states stay, and no file is left for a job that is over.
-/

namespace ZeroNvr.ExportStates

open Lib ExportExecutionService

/-! ## Executions and requests -/

inductive ExportPhase where
  | idle
  /-- `prepare` has taken the time and read the row. -/
  | preparing (row : ExportJob) (now : Int)
  | planned (plan : ExportExecutionPlan)
  | rendered (plan : ExportExecutionPlan) (result : FfmpegExportResult)
  | completing (result : FfmpegExportResult) (row : ExportJob)
  | committing (row new : ExportJob)
  | failing (errorCode : String)
  | marking (errorCode : String) (row : ExportJob)
  | finished

/-- A call that cancels the job, or a cleanup pass as far as the job goes. -/
inductive RequestPhase where
  | idle
  | cancelling (row : ExportJob)
  | cleaning (row : ExportJob) (reference : Int)
  | unlinking (path : Option String)
  | finished

/-- The job, whether there is a file at its path, and those who work on it. -/
structure ExportWorld where
  job : ExportJob
  file : Bool := false
  clock : Int
  phase : Nat → ExportPhase := fun _ => .idle
  request : Nat → RequestPhase := fun _ => .idle

namespace ExportWorld

def entering (world : ExportWorld) (execution : Nat) (phase : ExportPhase) : ExportWorld :=
  { world with phase := Function.update world.phase execution phase }

def asking (world : ExportWorld) (request : Nat) (phase : RequestPhase) : ExportWorld :=
  { world with request := Function.update world.request request phase }

/-- A session commits what it made of the row. -/
def flush (world : ExportWorld) (read new : ExportJob) : ExportWorld := { world with job := read.flush new world.job }

end ExportWorld

inductive ExportAction where
  | commit (execution : Nat)
  | stop (execution : Nat)
  | commitRequest (request : Nat)
  | abandon (request : Nat)
  | goOn

/-- Each goes on one call at a time. -/
inductive ExportStep (env : PlaybackEnv) (cacheDir : String) : ExportWorld → ExportAction → ExportWorld → Prop
  | wait {world : ExportWorld} {clock : Int} (later : world.clock ≤ clock) :
      ExportStep env cacheDir world .goOn { world with clock }
  | begin {world : ExportWorld} {execution : Nat} {now : Int} (idle : world.phase execution = .idle)
      (before : now ≤ world.clock) :
      ExportStep env cacheDir world .goOn (world.entering execution (.preparing world.job now))
  | prepare {world : ExportWorld} {execution : Nat} {db : Database} {row new : ExportJob} {now : Int}
      {plan : Option ExportExecutionPlan} (at_ : world.phase execution = .preparing row now)
      (done : prepare env cacheDir db row now = .ok (new, plan)) :
      ExportStep env cacheDir world (.commit execution)
        ((world.flush row new).entering execution ((plan.map ExportPhase.planned).getD .finished))
  /-- The rendered file is put in place at once. -/
  | render {world : ExportWorld} {execution : Nat} {plan : ExportExecutionPlan} {result : FfmpegExportResult}
      (at_ : world.phase execution = .planned plan) (there : result.outputPath = plan.outputPath) :
      ExportStep env cacheDir world .goOn { world.entering execution (.rendered plan result) with file := true }
  | renderFails {world : ExportWorld} {execution : Nat} {plan : ExportExecutionPlan} (errorCode : String)
      (at_ : world.phase execution = .planned plan) :
      ExportStep env cacheDir world .goOn (world.entering execution (.failing errorCode))
  | readToComplete {world : ExportWorld} {execution : Nat} {plan : ExportExecutionPlan} {result : FfmpegExportResult}
      (at_ : world.phase execution = .rendered plan result) :
      ExportStep env cacheDir world .goOn (world.entering execution (.completing result world.job))
  | decide {world : ExportWorld} {execution : Nat} {result : FfmpegExportResult} {row : ExportJob}
      (at_ : world.phase execution = .completing result row) :
      ExportStep env cacheDir world .goOn
        { world.entering execution (.committing row (complete row result world.clock).1) with
          file := world.file && !(complete row result world.clock).2 }
  | complete {world : ExportWorld} {execution : Nat} {row new : ExportJob} (at_ : world.phase execution = .committing row new) :
      ExportStep env cacheDir world (.commit execution) ((world.flush row new).entering execution .finished)
  | readToMark {world : ExportWorld} {execution : Nat} {errorCode : String}
      (at_ : world.phase execution = .failing errorCode) :
      ExportStep env cacheDir world .goOn (world.entering execution (.marking errorCode world.job))
  | markFailed {world : ExportWorld} {execution : Nat} {errorCode : String} {row : ExportJob}
      (at_ : world.phase execution = .marking errorCode row) :
      ExportStep env cacheDir world (.commit execution)
        ((world.flush row (markFailed row errorCode world.clock)).entering execution .finished)
  /-- The process stops, or another error is raised. -/
  | stop {world : ExportWorld} {execution : Nat} :
      ExportStep env cacheDir world (.stop execution) (world.entering execution .finished)
  | cancel {world : ExportWorld} {request : Nat} (idle : world.request request = .idle) :
      ExportStep env cacheDir world .goOn (world.asking request (.cancelling world.job))
  | commitCancel {world : ExportWorld} {request : Nat} {row : ExportJob} (at_ : world.request request = .cancelling row) :
      ExportStep env cacheDir world (.commitRequest request)
        ((world.flush row (ExportService.cancel row world.clock).1).asking request
          (.unlinking (ExportService.cancel row world.clock).2))
  | clean {world : ExportWorld} {request : Nat} {reference : Int} (idle : world.request request = .idle)
      (before : reference ≤ world.clock) (due : ExportCleanupService.isDue world.job reference = true) :
      ExportStep env cacheDir world .goOn (world.asking request (.cleaning world.job reference))
  | commitClean {world : ExportWorld} {request : Nat} {row : ExportJob} {reference : Int}
      (at_ : world.request request = .cleaning row reference) :
      ExportStep env cacheDir world (.commitRequest request)
        ((world.flush row (ExportCleanupService.expired row reference)).asking request (.unlinking row.outputPath))
  | unlink {world : ExportWorld} {request : Nat} {path : Option String} (at_ : world.request request = .unlinking path) :
      ExportStep env cacheDir world .goOn
        { world.asking request .finished with
          file := world.file && path ≠ some (outputPath cacheDir world.job.id) }
  | abandon {world : ExportWorld} {request : Nat} :
      ExportStep env cacheDir world (.abandon request) (world.asking request .finished)

/-! ## Undisturbed steps -/

def Ended (state : ExportState) : Prop := state = .completed ∨ state = .cancelled ∨ state = .expired

/-- No other one has ended the job since the row was read. -/
def Current (world : ExportWorld) (row : ExportJob) : Prop := Ended world.job.state → row.state = world.job.state

/-- Commits are current, an execution is not marked as failed when the job is completed, and what was begun
    is tidied up. -/
def Undisturbed (world : ExportWorld) : ExportAction → Prop
  | .commit execution =>
    match world.phase execution with
    | .preparing row _ | .committing row _ => Current world row
    | .marking _ row => Current world row ∧ world.job.state ≠ .completed
    | _ => True
  | .commitRequest request =>
    match world.request request with
    | .cancelling row | .cleaning row _ => Current world row
    | _ => True
  | .stop execution =>
    match world.phase execution with
    | .idle | .preparing .. | .finished => True
    | _ => False
  | .abandon request =>
    match world.request request with
    | .unlinking _ => False
    | _ => True
  | .goOn => True

/-! ## What a transaction makes of a row -/

/-- The states and the path a transaction leads to. -/
inductive Made (path : String) (row new : ExportJob) : Prop
  | nothing (state : new.state = row.state) (same : new.outputPath = row.outputPath) (ended : Ended row.state)
  | ends (before : isOver row = false) (state : isOver new = true)
      (cleared : new.outputPath = none ∨ new.outputPath = row.outputPath)
  | runs (before : isOver row = false) (notCompleted : row.state ≠ .completed) (state : new.state = .running)
      (there : new.outputPath = some path)
  | completes (before : isOver row = false) (state : new.state = .completed) (there : new.outputPath = some path)
  | fails (before : isOver row = false) (state : new.state = .failed) (same : new.outputPath = row.outputPath)

section Transactions

variable {env : PlaybackEnv} {cacheDir : String} {db : Database} {row new : ExportJob} {now : Int}

theorem ended_of_isOver {job : ExportJob} (gone : isOver job = true) : Ended job.state := .inr (of_decide_eq_true gone)

theorem prepare_made {plan : Option ExportExecutionPlan} (done : prepare env cacheDir db row now = .ok (new, plan)) :
    Made (outputPath cacheDir row.id) row new ∧ (row.state = .completed → new = row) ∧
      (new.state = .failed → row.state ≠ .completed) ∧
      (plan = none → new.state ≠ .running) ∧
      ∀ planned, plan = some planned → planned.outputPath = outputPath cacheDir row.id ∧
        new.outputPath = some (outputPath cacheDir row.id) ∧ isOver row = false := by
  unfold prepare at done
  split at done
  · next completed =>
    cases done
    exact ⟨.nothing rfl rfl (.inl completed), fun _ => rfl, fun failed => by simp [completed] at failed,
      fun _ => by simp [completed], by simp⟩
  next notCompleted =>
  split at done
  · next gone =>
    cases done
    refine ⟨.nothing rfl rfl (ended_of_isOver gone), fun _ => rfl, fun _ => notCompleted, fun _ running => ?_, by simp⟩
    simp [isOver, running] at gone
  next before =>
  have before : isOver row = false := by simpa using before
  have never (completed : row.state = .completed) : new = row := absurd completed notCompleted
  split at done
  · cases done
    exact ⟨.ends before rfl (.inr rfl), never, by simp, by simp, by simp⟩
  split at done
  · cases done
    exact ⟨.fails before rfl rfl, never, fun _ => notCompleted, by simp, by simp⟩
  · cases done
  · cases done
    exact ⟨.runs before notCompleted rfl rfl, never, by simp, by simp, by rintro _ ⟨⟩; exact ⟨rfl, rfl, before⟩⟩

/-- What `_complete` has decided: nothing, or that the job expires or is completed. -/
inductive Decided (path : String) (row new : ExportJob) (discards : Bool) : Prop
  | nothing (gone : isOver row = true) (same : new = row) (discards : discards = true)
  | expires (before : isOver row = false) (state : new.state = .expired) (cleared : new.outputPath = none)
      (discards : discards = true)
  | completes (before : isOver row = false) (state : new.state = .completed) (there : new.outputPath = some path)
      (discards : discards = false)

theorem complete_decided (result : FfmpegExportResult) :
    Decided result.outputPath row (complete row result now).1 (complete row result now).2 ∧
      ((complete row result now).1.state = .expired → isOver row = false → row.expiresAt ≤ now) ∧
      ((complete row result now).2 = false → now < row.expiresAt) := by
  unfold complete
  split
  · next gone => exact ⟨.nothing gone rfl rfl, fun _ before => by simp [gone] at before, by simp⟩
  next before =>
  have before : isOver row = false := by simpa using before
  split
  · next late => exact ⟨.expires before rfl rfl rfl, fun _ _ => late, by simp⟩
  · next early => exact ⟨.completes before rfl rfl rfl, by simp, fun _ => not_le.mp early⟩

theorem Decided.made {path : String} {discards : Bool} (decided : Decided path row new discards) : Made path row new := by
  cases decided with
  | nothing gone same =>
    subst same
    exact .nothing rfl rfl (ended_of_isOver gone)
  | expires before state cleared => exact .ends before (by simp [isOver, state]) (.inl cleared)
  | completes before state there => exact .completes before state there

theorem markFailed_made (path errorCode : String) : Made path row (markFailed row errorCode now) := by
  unfold markFailed
  split
  · next gone => exact .nothing rfl rfl (ended_of_isOver gone)
  · next before => exact .fails (by simpa using before) rfl rfl

theorem cancel_made (path : String) : Made path row (ExportService.cancel row now).1 := by
  unfold ExportService.cancel
  split
  · next gone => exact .nothing rfl rfl (ended_of_isOver gone)
  · next before => exact .ends (by simpa using before) rfl (.inl rfl)

theorem expired_made (path : String) (due : ExportCleanupService.isDue row now = true) {reference : Int} :
    Made path row (ExportCleanupService.expired row reference) := by
  refine .ends ?_ rfl (.inl rfl)
  obtain ⟨-, states⟩ := of_decide_eq_true due
  rw [not_or, not_or] at states
  simp [isOver, states.1, states.2.1]

end Transactions

/-! ## What a commit makes of the job -/

/-- The job is over, or it has the path of its file. -/
def Tracked (path : String) (job : ExportJob) : Prop := isOver job = true ∨ job.outputPath = some path

structure JobSound (path : String) (job : ExportJob) : Prop where
  paths : ∀ other, job.outputPath = some other → other = path
  completed : job.state = .completed → job.outputPath = some path

/-- A row that was read, and the job as it is now. -/
structure RowSound (path : String) (job row : ExportJob) : Prop where
  id : row.id = job.id
  expiresAt : row.expiresAt = job.expiresAt
  paths : ∀ other, row.outputPath = some other → other = path ∧ Tracked path job
  completed : row.state = .completed → row.outputPath = some path
  gone : isOver row = true → job.state = row.state
  ended : Ended row.state → Ended job.state

/-- How a job may change. -/
structure Moves (path : String) (job job' : ExportJob) : Prop where
  id : job'.id = job.id
  expiresAt : job'.expiresAt = job.expiresAt
  gone : isOver job = true → job'.state = job.state
  completed : job.state = .completed → Ended job'.state
  tracked : Tracked path job → Tracked path job'

section Moves

variable {path : String} {job job' row new : ExportJob}

theorem isOver_iff {job : ExportJob} : isOver job = true ↔ job.state = .cancelled ∨ job.state = .expired := decide_eq_true_iff

theorem isOver_of_state {job other : ExportJob} (same : job.state = other.state) : isOver job = isOver other := by
  simp [isOver, same]

theorem JobSound.readable (sound : JobSound path job) : RowSound path job job :=
  ⟨rfl, rfl, fun other there => by
    have same := sound.paths other there
    exact ⟨same, .inr (same ▸ there)⟩, sound.completed, fun _ => rfl, fun ended => ended⟩

theorem Moves.refl (job : ExportJob) : Moves path job job := ⟨rfl, rfl, fun _ => rfl, .inl, fun tracked => tracked⟩

theorem Moves.ended (moves : Moves path job job') (ended : Ended job.state) : Ended job'.state := by
  rcases ended with completed | gone
  · exact moves.completed completed
  · rw [moves.gone (isOver_iff.mpr gone)]
    exact .inr gone

theorem RowSound.moves (sound : RowSound path job row) (moves : Moves path job job') : RowSound path job' row where
  id := sound.id.trans moves.id.symm
  expiresAt := sound.expiresAt.trans moves.expiresAt.symm
  paths other there := ⟨(sound.paths other there).1, moves.tracked (sound.paths other there).2⟩
  completed := sound.completed
  gone gone := by
    have same := sound.gone gone
    rw [moves.gone (by rw [isOver_of_state same]; exact gone), same]
  ended ended := moves.ended (sound.ended ended)

theorem not_over_of_current (current : Ended job.state → row.state = job.state) (before : isOver row = false) :
    isOver job = false := by
  cases gone : isOver job with
  | false => rfl
  | true =>
    rw [← isOver_of_state (current (ended_of_isOver gone)), before] at gone
    cases gone

/-- The path after a commit that sets it. -/
theorem flush_path (sound : RowSound path job row) (before : isOver job = false) (there : new.outputPath = some path) :
    (row.flush new job).outputPath = some path := by
  show written row.outputPath new.outputPath job.outputPath = some path
  unfold written
  split
  · next same =>
    rcases (sound.paths path (same ▸ there)).2 with gone | isPath
    · rw [before] at gone
      cases gone
    · exact isPath
  · exact there

theorem flush_same_path (same : new.outputPath = row.outputPath) : (row.flush new job).outputPath = job.outputPath := by
  show written row.outputPath new.outputPath job.outputPath = job.outputPath
  rw [same, written_unchanged]

theorem flush_completed (sound : RowSound path job row) (current : Ended job.state → row.state = job.state)
    (before : isOver row = false) (done : new.state = .completed) : (row.flush new job).state = .completed := by
  show written row.state new.state job.state = .completed
  unfold written
  split
  · next same =>
    rcases sound.ended (.inl (same.symm.trans done)) with completed | gone
    · exact completed
    · have isOpen := not_over_of_current current before
      rw [isOver_iff.mpr gone] at isOpen
      cases isOpen
  · exact done

/-- A commit of a current row. -/
theorem flush_moves (jobSound : JobSound path job) (sound : RowSound path job row)
    (current : Ended job.state → row.state = job.state) (made : Made path row new)
    (notCompleted : new.state = .failed → job.state ≠ .completed) :
    Moves path job (row.flush new job) ∧ JobSound path (row.flush new job) := by
  have state : (row.flush new job).state = written row.state new.state job.state := rfl
  cases made with
  | nothing sameState samePath ended =>
    have stays : (row.flush new job).state = job.state := by rw [state, sameState, written_unchanged]
    have path_ := @flush_same_path job row new samePath
    refine ⟨⟨rfl, rfl, fun _ => stays, fun completed => .inl (stays.trans completed), ?_⟩, ?_, ?_⟩
    · unfold Tracked
      rw [isOver_of_state stays, path_]
      exact fun tracked => tracked
    · rw [path_]
      exact jobSound.paths
    · rw [stays, path_]
      exact jobSound.completed
  | ends before over_ cleared =>
    have isOpen := not_over_of_current current before
    have differs : new.state ≠ row.state := fun same => by
      rw [isOver_of_state same, before] at over_
      cases over_
    have becomes : (row.flush new job).state = new.state := by rw [state, written, if_neg differs]
    have gone : isOver (row.flush new job) = true := by rw [isOver_of_state becomes, over_]
    refine ⟨⟨rfl, rfl, fun over' => ?_, fun _ => ended_of_isOver gone, fun _ => .inl gone⟩, ?_, fun completed => ?_⟩
    · rw [isOpen] at over'
      cases over'
    · intro other there
      rcases written_cases row.outputPath new.outputPath job.outputPath with result | result
      · have fromNew : new.outputPath = some other := result.symm.trans there
        rcases cleared with isNone | same
        · rw [isNone] at fromNew
          cases fromNew
        · exact (sound.paths other (same.symm.trans fromNew)).1
      · exact jobSound.paths other (result.symm.trans there)
    · rcases isOver_iff.mp gone with other | other <;> rw [completed] at other <;> cases other
  | runs before notDone running there =>
    have isOpen := not_over_of_current current before
    have path_ := flush_path sound isOpen there
    refine ⟨⟨rfl, rfl, fun over' => ?_, fun completed => ?_, fun _ => .inr path_⟩, ?_, fun _ => path_⟩
    · rw [isOpen] at over'
      cases over'
    · exact absurd ((current (.inl completed)).trans completed) notDone
    · intro other isOther
      exact Option.some.inj (isOther.symm.trans path_)
  | completes before done there =>
    have isOpen := not_over_of_current current before
    have path_ := flush_path sound isOpen there
    have completed := flush_completed sound current before done
    refine ⟨⟨rfl, rfl, fun over' => ?_, fun _ => .inl completed, fun _ => .inr path_⟩, ?_, fun _ => path_⟩
    · rw [isOpen] at over'
      cases over'
    · intro other isOther
      exact Option.some.inj (isOther.symm.trans path_)
  | fails before failed samePath =>
    have isOpen := not_over_of_current current before
    have path_ := @flush_same_path job row new samePath
    refine ⟨⟨rfl, rfl, fun over' => ?_, fun completed => absurd completed (notCompleted failed), ?_⟩, ?_, fun completed => ?_⟩
    · rw [isOpen] at over'
      cases over'
    · rintro (gone | isPath)
      · rw [isOpen] at gone
        cases gone
      · exact .inr (path_.trans isPath)
    · rw [path_]
      exact jobSound.paths
    · rw [path_]
      refine jobSound.completed ?_
      rcases written_cases row.state new.state job.state with result | result
      · rw [state, result, failed] at completed
        cases completed
      · exact result.symm.trans completed

end Moves

/-! ## The invariant -/

def PhaseSound (path : String) (job : ExportJob) : ExportPhase → Prop
  | .preparing row _ | .marking _ row => RowSound path job row
  | .planned plan => plan.outputPath = path ∧ Tracked path job
  | .rendered _ result => result.outputPath = path ∧ Tracked path job
  | .completing result row => result.outputPath = path ∧ RowSound path job row
  | .committing row new => RowSound path job row ∧ ∃ discards, Decided path row new discards
  | _ => True

def RequestSound (path : String) (job : ExportJob) : RequestPhase → Prop
  | .cancelling row => RowSound path job row
  | .cleaning row _ => RowSound path job row ∧ ∃ reference, ExportCleanupService.isDue row reference = true
  | _ => True

/-- The execution has yet to decide about its file. -/
def Undecided : ExportPhase → Prop
  | .rendered .. | .completing .. => True
  | _ => False

/-- The execution answers for the file. -/
def Holds : ExportPhase → Prop
  | .rendered .. | .completing .. => True
  | .committing _ new => new.state = .completed
  | _ => False

/-- The execution is under way, and its next commit leaves the job not running. -/
def Working : ExportPhase → Prop
  | .planned _ | .rendered .. | .completing .. | .committing .. | .failing _ => True
  | .marking _ row => row.state ≠ .failed
  | _ => False

/-- The path of the file of the job. -/
def ExportWorld.path (cacheDir : String) (world : ExportWorld) : String := outputPath cacheDir world.job.id

structure Base (cacheDir : String) (world : ExportWorld) : Prop where
  job : JobSound (world.path cacheDir) world.job
  phases : ∀ execution, PhaseSound (world.path cacheDir) world.job (world.phase execution)
  requests : ∀ request, RequestSound (world.path cacheDir) world.job (world.request request)

/-- Somebody answers for a file that is there. -/
structure Filed (cacheDir : String) (world : ExportWorld) : Prop where
  file : world.file = true → (∃ execution, Holds (world.phase execution)) ∨ world.job.state = .completed ∨
    ∃ request, world.request request = .unlinking (some (world.path cacheDir))
  settled : ∀ execution row new, world.phase execution = .committing row new → isOver row = false → new.state = .expired →
    world.job.expiresAt ≤ world.clock ∧ (world.file = true → ∃ other, Undecided (world.phase other))

/-- A job that is running is worked on. -/
def Attended (world : ExportWorld) : Prop :=
  world.job.state = .running → ∃ execution, Working (world.phase execution)

section Invariant

variable {env : PlaybackEnv} {cacheDir : String} {world world' : ExportWorld} {execution request : Nat}

theorem PhaseSound.moves {path : String} {job job' : ExportJob} {phase : ExportPhase} (sound : PhaseSound path job phase)
    (moves : Moves path job job') : PhaseSound path job' phase := by
  cases phase with
  | preparing row now => exact RowSound.moves sound moves
  | marking code row => exact RowSound.moves sound moves
  | planned plan => exact ⟨sound.1, moves.tracked sound.2⟩
  | rendered plan result => exact ⟨sound.1, moves.tracked sound.2⟩
  | completing result row => exact ⟨sound.1, RowSound.moves sound.2 moves⟩
  | committing row new => exact ⟨RowSound.moves sound.1 moves, sound.2⟩
  | _ => trivial

theorem RequestSound.moves {path : String} {job job' : ExportJob} {phase : RequestPhase} (sound : RequestSound path job phase)
    (moves : Moves path job job') : RequestSound path job' phase := by
  cases phase with
  | cancelling row => exact RowSound.moves sound moves
  | cleaning row reference => exact ⟨RowSound.moves sound.1 moves, sound.2⟩
  | _ => trivial

theorem Decided.not_completed {path : String} {job row new : ExportJob} {discards : Bool} (decided : Decided path row new discards)
    (sound : RowSound path job row) (failed : new.state = .failed) : job.state ≠ .completed := by
  cases decided with
  | nothing gone same =>
    subst same
    rw [sound.gone gone, failed]
    simp
  | expires _ state | completes _ state =>
    rw [failed] at state
    cases state

theorem Base.at (base : Base cacheDir world) {phase : ExportPhase} (at_ : world.phase execution = phase) :
    PhaseSound (world.path cacheDir) world.job phase := at_ ▸ base.phases execution

theorem Base.requested (base : Base cacheDir world) {phase : RequestPhase} (at_ : world.request request = phase) :
    RequestSound (world.path cacheDir) world.job phase := at_ ▸ base.requests request

theorem Base.entering (base : Base cacheDir world) {phase : ExportPhase} {file : Bool}
    (ok : PhaseSound (world.path cacheDir) world.job phase) :
    Base cacheDir { world.entering execution phase with file } := by
  refine ⟨base.job, fun other => ?_, base.requests⟩
  show PhaseSound (world.path cacheDir) world.job (Function.update world.phase execution phase other)
  rw [Function.update_apply]
  split
  · exact ok
  · exact base.phases other

theorem Base.asking (base : Base cacheDir world) {phase : RequestPhase} {file : Bool}
    (ok : RequestSound (world.path cacheDir) world.job phase) :
    Base cacheDir { world.asking request phase with file } := by
  refine ⟨base.job, base.phases, fun other => ?_⟩
  show RequestSound (world.path cacheDir) world.job (Function.update world.request request phase other)
  rw [Function.update_apply]
  split
  · exact ok
  · exact base.requests other

theorem Base.flush (base : Base cacheDir world) {row new : ExportJob} (sound : RowSound (world.path cacheDir) world.job row)
    (current : Current world row) (made : Made (world.path cacheDir) row new)
    (notCompleted : new.state = .failed → world.job.state ≠ .completed) :
    Moves (world.path cacheDir) world.job (world.flush row new).job ∧ Base cacheDir (world.flush row new) := by
  obtain ⟨moves, job⟩ := flush_moves base.job sound current made notCompleted
  exact ⟨moves, job, fun other => (base.phases other).moves moves, fun other => (base.requests other).moves moves⟩

/-- What a commit reads, and what it makes of it. -/
theorem Base.commits {action : ExportAction} (base : Base cacheDir world) (step : ExportStep env cacheDir world action world')
    (undisturbed : Undisturbed world action) :
    Moves (world.path cacheDir) world.job world'.job ∧ Base cacheDir world' := by
  have still (same : world'.job = world.job) : Moves (world.path cacheDir) world.job world'.job := same ▸ .refl _
  cases step with
  | wait later => exact ⟨still rfl, base.job, base.phases, base.requests⟩
  | begin idle before => exact ⟨still rfl, base.entering base.job.readable⟩
  | @prepare execution db row new now plan at_ done =>
    have sound : RowSound (world.path cacheDir) world.job row := base.at at_
    obtain ⟨made, -, notCompleted, -, planned⟩ := prepare_made done
    simp only [Undisturbed, at_] at undisturbed
    rw [sound.id] at made planned
    obtain ⟨moves, flushed⟩ := base.flush sound undisturbed made fun failed completed =>
      notCompleted failed ((undisturbed (.inl completed)).trans completed)
    refine ⟨moves, flushed.entering ?_⟩
    cases plan with
    | none => trivial
    | some plan =>
      obtain ⟨isPath, there, before⟩ := planned plan rfl
      exact ⟨isPath, .inr (flush_path sound (not_over_of_current undisturbed before) there)⟩
  | render at_ there => exact ⟨still rfl, base.entering ⟨there.trans (base.at at_).1, (base.at at_).2⟩⟩
  | renderFails code at_ => exact ⟨still rfl, base.entering trivial⟩
  | readToComplete at_ => exact ⟨still rfl, base.entering ⟨(base.at at_).1, base.job.readable⟩⟩
  | decide at_ =>
    obtain ⟨isPath, sound⟩ := base.at at_
    exact ⟨still rfl, base.entering ⟨sound, _, isPath ▸ (complete_decided _).1⟩⟩
  | complete at_ =>
    obtain ⟨sound, _, decided⟩ := base.at at_
    simp only [Undisturbed, at_] at undisturbed
    obtain ⟨moves, flushed⟩ := base.flush sound undisturbed decided.made fun failed =>
      decided.not_completed sound failed
    exact ⟨moves, flushed.entering trivial⟩
  | readToMark at_ => exact ⟨still rfl, base.entering base.job.readable⟩
  | markFailed at_ =>
    simp only [Undisturbed, at_] at undisturbed
    obtain ⟨moves, flushed⟩ := base.flush (base.at at_) undisturbed.1 (markFailed_made _ _) fun _ => undisturbed.2
    exact ⟨moves, flushed.entering trivial⟩
  | stop => exact ⟨still rfl, base.entering trivial⟩
  | cancel idle => exact ⟨still rfl, base.asking base.job.readable⟩
  | @commitCancel request row at_ =>
    have sound : RowSound (world.path cacheDir) world.job row := base.requested at_
    simp only [Undisturbed, at_] at undisturbed
    obtain ⟨moves, flushed⟩ := base.flush sound undisturbed (cancel_made _) fun failed => by
      unfold ExportService.cancel at failed
      split at failed
      · next gone =>
        have stillFailed : row.state = .failed := failed
        rw [sound.gone gone, stillFailed]
        simp
      · cases failed
    exact ⟨moves, flushed.asking trivial⟩
  | clean idle before due => exact ⟨still rfl, base.asking ⟨base.job.readable, _, due⟩⟩
  | commitClean at_ =>
    obtain ⟨sound, _, due⟩ := base.requested at_
    simp only [Undisturbed, at_] at undisturbed
    obtain ⟨moves, flushed⟩ := base.flush sound undisturbed (expired_made _ due) fun failed => by cases failed
    exact ⟨moves, flushed.asking trivial⟩
  | unlink at_ => exact ⟨still rfl, base.asking trivial⟩
  | abandon => exact ⟨still rfl, base.asking trivial⟩

/-! ## Files -/

theorem exists_update {p : ExportPhase → Prop} {phase : ExportPhase} (before : ∃ other, p (world.phase other))
    (kept : p (world.phase execution) → p phase) : ∃ other, p (Function.update world.phase execution phase other) := by
  obtain ⟨other, holds⟩ := before
  by_cases same : other = execution
  · subst same
    exact ⟨other, by rw [Function.update_self]; exact kept holds⟩
  · exact ⟨other, by rw [Function.update_of_ne same]; exact holds⟩

theorem request_update {phase : RequestPhase} {path : Option String}
    (before : ∃ other, world.request other = .unlinking path) (isOther : world.request request ≠ .unlinking path) :
    ∃ other, Function.update world.request request phase other = .unlinking path := by
  obtain ⟨other, unlinks⟩ := before
  have differs : other ≠ request := fun same => isOther (by rw [← same]; exact unlinks)
  exact ⟨other, (Function.update_of_ne differs _ _).trans unlinks⟩

/-- An execution that goes on without a change of the file or the job. -/
theorem Filed.entering (filed : Filed cacheDir world) {phase : ExportPhase} (held : Holds (world.phase execution) → Holds phase)
    (undecided : Undecided (world.phase execution) → Undecided phase)
    (settles : ∀ row new, phase = .committing row new → isOver row = false → new.state ≠ .expired) :
    Filed cacheDir (world.entering execution phase) := by
  refine ⟨fun there => ?_, fun other row new at_ before expired => ?_⟩
  · exact (filed.file there).imp_left fun holder => exists_update holder held
  · simp only [ExportWorld.entering, Function.update_apply] at at_
    split at at_
    · exact absurd expired (settles row new at_ before)
    · obtain ⟨late, others⟩ := filed.settled other row new at_ before expired
      exact ⟨late, fun there => exists_update (others there) undecided⟩

theorem Filed.asking (filed : Filed cacheDir world) {phase : RequestPhase}
    (isOther : world.request request ≠ .unlinking (some (world.path cacheDir))) :
    Filed cacheDir (world.asking request phase) := by
  refine ⟨fun there => ?_, filed.settled⟩
  exact (filed.file there).imp_right fun rest => rest.imp_right fun unlinks => request_update unlinks isOther

/-- A commit that leaves a completed job so, or somebody else to answer for the file. -/
theorem Filed.flush (filed : Filed cacheDir world) {row new : ExportJob}
    (moves : Moves (world.path cacheDir) world.job (world.flush row new).job)
    (stays : world.job.state = .completed → (world.flush row new).job.state = .completed) :
    Filed cacheDir (world.flush row new) := by
  refine ⟨fun there => ?_, fun other row' new' at_ before expired => ?_⟩
  · exact (filed.file there).imp_right fun rest => rest.imp_left stays
  · obtain ⟨late, others⟩ := filed.settled other row' new' at_ before expired
    exact ⟨moves.expiresAt ▸ late, others⟩

/-- A request that ends the job is going to take away the file of a job that was completed. -/
theorem Filed.ends (filed : Filed cacheDir world) {row new : ExportJob} {phase : RequestPhase}
    (moves : Moves (world.path cacheDir) world.job (world.flush row new).job) (at_ : world.request request = phase)
    (isOther : phase ≠ .unlinking (some (world.path cacheDir))) (sound : RowSound (world.path cacheDir) world.job row)
    (current : Current world row) : Filed cacheDir ((world.flush row new).asking request (.unlinking row.outputPath)) := by
  refine ⟨fun there => ?_, fun other row' new' at' before expired => ?_⟩
  · rcases filed.file there with holder | completed | unlinks
    · exact .inl holder
    · have sameState := (current (.inl completed)).trans completed
      refine .inr (.inr ⟨request, ?_⟩)
      simp only [ExportWorld.asking, Function.update_self]
      exact congrArg RequestPhase.unlinking (sound.completed sameState)
    · exact .inr (.inr (request_update unlinks (at_ ▸ isOther)))
  · obtain ⟨late, others⟩ := filed.settled other row' new' at' before expired
    exact ⟨moves.expiresAt ▸ late, others⟩

theorem Filed.step {action : ExportAction} (base : Base cacheDir world) (filed : Filed cacheDir world)
    (step : ExportStep env cacheDir world action world') (undisturbed : Undisturbed world action) : Filed cacheDir world' := by
  have moved := (base.commits step undisturbed).1
  cases step with
  | wait later =>
    refine ⟨filed.file, fun other row new at_ before expired => ?_⟩
    obtain ⟨late, others⟩ := filed.settled other row new at_ before expired
    exact ⟨late.trans later, others⟩
  | begin idle before => exact filed.entering (by simp [idle, Holds]) (by simp [idle, Undecided]) (by simp)
  | @prepare execution db row new now plan at_ done =>
    simp only [Undisturbed, at_] at undisturbed
    have flushed : Filed cacheDir (world.flush row new) := by
      refine filed.flush moved fun completed => ?_
      have same := (prepare_made done).2.1 ((undisturbed (.inl completed)).trans completed)
      subst same
      exact (written_unchanged _ _).trans completed
    refine @Filed.entering cacheDir (world.flush row new) execution flushed _ ?_ ?_ ?_
    · intro held
      rw [show (world.flush row new).phase execution = _ from at_] at held
      exact held.elim
    · intro undecided
      rw [show (world.flush row new).phase execution = _ from at_] at undecided
      exact undecided.elim
    · cases plan <;> simp
  | @render execution plan result at_ there =>
    refine ⟨fun _ => .inl ⟨execution, by simp [ExportWorld.entering, Holds]⟩, fun other row new at' before expired => ?_⟩
    simp only [ExportWorld.entering, Function.update_apply] at at'
    split at at'
    · cases at'
    · obtain ⟨late, -⟩ := filed.settled other row new at' before expired
      exact ⟨late, fun _ => ⟨execution, by simp [ExportWorld.entering, Undecided]⟩⟩
  | renderFails code at_ => exact filed.entering (by simp [at_, Holds]) (by simp [at_, Undecided]) (by simp)
  | readToComplete at_ => exact filed.entering (fun _ => trivial) (fun _ => trivial) (by simp)
  | @decide execution result row at_ =>
    obtain ⟨decided, expiry, early⟩ := @complete_decided row world.clock result
    have sameExpiry : row.expiresAt = world.job.expiresAt := (base.at at_).2.expiresAt
    cases discards : (complete row result world.clock).2 with
    | true =>
      refine ⟨fun there => by simp [ExportWorld.entering, discards] at there, fun other row' new' at' before expired => ?_⟩
      refine ⟨?_, fun there => by simp [ExportWorld.entering, discards] at there⟩
      simp only [ExportWorld.entering, Function.update_apply] at at'
      split at at'
      · cases at'
        exact sameExpiry ▸ expiry expired before
      · exact (filed.settled other row' new' at' before expired).1
    | false =>
      have completes : (complete row result world.clock).1.state = .completed := by
        cases decided with
        | nothing _ _ isTrue | expires _ _ _ isTrue =>
          rw [discards] at isTrue
          cases isTrue
        | completes _ state => exact state
      refine ⟨fun _ => .inl ⟨execution, by simp [ExportWorld.entering, Holds, completes]⟩, fun other row' new' at' before expired => ?_⟩
      simp only [ExportWorld.entering, Function.update_apply] at at'
      split at at'
      · cases at'
        rw [completes] at expired
        cases expired
      · have late := (filed.settled other row' new' at' before expired).1
        exact absurd (early discards) (not_lt.mpr (sameExpiry ▸ late))
  | @complete execution row new at_ =>
    obtain ⟨sound, discards, decided⟩ := base.at at_
    simp only [Undisturbed, at_] at undisturbed
    have notUndecided : Undecided (world.phase execution) → Undecided .finished := by simp [at_, Undecided]
    refine ⟨fun there => ?_, fun other row' new' at' before expired => ?_⟩
    · cases decided with
      | nothing gone same =>
        subst same
        have stays : written new.state new.state world.job.state = world.job.state := written_unchanged _ _
        refine (filed.file there).imp (fun holder => exists_update holder fun held => ?_) fun rest => rest.imp_left stays.trans
        have completed : Holds (world.phase execution) := held
        rw [at_] at completed
        rcases isOver_iff.mp gone with other | other <;> rw [show new.state = .completed from completed] at other <;> cases other
      | expires before state cleared =>
        obtain ⟨other, undecided⟩ := exists_update ((filed.settled execution row new at_ before state).2 there) notUndecided
        refine .inl ⟨other, ?_⟩
        show Holds (Function.update world.phase execution .finished other)
        cases here : Function.update world.phase execution .finished other <;> simp_all [Undecided, Holds]
      | completes before state => exact .inr (.inl (flush_completed sound undisturbed before state))
    · simp only [ExportWorld.entering, Function.update_apply] at at'
      split at at'
      · cases at'
      · obtain ⟨late, others⟩ := filed.settled other row' new' at' before expired
        exact ⟨moved.expiresAt ▸ late, fun there => exists_update (others there) notUndecided⟩
  | readToMark at_ => exact filed.entering (by simp [at_, Holds]) (by simp [at_, Undecided]) (by simp)
  | @markFailed execution code row at_ =>
    simp only [Undisturbed, at_] at undisturbed
    have flushed := filed.flush moved fun completed => absurd completed undisturbed.2
    refine @Filed.entering cacheDir (world.flush row _) execution flushed _ ?_ ?_ (by simp)
    · intro held
      rw [show (world.flush row _).phase execution = _ from at_] at held
      exact held.elim
    · intro undecided
      rw [show (world.flush row _).phase execution = _ from at_] at undecided
      exact undecided.elim
  | @stop execution =>
    simp only [Undisturbed] at undisturbed
    refine filed.entering (fun held => ?_) (fun undecided => ?_) (by simp)
    · cases at_ : world.phase execution <;> simp_all [Holds]
    · cases at_ : world.phase execution <;> simp_all [Undecided]
  | cancel idle => exact filed.asking (by simp [idle])
  | @commitCancel request row at_ =>
    simp only [Undisturbed, at_] at undisturbed
    have same : (ExportService.cancel row world.clock).2 = row.outputPath := by
      unfold ExportService.cancel
      split <;> rfl
    rw [same]
    exact filed.ends moved at_ (by simp) (base.requested at_) undisturbed
  | clean idle before due => exact filed.asking (by simp [idle])
  | commitClean at_ =>
    simp only [Undisturbed, at_] at undisturbed
    exact filed.ends moved at_ (by simp) (base.requested at_).1 undisturbed
  | @unlink request path at_ =>
    by_cases own : path = some (world.path cacheDir)
    · refine ⟨fun there => ?_, fun other row new at' before expired => ?_⟩
      · simp [ExportWorld.asking, own, ExportWorld.path] at there
      · refine ⟨(filed.settled other row new at' before expired).1, fun there => ?_⟩
        simp [own, ExportWorld.path] at there
    · have stays := @Filed.asking cacheDir world request filed .finished (by simpa [at_] using own)
      have same : (world.file && path ≠ some (outputPath cacheDir world.job.id)) = world.file := by
        simpa [ExportWorld.path] using fun _ => own
      rw [same]
      exact stays
  | @abandon request =>
    simp only [Undisturbed] at undisturbed
    refine filed.asking fun unlinks => ?_
    rw [unlinks] at undisturbed
    exact undisturbed

/-! ## Running jobs -/

theorem Attended.entering (attended : Attended world) {phase : ExportPhase} {file : Bool}
    (kept : Working (world.phase execution) → world.job.state = .running → Working phase) :
    Attended { world.entering execution phase with file } :=
  fun running => exists_update (attended running) fun working => kept working running

/-- A commit that leaves the job not running, or leaves it alone. -/
theorem Attended.flush (attended : Attended world) {row new : ExportJob} {phase : ExportPhase}
    (runs : (world.flush row new).job.state = .running → Working phase ∨
      (world.job.state = .running ∧ ¬Working (world.phase execution))) :
    Attended ((world.flush row new).entering execution phase) := by
  intro running
  rcases runs running with working | ⟨before, idle⟩
  · exact ⟨execution, by simpa [ExportWorld.entering] using working⟩
  · exact exists_update (attended before) fun working => absurd working idle

/-- A row that was over when it was read. -/
theorem not_running_of_over {path : String} {job row : ExportJob} (sound : RowSound path job row) (gone : isOver row = true) :
    (row.flush row job).state ≠ .running := by
  have stays : (row.flush row job).state = job.state := written_unchanged _ _
  rw [stays, sound.gone gone]
  rcases isOver_iff.mp gone with state | state <;> simp [state]

theorem written_ne {read new current state : ExportState} (differs : new ≠ read) (isOther : new ≠ state) :
    written read new current ≠ state := by
  rw [written, if_neg differs]
  exact isOther

theorem Attended.step {action : ExportAction} (base : Base cacheDir world) (attended : Attended world)
    (step : ExportStep env cacheDir world action world') (undisturbed : Undisturbed world action) : Attended world' := by
  cases step with
  | wait later => exact attended
  | begin idle before => exact attended.entering (by simp [idle, Working])
  | @prepare execution db row new now plan at_ done =>
    refine attended.flush fun running => ?_
    obtain ⟨-, -, -, ends, -⟩ := prepare_made done
    cases plan with
    | some plan => exact .inl trivial
    | none =>
      refine .inr ⟨?_, by simp [at_, Working]⟩
      rcases written_cases row.state new.state world.job.state with result | result
      · exact absurd (result.symm.trans running) (ends rfl)
      · exact result.symm.trans running
  | render at_ there => exact attended.entering fun _ _ => trivial
  | renderFails code at_ => exact attended.entering fun _ _ => trivial
  | readToComplete at_ => exact attended.entering fun _ _ => trivial
  | decide at_ => exact attended.entering fun _ _ => trivial
  | @complete execution row new at_ =>
    obtain ⟨sound, discards, decided⟩ := base.at at_
    simp only [Undisturbed, at_] at undisturbed
    refine attended.flush fun running => absurd running ?_
    cases decided with
    | nothing gone same =>
      subst same
      exact not_running_of_over sound gone
    | expires before state =>
      refine written_ne (fun same => ?_) (by simp [state])
      rw [isOver_iff.mpr (.inr (same.symm.trans state))] at before
      cases before
    | completes before state =>
      have completed := flush_completed sound undisturbed before state
      intro running
      cases completed.symm.trans running
  | readToMark at_ =>
    refine attended.entering fun _ running => ?_
    show world.job.state ≠ .failed
    simp [running]
  | @markFailed execution code row at_ =>
    have sound : RowSound (world.path cacheDir) world.job row := base.at at_
    refine attended.flush fun running => ?_
    unfold ExportExecutionService.markFailed at running
    split at running
    · next gone => exact absurd running (not_running_of_over sound gone)
    · by_cases wasFailed : row.state = .failed
      · refine .inr ⟨?_, by simp [at_, Working, wasFailed]⟩
        have stays : written row.state .failed world.job.state = .running := running
        rwa [wasFailed, written_unchanged] at stays
      · exact absurd running (written_ne (Ne.symm wasFailed) (by simp))
  | @stop execution =>
    simp only [Undisturbed] at undisturbed
    refine attended.entering fun working _ => ?_
    cases at_ : world.phase execution <;> simp_all [Working]
  | cancel idle => exact attended
  | @commitCancel request row at_ =>
    have sound : RowSound (world.path cacheDir) world.job row := base.requested at_
    intro running
    refine absurd running ?_
    unfold ExportService.cancel
    split
    · next gone => exact not_running_of_over sound gone
    · next before =>
      refine written_ne (fun same => before ?_) (by simp)
      exact isOver_iff.mpr (.inl same.symm)
  | clean idle before due => exact attended
  | @commitClean request row reference at_ =>
    obtain ⟨-, _, due⟩ := base.requested at_
    intro running
    refine absurd running (written_ne (fun same => ?_) (by simp [ExportCleanupService.expired]))
    simp [ExportCleanupService.isDue, ← same, ExportCleanupService.expired] at due
  | unlink at_ => exact attended
  | abandon => exact attended

/-! ## Runs -/

structure Sound (cacheDir : String) (world : ExportWorld) : Prop where
  base : Base cacheDir world
  filed : Filed cacheDir world
  attended : Attended world

theorem Sound.step {action : ExportAction} (sound : Sound cacheDir world) (step : ExportStep env cacheDir world action world')
    (undisturbed : Undisturbed world action) : Sound cacheDir world' :=
  ⟨(sound.base.commits step undisturbed).2, sound.filed.step sound.base step undisturbed,
    sound.attended.step sound.base step undisturbed⟩

/-- A job that was created, and that nobody works on. -/
structure Initial (world : ExportWorld) : Prop where
  pending : world.job.state = .pending
  outputPath : world.job.outputPath = none
  file : world.file = false
  phase : world.phase = fun _ => .idle
  request : world.request = fun _ => .idle

theorem Initial.sound (initial : Initial world) : Sound cacheDir world := by
  obtain ⟨pending, noPath, file, phase, request⟩ := initial
  refine ⟨⟨⟨by simp [noPath], by simp [pending]⟩, ?_, ?_⟩, ⟨by simp [file], ?_⟩, by simp [Attended, pending]⟩
  · simp [phase, PhaseSound]
  · simp [request, RequestSound]
  · simp [phase]

abbrev UndisturbedRun (env : PlaybackEnv) (cacheDir : String) :=
  Run fun world action world' => ExportStep env cacheDir world action world' ∧ Undisturbed world action

/-- A final state stays; a job that is completed may yet be cancelled or expire. -/
structure Stays (before after : ExportJob) : Prop where
  gone : isOver before = true → after.state = before.state
  completed : before.state = .completed → Ended after.state

theorem Stays.moves {path : String} {before job job' : ExportJob} (stays : Stays before job) (moves : Moves path job job') :
    Stays before job' where
  gone gone := by
    have same := stays.gone gone
    rw [moves.gone (by rw [isOver_of_state same]; exact gone), same]
  completed completed := moves.ended (stays.completed completed)

theorem Sound.run {actions : List ExportAction} {before : ExportWorld} (sound : Sound cacheDir before)
    (run : UndisturbedRun env cacheDir before actions world) : Sound cacheDir world ∧ Stays before.job world.job :=
  @Run.invariant _ _ _ (fun world => Sound cacheDir world ∧ Stays before.job world.job)
    (fun _ _ _ kept step => ⟨kept.1.step step.1 step.2, kept.2.moves (kept.1.base.commits step.1 step.2).1⟩)
    _ _ _ run ⟨sound, ⟨fun _ => rfl, .inl⟩⟩

/-- Between its first commit and its last. -/
def UnderWay : ExportPhase → Prop
  | .idle | .preparing .. | .finished => False
  | _ => True

theorem Working.underWay {phase : ExportPhase} (working : Working phase) : UnderWay phase := by
  cases phase <;> first | trivial | exact working.elim

theorem Holds.underWay {phase : ExportPhase} (holds : Holds phase) : UnderWay phase := by
  cases phase <;> first | trivial | exact holds.elim

/-- In every run whose steps are undisturbed: what is cancelled or expired stays so, and what is
completed does not run or fail again; when no execution is under way, a file of a job that is
over is about to be taken away, and a job whose time has passed is over or due for the next
cleanup pass; and a pass that has taken it up leaves it expired. -/
theorem export_states_stay {start middle : ExportWorld} {actions later : List ExportAction} (initial : Initial start)
    (first : UndisturbedRun env cacheDir start actions middle) (second : UndisturbedRun env cacheDir middle later world) :
    Stays middle.job world.job ∧
      ((∀ execution, ¬UnderWay (world.phase execution)) →
        (isOver world.job = true → world.file = true →
          ∃ request, world.request request = .unlinking (some (world.path cacheDir))) ∧
        ∀ reference, world.job.expiresAt ≤ reference →
          isOver world.job = true ∨ ExportCleanupService.isDue world.job reference = true) ∧
      ∀ request row reference world', world.request request = .cleaning row reference →
        ExportStep env cacheDir world (.commitRequest request) world' → world'.job.state = .expired := by
  obtain ⟨sound, stays⟩ := (initial.sound.run first).1.run second
  refine ⟨stays, fun rests => ⟨fun gone there => ?_, fun reference late => ?_⟩, ?_⟩
  · rcases sound.filed.file there with ⟨execution, holds⟩ | completed | unlinks
    · exact absurd holds.underWay (rests execution)
    · rcases isOver_iff.mp gone with state | state <;> rw [completed] at state <;> cases state
    · exact unlinks
  · cases gone : isOver world.job with
    | true => exact .inl rfl
    | false =>
      refine .inr (decide_eq_true ⟨late, ?_⟩)
      rintro (expired | cancelled | running)
      · simp [isOver, expired] at gone
      · simp [isOver, cancelled] at gone
      · obtain ⟨execution, working⟩ := sound.attended running
        exact rests execution working.underWay
  · intro request row reference world' at_ step
    cases step with
    | commitCancel at' =>
      rw [at_] at at'
      cases at'
    | @commitClean _ row' reference' at' =>
      obtain ⟨-, _, due⟩ := sound.base.requested at'
      show written row'.state .expired world.job.state = .expired
      rw [written, if_neg]
      intro same
      simp [ExportCleanupService.isDue, ← same] at due

end Invariant

/-! ## A job that is cancelled while it is completed -/

def mediaEnv : PlaybackEnv :=
  { resolveRoot := some
    resolveWithin := fun root path => some (root ++ "/" ++ path)
    cachedFile := fun _ => none
    roundMs := fun micros => micros / 1000 }

def recordedDatabase : Database :=
  { storageTargets := ⟨[{ id := 5, type := .local, role := .recording, config := [("path", .str "/data")] }], by decide⟩
    locations := ⟨[{ id := 6, recordingSegmentId := 1, storageTargetId := 5, objectPath := "a.mp4", sizeBytes := 1 }], by decide⟩
    segments := ⟨[{ id := 1, cameraId := 3, startedAt := 0, endedAt := 10000000, durationMs := 10000
                    timingStatus := .final, timingSource := .nextSegmentBoundary }], by decide⟩ }

def requested : ExportWorld where
  job := { id := 1, cameraId := 3, requestedStartAt := 0, requestedEndAt := 10000000, expiresAt := 100000000 }
  clock := 20000000

theorem requested_initial : Initial requested := ⟨rfl, rfl, rfl, rfl, rfl⟩

def renderedResult : FfmpegExportResult where
  outputPath := outputPath "/cache" 1
  sizeBytes := 1
  durationMs := 10000
  codecMode := "copy"

/-- The execution reads the row, the job is cancelled, the execution writes that it is completed. -/
theorem cancelled_while_completing : ∃ first second middle world,
    Run (ExportStep mediaEnv "/cache") requested first middle ∧ Run (ExportStep mediaEnv "/cache") middle second world ∧
      isOver middle.job = true ∧ world.job.state = .completed :=
  ⟨_, _, _, _,
    .next (@ExportStep.begin _ _ _ 0 20000000 rfl (by decide)) <|
    .next (@ExportStep.prepare _ _ _ 0 recordedDatabase _ _ _ (some _) rfl rfl) <|
    .next (@ExportStep.render _ _ _ 0 _ renderedResult rfl rfl) <|
    .next (@ExportStep.readToComplete _ _ _ 0 _ _ rfl) <| .next (@ExportStep.decide _ _ _ 0 _ _ rfl) <|
    .next (@ExportStep.cancel _ _ _ 0 rfl) <| .next (@ExportStep.commitCancel _ _ _ 0 _ rfl) <| .done _,
    .next (@ExportStep.complete _ _ _ 0 _ _ rfl) <| .done _, rfl, rfl⟩

theorem export_leaves_cancelled : ¬∀ (env : PlaybackEnv) (cacheDir : String) (start middle world : ExportWorld)
    (actions later : List ExportAction), Initial start → Run (ExportStep env cacheDir) start actions middle →
    Run (ExportStep env cacheDir) middle later world → isOver middle.job = true → world.job.state = middle.job.state := by
  intro always
  obtain ⟨actions, later, middle, world, first, second, gone, completed⟩ := cancelled_while_completing
  have stays := always _ _ _ _ _ _ _ requested_initial first second gone
  rcases isOver_iff.mp gone with state | state <;> rw [completed, state] at stays <;> cases stays

/-- A completed job is cancelled, and its file taken away. -/
theorem cancelled_when_completed : ∃ first second middle world,
    UndisturbedRun mediaEnv "/cache" requested first middle ∧ UndisturbedRun mediaEnv "/cache" middle second world ∧
      middle.job.state = .completed ∧ middle.file = true ∧ isOver world.job = true ∧ world.file = false :=
  ⟨_, _, _, _,
    .next ⟨@ExportStep.begin _ _ _ 0 20000000 rfl (by decide), trivial⟩ <|
    .next ⟨@ExportStep.prepare _ _ _ 0 recordedDatabase _ _ _ (some _) rfl rfl, fun ended => ended.elim nofun (·.elim nofun nofun)⟩ <|
    .next ⟨@ExportStep.render _ _ _ 0 _ renderedResult rfl rfl, trivial⟩ <|
    .next ⟨@ExportStep.readToComplete _ _ _ 0 _ _ rfl, trivial⟩ <| .next ⟨@ExportStep.decide _ _ _ 0 _ _ rfl, trivial⟩ <|
    .next ⟨@ExportStep.complete _ _ _ 0 _ _ rfl, fun _ => rfl⟩ <| .done _,
    .next ⟨@ExportStep.cancel _ _ _ 0 rfl, trivial⟩ <| .next ⟨@ExportStep.commitCancel _ _ _ 0 _ rfl, fun _ => rfl⟩ <|
    .next ⟨@ExportStep.unlink _ _ _ 0 _ rfl, trivial⟩ <| .done _, rfl, rfl, rfl, rfl⟩

theorem export_states_stay_cancelled : ∃ middle world : ExportWorld, middle.job.state = .completed ∧ isOver world.job = true ∧
    world.file = false ∧ Stays middle.job world.job := by
  obtain ⟨actions, later, middle, world, first, second, completed, -, gone, noFile⟩ := cancelled_when_completed
  exact ⟨middle, world, completed, gone, noFile, (export_states_stay requested_initial first second).1⟩

end ZeroNvr.ExportStates
