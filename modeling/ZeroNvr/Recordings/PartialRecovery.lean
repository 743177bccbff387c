import ZeroNvr.Lib.Run
import ZeroNvr.Recordings.ReconciliationRun

/-! # The recovery of one hidden file, step by step

Reconcilers may work on the same hidden file at once, next to ZLM, which gives
the file its final name itself.  Each call on the disk is a step of its own,
may fail, and may be the last one its reconciler takes.
-/

namespace ZeroNvr

open Lib

/-- How far a reconciler is with the hidden file. -/
inductive PartialPhase where
  | idle
  | free
  | readable
  | linked
  | refused
  | moved
  | ended (outcome : Option ScanOutcome)
  | stopped

namespace PartialPhase

/-- The canonical name is the link this reconciler has made. -/
def holds : PartialPhase → Bool
  | linked => true
  | refused => true
  | _ => false

end PartialPhase

inductive PartialOperation where
  | look
  | read
  | link
  | unlinkHidden
  | unlinkDestination
  | catalog (targetId : Uuid) (root objectPath : String) (now : Int)
  | raises
  | stop

structure PartialWorld where
  db : Database
  files : MediaFiles
  phase : Nat → PartialPhase

namespace PartialWorld

/-- The reconciler goes on to the given phase. -/
def entering (world : PartialWorld) (execution : Nat) (phase : PartialPhase) : PartialWorld :=
  { world with phase := Function.update world.phase execution phase }

theorem phase_entering (world : PartialWorld) (execution : Nat) (phase : PartialPhase) :
    (world.entering execution phase).phase execution = phase := Function.update_self _ _ _

theorem files_entering (world : PartialWorld) (execution : Nat) (phase : PartialPhase) :
    (world.entering execution phase).files = world.files := rfl

theorem phase_entering_of_ne (world : PartialWorld) {execution other : Nat} (phase : PartialPhase)
    (differs : other ≠ execution) : (world.entering execution phase).phase other = world.phase other :=
  Function.update_of_ne differs _ _

end PartialWorld

namespace RecordingCatalogReconciliationService

variable (env : DiskEnv) (uuid4 : Supply Uuid) (path destination : String)

/-- What becomes of a reconciler whose call raises. -/
def raised : PartialPhase → Option PartialPhase
  | .idle => some (.ended none)
  | .free => some (.ended (some .error))
  | .readable => some (.ended (some .error))
  | .linked => some .refused
  | .refused => some (.ended (some .error))
  | .moved => some (.ended none)
  | .ended _ => none
  | .stopped => none

/-- `os.link`, and where its refusal leads. -/
def tryLink (world : PartialWorld) (execution : Nat) : PartialWorld :=
  match linkName env world.files path destination with
  | .ok files => { world with files }.entering execution .linked
  | .error .exists_ => world.entering execution (.ended (some .ambiguous))
  | .error .missing => world.entering execution (.ended (some .error))

/-- `path.unlink()`; a name that is gone is an error. -/
def tryUnlink (world : PartialWorld) (execution : Nat) : PartialWorld :=
  match world.files.unlink path with
  | some files => { world with files }.entering execution .moved
  | none => world.entering execution .refused

/-- One call of a reconciler of the hidden file. -/
def perform (world : PartialWorld) (execution : Nat) : PartialOperation → PartialPhase → Option PartialWorld
  | .look, .idle =>
    let exists_ := pathExists env world.files destination
    some (world.entering execution (if exists_ then .ended (some .ambiguous) else .free))
  | .read, .free =>
    let isReadable := readable env world.files path
    some (world.entering execution (if isReadable then .readable else .ended (some .error)))
  | .link, .readable => some (tryLink env path destination world execution)
  | .unlinkHidden, .linked => some (tryUnlink path world execution)
  | .unlinkDestination, .refused =>
    let files := (world.files.unlink destination).getD world.files
    some ({ world with files }.entering execution (.ended (some .error)))
  | .catalog targetId root objectPath now, .moved =>
    match recoverFile (env.at world.files) uuid4 world.db targetId root destination objectPath now
        "RECOVERY_INTERRUPTED" with
    | .ok (db, outcome) =>
      some ({ world with db }.entering execution (.ended (some outcome.scannedPartial)))
    | .error _ => some (world.entering execution (.ended none))
  | .raises, phase => (raised phase).map (world.entering execution)
  | .stop, phase => (raised phase).map fun _ => world.entering execution .stopped
  | _, _ => none

inductive PartialAction where
  | perform (execution : Nat) (operation : PartialOperation)
  | finalize
  | elsewhere

/-- Reconcilers take their steps; ZLM renames the file; everything else leaves both names. -/
inductive PartialStep : PartialWorld → PartialAction → PartialWorld → Prop
  | perform {world world' : PartialWorld} {execution : Nat} {operation : PartialOperation}
      (done : perform env uuid4 path destination world execution operation (world.phase execution) = some world') :
      PartialStep world (.perform execution operation) world'
  | finalize {world : PartialWorld} {files : MediaFiles} (notTaken : env.taken destination = false)
      (renamed : world.files.rename path destination = some files) :
      PartialStep world .finalize { world with files }
  | elsewhere {world : PartialWorld} {db : Database} {files : MediaFiles} (real : RealFiles env files)
      (samePath : files.inode? path = world.files.inode? path)
      (sameDestination : files.inode? destination = world.files.inode? destination) :
      PartialStep world .elsewhere { world with db, files }

variable {env uuid4 path destination}

/-- What a step of a reconciler may do to the names: nothing, make the link, take the hidden name away
    under the link, or take the link away again. -/
inductive Performed (env : DiskEnv) (path destination : String) (world : PartialWorld) (execution : Nat) (world' : PartialWorld) : Prop
  | same (files : world'.files = world.files)
      (phase : (world'.phase execution).holds = true → (world.phase execution).holds = true)
  | linked (free : world.files.inode? destination = none) (notTaken : env.taken destination = false) {inode : Nat}
      (isInode : world.files.inode? path = some inode)
      (names : ∀ name, world'.files.inode? name = if name = destination then some inode else world.files.inode? name)
  | unlinked (held : (world.phase execution).holds = true) (freed : (world'.phase execution).holds = false)
      (names : ∀ name, world'.files.inode? name = if name = path then none else world.files.inode? name)
  | undone (held : (world.phase execution).holds = true) (freed : (world'.phase execution).holds = false)
      (names : ∀ name, world'.files.inode? name = if name = destination then none else world.files.inode? name)

theorem tryLink_performed (world : PartialWorld) (execution : Nat) :
    Performed env path destination world execution (tryLink env path destination world execution) := by
  unfold tryLink
  split
  next files isLinked =>
    unfold linkName at isLinked
    split at isLinked
    next => cases isLinked
    next notBoth =>
      obtain ⟨free, inode, isInode, names⟩ := Directory.inode?_link isLinked
      refine .linked free ?_ isInode names
      rw [← Bool.not_eq_true]
      exact fun isTaken => notBoth ⟨by rw [isInode]; rfl, isTaken⟩
  next =>
    refine .same rfl fun holds => ?_
    rw [PartialWorld.phase_entering] at holds
    cases holds
  next =>
    refine .same rfl fun holds => ?_
    rw [PartialWorld.phase_entering] at holds
    cases holds

/-- A step that only takes the reconciler on. -/
theorem entering_performed {world : PartialWorld} {execution : Nat} (db : Database) {phase : PartialPhase}
    (holds : phase.holds = true → (world.phase execution).holds = true) :
    Performed env path destination world execution ({ world with db }.entering execution phase) := by
  refine .same rfl fun isHeld => holds ?_
  rw [PartialWorld.phase_entering] at isHeld
  exact isHeld

theorem tryUnlink_performed {world : PartialWorld} {execution : Nat} (isPhase : world.phase execution = .linked) :
    Performed env path destination world execution (tryUnlink path world execution) := by
  have held : (world.phase execution).holds = true := by rw [isPhase]; rfl
  unfold tryUnlink
  split
  next files isUnlinked =>
    obtain ⟨_, names⟩ := Directory.inode?_unlink isUnlinked
    exact .unlinked held (by rw [PartialWorld.phase_entering]; rfl) names
  next => exact entering_performed world.db fun _ => held

theorem undo_performed {world : PartialWorld} {execution : Nat} (isPhase : world.phase execution = .refused) :
    Performed env path destination world execution
      ({ world with files := (world.files.unlink destination).getD world.files }.entering execution
        (.ended (some .error))) := by
  have held : (world.phase execution).holds = true := by rw [isPhase]; rfl
  refine .undone held (by rw [PartialWorld.phase_entering]; rfl) fun name => ?_
  cases isUnlinked : world.files.unlink destination with
  | some files => exact (Directory.inode?_unlink isUnlinked).2 name
  | none =>
    change world.files.inode? name = _
    split
    next same => rw [same, Directory.unlink_eq_none isUnlinked]
    next => rfl

theorem raised_holds {phase phase' : PartialPhase} (isRaised : raised phase = some phase')
    (holds : phase'.holds = true) : phase.holds = true := by
  cases phase with
  | linked => rfl
  | idle | free | readable | refused | moved =>
    cases isRaised
    cases holds
  | ended | stopped => cases isRaised

theorem perform_cases {world world' : PartialWorld} {execution : Nat} {operation : PartialOperation}
    (done : perform env uuid4 path destination world execution operation (world.phase execution) = some world') :
    Performed env path destination world execution world' := by
  unfold perform at done
  split at done
  next isPhase =>
    cases done
    exact entering_performed world.db (by split <;> nofun)
  next isPhase =>
    cases done
    exact entering_performed world.db (by split <;> nofun)
  next isPhase =>
    cases done
    exact tryLink_performed world execution
  next isPhase =>
    cases done
    exact tryUnlink_performed isPhase
  next isPhase =>
    cases done
    exact undo_performed isPhase
  next isPhase =>
    split at done
    next db outcome _ =>
      cases done
      exact entering_performed db nofun
    next =>
      cases done
      exact entering_performed world.db nofun
  next =>
    obtain ⟨phase', isRaised, rfl⟩ := Option.map_eq_some_iff.mp done
    exact entering_performed world.db (raised_holds isRaised)
  next =>
    obtain ⟨phase', isRaised, rfl⟩ := Option.map_eq_some_iff.mp done
    exact entering_performed world.db nofun
  next => cases done

/-- A reconciler does not touch the phases of the others. -/
theorem perform_others {world world' : PartialWorld} {execution other : Nat} {operation : PartialOperation}
    (differs : other ≠ execution)
    (done : perform env uuid4 path destination world execution operation (world.phase execution) = some world') :
    world'.phase other = world.phase other := by
  unfold perform tryLink tryUnlink at done
  split at done
  all_goals first
    | (cases done; exact PartialWorld.phase_entering_of_ne _ _ differs)
    | (obtain ⟨_, _, rfl⟩ := Option.map_eq_some_iff.mp done
       exact PartialWorld.phase_entering_of_ne _ _ differs)
    | (split at done <;> cases done <;> exact PartialWorld.phase_entering_of_ne _ _ differs)
    | cases done

end RecordingCatalogReconciliationService

end ZeroNvr
