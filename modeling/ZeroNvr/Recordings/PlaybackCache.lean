import ZeroNvr.Core.Time

/-! # Restoring a segment to the playback cache

An execution that restores a segment takes the lock file of the cached path, copies
the remote file, and takes the lock file away.  A lock file that is too old may be
taken over: its age is read, the file is unlinked, and a new one is created.
-/

namespace ZeroNvr

/-- The cached path, as it was restored or found; with the size of the file then. -/
structure PlaybackRestoreResult where
  restored : Bool := false
  alreadyCached : Bool := false
  inProgress : Bool := false
  size : Option Int := none
  deriving DecidableEq

/-- The lock file, and which execution created it. -/
structure RestoreLock where
  creator : Nat
  modifiedAt : Int
  deriving DecidableEq

/-- Where an execution is.  `since` is when it created its lock file. -/
inductive RestorePhase where
  | idle
  /-- The lock file exists; its age is to be read. -/
  | contended
  /-- The age was too high; the file is to be unlinked. -/
  | stale (creator : Nat)
  /-- The lock file is to be created again. -/
  | retaking
  | created (since : Int)
  | looking (since : Int)
  /-- The cached file has another size. -/
  | discarding (since : Int)
  | copying (since : Int)
  | copied (since : Int)
  | verified (since : Int)
  /-- The lock file is to be unlinked; no result stands for an exception. -/
  | closing (result : Option PlaybackRestoreResult)
  | finished (result : Option PlaybackRestoreResult)
  | dead
  deriving DecidableEq

namespace RestorePhase

/-- The restore is under way, since the lock file was created. -/
def working : RestorePhase → Option Int
  | created since | looking since | discarding since | copying since | copied since | verified since => some since
  | _ => none

/-- Between acquiring the lock and releasing it. -/
def holds (phase : RestorePhase) : Bool :=
  phase.working.isSome || match phase with
    | closing _ => true
    | _ => false

/-- The execution has ended. -/
def ended : RestorePhase → Bool
  | finished _ | dead => true
  | _ => false

def busy : RestorePhase := finished (some { inProgress := true })

end RestorePhase

/-- The files of a segment in the cache directory, and its executions. -/
structure RestoreWorld where
  clock : Int
  lock : Option RestoreLock := none
  partialSize : Option Int := none
  cachedSize : Option Int := none
  phase : Nat → RestorePhase := fun _ => .idle

inductive RestoreOperation where
  | create | writePid | readAge | unlinkStale | look | discard | copy (size : Int) | verify | place
  | release | fail | die

namespace PlaybackCacheService

/-- The size of the remote file, and the time after which a lock file may be taken over. -/
structure RestoreSettings where
  expectedSize : Int
  lockTtlSeconds : Nat

variable (settings : RestoreSettings) (world : RestoreWorld) (execution : Nat) (now : Int)

/-- The age of the lock file; a file that is gone counts as new. -/
def lockAge : Int :=
  match world.lock with
  | some lock => now - lock.modifiedAt
  | none => 0

def entering (phase : RestorePhase) : RestoreWorld :=
  { world with clock := now, phase := Function.update world.phase execution phase }

/-- `O_CREAT | O_EXCL`: the first failure leads to the age, the second ends the execution. -/
def create (again : Bool) : RestoreWorld :=
  match world.lock with
  | some _ => entering world execution now (if again then .busy else .contended)
  | none => { entering world execution now (.created now) with lock := some ⟨execution, now⟩ }

/-- Writing the process id touches the file that was created, if it still has its name. -/
def writePid (since : Int) : RestoreWorld :=
  { entering world execution now (.looking since) with
    lock := world.lock.map fun lock => if lock.creator = execution then { lock with modifiedAt := now } else lock }

def readAge : RestoreWorld :=
  match world.lock with
  | some lock =>
    entering world execution now (if lockAge world now ≤ seconds settings.lockTtlSeconds then .busy else .stale lock.creator)
  | none => entering world execution now .busy

/-- Whatever lock file has the name goes. -/
def unlinkStale : RestoreWorld := { entering world execution now .retaking with lock := none }

def look (since : Int) : RestoreWorld :=
  match world.cachedSize with
  | none => entering world execution now (.copying since)
  | some size =>
    entering world execution now
      (if size ≠ settings.expectedSize then .discarding since else .closing (some { alreadyCached := true, size := some size }))

def discard (since : Int) : RestoreWorld := { entering world execution now (.copying since) with cachedSize := none }

/-- The remote file is copied beside the cached path. -/
def copy (size since : Int) : RestoreWorld := { entering world execution now (.copied since) with partialSize := some size }

def verify (since : Int) : RestoreWorld :=
  if world.partialSize = some settings.expectedSize then entering world execution now (.verified since)
  else { entering world execution now (.closing none) with partialSize := none }

/-- `os.replace`; a file that is gone raises. -/
def place : RestoreWorld :=
  match world.partialSize with
  | none => entering world execution now (.closing none)
  | some size =>
    { entering world execution now (.closing (some { restored := true, size := some size })) with
      partialSize := none, cachedSize := some size }

/-- `lock.unlink` in `finally`: again, whatever has the name goes. -/
def release (result : Option PlaybackRestoreResult) : RestoreWorld :=
  { entering world execution now (.finished result) with lock := none }

/-- An operation of the file system or the copy fails. -/
def fail : RestorePhase → RestoreWorld
  | .contended | .stale _ => entering world execution now .busy
  | .looking since | .discarding since => entering world execution now (.copying since)
  | .copying _ | .copied _ | .verified _ => { entering world execution now (.closing none) with partialSize := none }
  | .closing _ => entering world execution now (.closing none)
  | _ => entering world execution now .dead

/-- What an operation makes of the world, where the execution has come to it. -/
def perform : RestoreOperation → RestorePhase → Option RestoreWorld
  | .create, .idle => some (create world execution now false)
  | .create, .retaking => some (create world execution now true)
  | .writePid, .created since => some (writePid world execution now since)
  | .readAge, .contended => some (readAge settings world execution now)
  | .unlinkStale, .stale _ => some (unlinkStale world execution now)
  | .look, .looking since => some (look settings world execution now since)
  | .discard, .discarding since => some (discard world execution now since)
  | .copy size, .copying since => some (copy world execution now size since)
  | .verify, .copied since => some (verify settings world execution now since)
  | .place, .verified _ => some (place world execution now)
  | .release, .closing result => some (release world execution now result)
  | .fail, phase => if phase.ended then none else some (fail world execution now phase)
  | .die, phase => if phase.ended then none else some (entering world execution now .dead)
  | _, _ => none

end PlaybackCacheService

end ZeroNvr
