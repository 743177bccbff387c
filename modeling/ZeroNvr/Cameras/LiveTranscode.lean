import ZeroNvr.Core.Time
import ZeroNvr.Recordings.Runtime

/-! # Live transcoding

A stream that browsers cannot play is transcoded by one process for each profile, its
derivative.  Viewers hold leases on it.  Leases, and derivatives without one, end by
timers; a timer that is cancelled when it is due may still run its callback.
-/

namespace ZeroNvr

open Lib

abbrev ProcessId := Nat

structure LiveTranscodeError where
  code : String
  message : String
  statusCode : Nat := 503

inductive Acceleration where
  | cpu | nvenc | vaapi
  deriving DecidableEq

structure RuntimeTuningSettings where
  liveTranscodeMaxDerivatives : Nat
  liveTranscodeIdleTtlSeconds : Nat
  liveTranscodeLeaseTtlSeconds : Nat

structure LiveTranscodeLease where
  leaseId : Uuid
  reference : ZlmStreamReference
  acceleration : Acceleration

/-! ## Timers -/

inductive TimerCallback where
  | expireLease (leaseId : Uuid)
  | expireDerivative (key : Uuid)
  deriving DecidableEq

structure ExpiryTimer where
  id : Nat
  callback : TimerCallback
  dueAt : Int
  cancelledAt : Option Int := none
  fired : Bool := false

instance : Keyed ExpiryTimer Nat := ⟨ExpiryTimer.id⟩

/-- Only the first cancellation counts. -/
def ExpiryTimer.cancelled (timer : ExpiryTimer) (now : Int) : ExpiryTimer :=
  { timer with cancelledAt := timer.cancelledAt.or (some now) }

/-- The callback may run now: the time has passed, and no cancellation came before. -/
def ExpiryTimer.runs (timer : ExpiryTimer) (now : Int) : Bool :=
  ¬ timer.fired ∧ timer.dueAt ≤ now ∧ timer.cancelledAt.all fun cancelledAt => timer.dueAt ≤ cancelledAt

/-! ## The state of the manager -/

structure LeaseState where
  leaseId : Uuid
  cameraId : Uuid
  ownerUserId : Uuid
  key : Uuid
  timer : Option Nat := none

structure DerivativeState where
  key : Uuid
  reference : ZlmStreamReference
  process : ProcessId
  acceleration : Acceleration
  leases : Finset Uuid := ∅
  idleTimer : Option Nat := none

instance : Keyed LeaseState Uuid := ⟨LeaseState.leaseId⟩
instance : Keyed DerivativeState Uuid := ⟨DerivativeState.key⟩

structure LiveTranscodeManager where
  derivatives : Table DerivativeState := .empty
  leases : Table LeaseState := .empty
  acceleration : Option Acceleration := none
  timers : Table ExpiryTimer := .empty
  /-- The processes that were told to stop. -/
  stopped : List ProcessId := []

/-- What a call meets outside: the encoders found, and the processes. -/
structure TranscodeEnv where
  probe : Acceleration
  spawn : Acceleration → Option ProcessId
  waitOnline : ProcessId → Bool
  exited : ProcessId → Bool

namespace LiveTranscodeManager

variable (tuning : RuntimeTuningSettings) (env : TranscodeEnv)

def appName : String := "zero-nvr-compat"

def reference (profileId : Uuid) : ZlmStreamReference := ⟨appName, "h264-" ++ toString profileId⟩

def makeTimer (manager : LiveTranscodeManager) (ttlSeconds : Nat) (callback : TimerCallback) (now : Int) :
    LiveTranscodeManager × Nat :=
  ({ manager with timers := manager.timers.create .counting fun id => { id, callback, dueAt := now + seconds ttlSeconds } },
    manager.timers.newKey .counting)

def cancelTimer (manager : LiveTranscodeManager) (timer : Option Nat) (now : Int) : LiveTranscodeManager :=
  match timer with
  | none => manager
  | some id => { manager with timers := manager.timers.modify id fun timer => timer.cancelled now }

/-- A timer fires once. -/
def fire (manager : LiveTranscodeManager) (timer : ExpiryTimer) : LiveTranscodeManager :=
  { manager with timers := manager.timers.modify timer.id fun timer => { timer with fired := true } }

def scheduleLeaseExpiry (manager : LiveTranscodeManager) (leaseId : Uuid) (now : Int) : LiveTranscodeManager :=
  match manager.leases.get? leaseId with
  | none => manager
  | some lease =>
    let (manager, timer) := (manager.cancelTimer lease.timer now).makeTimer tuning.liveTranscodeLeaseTtlSeconds
      (.expireLease leaseId) now
    { manager with leases := manager.leases.modify leaseId fun lease => { lease with timer := some timer } }

def scheduleIdle (manager : LiveTranscodeManager) (key : Uuid) (entry : DerivativeState) (now : Int) :
    LiveTranscodeManager :=
  let (manager, timer) := (manager.cancelTimer entry.idleTimer now).makeTimer tuning.liveTranscodeIdleTtlSeconds
    (.expireDerivative key) now
  { manager with derivatives := manager.derivatives.modify key fun entry => { entry with idleTimer := some timer } }

/-- The timers of a derivative and of its leases. -/
def timersOf (manager : LiveTranscodeManager) (entry : DerivativeState) (timer : Nat) : Bool :=
  entry.idleTimer = some timer ∨
    manager.leases.rows.any fun lease => lease.leaseId ∈ entry.leases ∧ lease.timer = some timer

/-- The derivative goes with all its leases. -/
def dropEntry (manager : LiveTranscodeManager) (key : Uuid) (now : Int) :
    LiveTranscodeManager × Option DerivativeState :=
  match manager.derivatives.get? key with
  | none => (manager, none)
  | some entry =>
    ({ manager with
        derivatives := manager.derivatives.remove key
        leases := manager.leases.keep fun lease => lease.leaseId ∉ entry.leases
        timers := manager.timers.mapRows
          (fun timer => if manager.timersOf entry timer.id then timer.cancelled now else timer)
          fun timer => by split <;> rfl },
      some entry)

def stopProcess (manager : LiveTranscodeManager) (process : ProcessId) : LiveTranscodeManager :=
  if env.exited process then manager else { manager with stopped := manager.stopped ++ [process] }

/-- The derivative is dropped, and its process told to stop. -/
def dropAndStop (manager : LiveTranscodeManager) (key : Uuid) (now : Int) : LiveTranscodeManager :=
  match manager.dropEntry key now with
  | (manager, none) => manager
  | (manager, some removed) => manager.stopProcess env removed.process

/-! ## Starting a derivative -/

def startAttempts (key : Uuid) : List Acceleration → LiveTranscodeManager →
    Except LiveTranscodeError DerivativeState × LiveTranscodeManager
  | [], manager =>
    (.error ⟨"live_transcode_start_failed", "Compatibility transcode did not become ready.", 502⟩, manager)
  | acceleration :: rest, manager =>
    match env.spawn acceleration with
    | none =>
      (.error { code := "live_transcode_spawn_failed", message := "Compatibility transcode could not be started." },
        manager)
    | some process =>
      if env.waitOnline process then (.ok { key, reference := reference key, process, acceleration }, manager)
      else startAttempts key rest (manager.stopProcess env process)

/-- The encoders are probed once. -/
def probed (manager : LiveTranscodeManager) : LiveTranscodeManager × Acceleration :=
  match manager.acceleration with
  | some acceleration => (manager, acceleration)
  | none => ({ manager with acceleration := some env.probe }, env.probe)

def startDerivative (manager : LiveTranscodeManager) (key : Uuid) :
    Except LiveTranscodeError DerivativeState × LiveTranscodeManager :=
  let (manager, preferred) := manager.probed env
  startAttempts env key (if preferred ≠ .cpu then [preferred, .cpu] else [.cpu]) manager

/-! ## Capacity -/

/-- The derivatives whose process has exited are dropped. -/
def dropExited (now : Int) : List DerivativeState → LiveTranscodeManager → LiveTranscodeManager
  | [], manager => manager
  | entry :: rest, manager =>
    dropExited now rest (if env.exited entry.process then (manager.dropEntry entry.key now).1 else manager)

/-- Derivatives without a lease are stopped, one after the other, until there is room. -/
def dropIdle (now : Int) : List DerivativeState → LiveTranscodeManager → LiveTranscodeManager
  | [], manager => manager
  | entry :: rest, manager =>
    let dropped := manager.dropAndStop env entry.key now
    if dropped.derivatives.rows.length < tuning.liveTranscodeMaxDerivatives then dropped
    else dropIdle now rest dropped

def freeIdleCapacity (manager : LiveTranscodeManager) (now : Int) : LiveTranscodeManager :=
  let reaped := dropExited env now manager.derivatives.rows manager
  if reaped.derivatives.rows.length < tuning.liveTranscodeMaxDerivatives then reaped
  else dropIdle tuning env now (reaped.derivatives.select fun entry => entry.leases = ∅) reaped

/-! ## Leases -/

/-- A new lease on the derivative. -/
def grant (manager : LiveTranscodeManager) (entry : DerivativeState) (leaseId cameraId ownerUserId : Uuid) (now : Int) :
    LiveTranscodeManager :=
  let manager := manager.cancelTimer entry.idleTimer now
  scheduleLeaseExpiry tuning
    { manager with
      derivatives := manager.derivatives.put { entry with leases := insert leaseId entry.leases, idleTimer := none }
      leases := manager.leases.put { leaseId, cameraId, ownerUserId, key := entry.key } } leaseId now

/-- The derivative that serves the profile; one whose process has exited is dropped. -/
def serving (manager : LiveTranscodeManager) (key : Uuid) (now : Int) :
    LiveTranscodeManager × Option DerivativeState :=
  match manager.derivatives.get? key with
  | none => (manager, none)
  | some entry => if env.exited entry.process then (manager.dropAndStop env key now, none) else (manager, some entry)

/-- A derivative is started, where there is room for one. -/
def startWithin (manager : LiveTranscodeManager) (key : Uuid) (now : Int) :
    Except LiveTranscodeError DerivativeState × LiveTranscodeManager :=
  let manager := freeIdleCapacity tuning env manager now
  let derivatives := manager.derivatives.rows.length
  if tuning.liveTranscodeMaxDerivatives ≤ derivatives then
    (.error
      { code := "live_transcode_capacity"
        message := "Compatibility transcode capacity is exhausted (" ++ toString derivatives ++ "/" ++
          toString tuning.liveTranscodeMaxDerivatives ++ " derivatives, " ++
          toString manager.leases.rows.length ++ " active leases)." }, manager)
  else startDerivative env manager key

/-- The lock is taken at `began`; the lease is granted at `now`, when the process is ready. -/
def acquire (manager : LiveTranscodeManager) (leaseId cameraId ownerUserId profileId : Uuid) (began now : Int) :
    Except LiveTranscodeError LiveTranscodeLease × LiveTranscodeManager :=
  let granted (entry : DerivativeState) (manager : LiveTranscodeManager) :=
    (.ok ⟨leaseId, entry.reference, entry.acceleration⟩, grant tuning manager entry leaseId cameraId ownerUserId now)
  match serving env manager profileId began with
  | (manager, some entry) => granted entry manager
  | (manager, none) =>
    match startWithin tuning env manager profileId began with
    | (.error failure, manager) => (.error failure, manager)
    | (.ok entry, manager) => granted entry manager

def touch (manager : LiveTranscodeManager) (leaseId cameraId ownerUserId : Uuid) (now : Int) :
    Bool × LiveTranscodeManager :=
  match manager.leases.get? leaseId with
  | none => (false, manager)
  | some lease =>
    if lease.cameraId ≠ cameraId ∨ lease.ownerUserId ≠ ownerUserId then (false, manager)
    else if (manager.derivatives.get? lease.key).all fun entry => env.exited entry.process then
      (false, (manager.dropEntry lease.key now).1)
    else (true, scheduleLeaseExpiry tuning manager leaseId now)

/-- The lease goes; a derivative without one is given the idle time. -/
def discard (manager : LiveTranscodeManager) (lease : LeaseState) (now : Int) : LiveTranscodeManager :=
  let manager := LiveTranscodeManager.cancelTimer
    { manager with leases := manager.leases.remove lease.leaseId } lease.timer now
  match manager.derivatives.get? lease.key with
  | none => manager
  | some entry =>
    let remaining := entry.leases.erase lease.leaseId
    let manager := { manager with
      derivatives := manager.derivatives.modify lease.key fun entry => { entry with leases := remaining } }
    if remaining = ∅ then scheduleIdle tuning manager lease.key entry now else manager

def release (manager : LiveTranscodeManager) (leaseId : Uuid) (cameraId ownerUserId : Option Uuid) (now : Int) :
    Bool × LiveTranscodeManager :=
  match manager.leases.get? leaseId with
  | none => (false, manager)
  | some lease =>
    if cameraId.any fun cameraId => lease.cameraId ≠ cameraId then (false, manager)
    else if ownerUserId.any fun ownerUserId => lease.ownerUserId ≠ ownerUserId then (false, manager)
    else (true, discard tuning manager lease now)

def expireLease (manager : LiveTranscodeManager) (leaseId : Uuid) (now : Int) : LiveTranscodeManager :=
  (release tuning manager leaseId none none now).2

def expireDerivative (manager : LiveTranscodeManager) (key : Uuid) (now : Int) : LiveTranscodeManager :=
  match manager.derivatives.get? key with
  | none => manager
  | some entry => if entry.leases ≠ ∅ then manager else manager.dropAndStop env key now

/-- The callback of a timer. -/
def expire (manager : LiveTranscodeManager) (callback : TimerCallback) (now : Int) : LiveTranscodeManager :=
  match callback with
  | .expireLease leaseId => expireLease tuning manager leaseId now
  | .expireDerivative key => expireDerivative env manager key now

/-- Everything is stopped. -/
def stop (manager : LiveTranscodeManager) (now : Int) : LiveTranscodeManager :=
  let held (timer : Nat) : Bool := manager.leases.rows.any (fun lease => lease.timer = some timer) ∨
    manager.derivatives.rows.any fun entry => entry.idleTimer = some timer
  manager.derivatives.rows.foldl (fun manager entry => manager.stopProcess env entry.process)
    { manager with
      derivatives := .empty
      leases := .empty
      timers := manager.timers.mapRows (fun timer => if held timer.id then timer.cancelled now else timer)
        fun timer => by split <;> rfl }

end LiveTranscodeManager

end ZeroNvr
