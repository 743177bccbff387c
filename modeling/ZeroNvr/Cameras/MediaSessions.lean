import ZeroNvr.Core.Errors
import ZeroNvr.Core.Time
import ZeroNvr.Models

/-! # Media sessions

The live sessions of a process, each with a timer and with cleanups under keys.
What happens under the lock is one function; the cleanups of a session that ended
are given to the caller, who runs them without the lock.
-/

namespace ZeroNvr

open Lib

/-- An item of a dictionary. -/
structure Item (κ ν : Type) where
  key : κ
  value : ν

instance {κ ν : Type} : Keyed (Item κ ν) κ := ⟨Item.key⟩

/-- `Timer(ttl, self._expire, args=(session_id, generation))`. -/
structure MediaTimer where
  dueAt : Int
  sessionId : Uuid
  generation : Nat
deriving DecidableEq

structure MediaSession (Cleanup : Type) where
  id : Uuid
  ownerUserId : Uuid
  cameraId : Uuid
  profileId : Option Uuid := none
  purpose : Option String := none
  cleanups : Table (Item String Cleanup) := .empty
  generation : Nat := 0

instance {Cleanup : Type} : Keyed (MediaSession Cleanup) Uuid := ⟨MediaSession.id⟩

/-- The timers are all those that were started and have not run.  To cancel a timer does not stop
a callback that is past its wait, so a cancelled timer stays here. -/
structure MediaSessionRegistry (Cleanup : Type) where
  sessions : Table (MediaSession Cleanup) := .empty
  timers : List MediaTimer := []

namespace MediaSessionRegistry

variable {Cleanup : Type}

def ttlError : PyError := .valueError "media session TTL must be positive"

/-- The session of an owner on a camera. -/
def owned (registry : MediaSessionRegistry Cleanup) (sessionId ownerUserId cameraId : Uuid) :
    Option (MediaSession Cleanup) :=
  (registry.sessions.get? sessionId).filter fun state => state.ownerUserId = ownerUserId ∧ state.cameraId = cameraId

/-- `uuid4` gives an id that was not given before. -/
def issue (uuid4 : Supply Uuid) (drawn : List Uuid) (registry : MediaSessionRegistry Cleanup) (ownerUserId cameraId : Uuid)
    (ttlSeconds : Int) (profileId : Option Uuid) (purpose : Option String) (now : Int) :
    Result (MediaSessionRegistry Cleanup × Uuid) :=
  if ttlSeconds ≤ 0 then .error ttlError
  else
    let state : MediaSession Cleanup := { id := uuid4.next drawn, ownerUserId, cameraId, profileId, purpose }
    let timer : MediaTimer := ⟨now + seconds ttlSeconds, state.id, state.generation⟩
    .ok ({ sessions := registry.sessions.put state, timers := timer :: registry.timers }, state.id)

def authorize (registry : MediaSessionRegistry Cleanup) (sessionId ownerUserId cameraId : Uuid) : Bool :=
  (registry.owned sessionId ownerUserId cameraId).isSome

def streamContext (registry : MediaSessionRegistry Cleanup) (sessionId ownerUserId cameraId : Uuid) :
    Option (Uuid × String) := do
  let state ← registry.owned sessionId ownerUserId cameraId
  let profileId ← state.profileId
  let purpose ← state.purpose
  return (profileId, purpose)

def active (registry : MediaSessionRegistry Cleanup) (sessionId : Uuid) : Bool :=
  (registry.sessions.get? sessionId).isSome

def renew (registry : MediaSessionRegistry Cleanup) (sessionId ownerUserId cameraId : Uuid) (ttlSeconds : Int) (now : Int) :
    Result (MediaSessionRegistry Cleanup × Bool) :=
  if ttlSeconds ≤ 0 then .error ttlError
  else
    match registry.owned sessionId ownerUserId cameraId with
    | none => .ok (registry, false)
    | some state =>
      let renewed := { state with generation := state.generation + 1 }
      let timer : MediaTimer := ⟨now + seconds ttlSeconds, sessionId, renewed.generation⟩
      .ok ({ sessions := registry.sessions.put renewed, timers := timer :: registry.timers }, true)

def registerCleanup (registry : MediaSessionRegistry Cleanup) (sessionId : Uuid) (key : String) (cleanup : Cleanup) :
    MediaSessionRegistry Cleanup × Bool :=
  match registry.sessions.get? sessionId with
  | none => (registry, false)
  | some state =>
    let state := { state with cleanups := state.cleanups.put ⟨key, cleanup⟩ }
    ({ registry with sessions := registry.sessions.put state }, true)

def unregisterCleanup (registry : MediaSessionRegistry Cleanup) (sessionId : Uuid) (key : String) :
    MediaSessionRegistry Cleanup :=
  match registry.sessions.get? sessionId with
  | none => registry
  | some state =>
    { registry with sessions := registry.sessions.put { state with cleanups := state.cleanups.remove key } }

/-- A session is taken out, and its cleanups are left to the caller. -/
def popSession (registry : MediaSessionRegistry Cleanup) (state : MediaSession Cleanup) :
    MediaSessionRegistry Cleanup × List Cleanup :=
  ({ registry with sessions := registry.sessions.remove state.id }, state.cleanups.rows.map Item.value)

/-- The locked part of `revoke`; it returns false where there is no result. -/
def revoke (registry : MediaSessionRegistry Cleanup) (sessionId : Uuid) (ownerUserId cameraId : Option Uuid) :
    Option (MediaSessionRegistry Cleanup × List Cleanup) :=
  match registry.sessions.get? sessionId with
  | none => none
  | some state =>
    if ownerUserId.any (state.ownerUserId ≠ ·) then none
    else if cameraId.any (state.cameraId ≠ ·) then none
    else some (registry.popSession state)

/-- The sessions that `revoke_camera` is going to revoke, one after the other. -/
def cameraSessions (registry : MediaSessionRegistry Cleanup) (cameraId : Uuid) : List Uuid :=
  (registry.sessions.select fun state => state.cameraId = cameraId).map MediaSession.id

/-- The locked part of `_expire`. -/
def expire (registry : MediaSessionRegistry Cleanup) (sessionId : Uuid) (generation : Nat) :
    Option (MediaSessionRegistry Cleanup × List Cleanup) :=
  match registry.sessions.get? sessionId with
  | none => none
  | some state => if state.generation ≠ generation then none else some (registry.popSession state)

end MediaSessionRegistry

end ZeroNvr
