import ZeroNvr.Cameras.MediaSessions
import ZeroNvr.Lib.Run

/-! # Cleanups of media sessions

Calls of many threads and callbacks of timers, in any order.  A cleanup that was
registered runs once when its session ends, unless it was taken back or replaced
before.  A callback ends a session only when the last renewal is over, and a
session that ended does not come back.
-/

namespace ZeroNvr.MediaSessionRegistry

open Lib

/-! ## Histories -/

/-- What callers see.  A registration is numbered. -/
inductive MediaEvent where
  | issued (sessionId : Uuid)
  | renewed (sessionId : Uuid) (now ttlSeconds : Int)
  | registered (registration : Nat) (sessionId : Uuid) (key : String)
  | unregistered (sessionId : Uuid) (key : String)
  | ended (sessionId : Uuid) (now : Int) (byTimer : Bool)
  | invoked (registration : Nat)
deriving DecidableEq

/-- A thread past the lock: the cleanups it has to run, and then the sessions it has to revoke. -/
structure MediaCall where
  cleanups : List Nat
  sessions : List Uuid := []
  cameraId : Option Uuid := none

structure MediaWorld where
  registry : MediaSessionRegistry Nat := {}
  now : Int
  drawn : List Uuid := []
  registrations : Nat := 0
  calls : List MediaCall := []
  log : List MediaEvent := []

namespace MediaWorld

/-- A session ended, and a thread has its cleanups to run. -/
def ends (world : MediaWorld) (sessionId : Uuid) (byTimer : Bool) (registry : MediaSessionRegistry Nat)
    (calls : List MediaCall) : MediaWorld :=
  { world with registry, calls, log := world.log ++ [.ended sessionId world.now byTimer] }

end MediaWorld

/-- One thread goes on.  A call that raises or answers false changes nothing and is no step. -/
inductive MediaStep (uuid4 : Supply Uuid) : MediaWorld → MediaWorld → Prop
  | wait {world : MediaWorld} {now : Int} (later : world.now ≤ now) : MediaStep uuid4 world { world with now }
  | issue {world : MediaWorld} {ownerUserId cameraId : Uuid} {ttlSeconds : Int} {profileId : Option Uuid}
      {purpose : Option String} {registry : MediaSessionRegistry Nat} {sessionId : Uuid}
      (done : world.registry.issue uuid4 world.drawn ownerUserId cameraId ttlSeconds profileId purpose world.now =
        .ok (registry, sessionId)) :
      MediaStep uuid4 world { world with
        registry
        drawn := sessionId :: world.drawn
        log := world.log ++ [.issued sessionId] }
  | renew {world : MediaWorld} {sessionId ownerUserId cameraId : Uuid} {ttlSeconds : Int}
      {registry : MediaSessionRegistry Nat}
      (done : world.registry.renew sessionId ownerUserId cameraId ttlSeconds world.now = .ok (registry, true)) :
      MediaStep uuid4 world { world with registry, log := world.log ++ [.renewed sessionId world.now ttlSeconds] }
  | register {world : MediaWorld} {sessionId : Uuid} {key : String} {registry : MediaSessionRegistry Nat}
      (done : world.registry.registerCleanup sessionId key world.registrations = (registry, true)) :
      MediaStep uuid4 world { world with
        registry
        registrations := world.registrations + 1
        log := world.log ++ [.registered world.registrations sessionId key] }
  | unregister {world : MediaWorld} (sessionId : Uuid) (key : String) :
      MediaStep uuid4 world { world with
        registry := world.registry.unregisterCleanup sessionId key
        log := world.log ++ [.unregistered sessionId key] }
  | revoke {world : MediaWorld} {sessionId : Uuid} {ownerUserId cameraId : Option Uuid}
      {registry : MediaSessionRegistry Nat} {cleanups : List Nat}
      (done : world.registry.revoke sessionId ownerUserId cameraId = some (registry, cleanups)) :
      MediaStep uuid4 world (world.ends sessionId false registry ({ cleanups } :: world.calls))
  | revokeCamera {world : MediaWorld} (cameraId : Uuid) :
      MediaStep uuid4 world { world with
        calls := { cleanups := [], sessions := world.registry.cameraSessions cameraId, cameraId := some cameraId } ::
          world.calls }
  /-- A callback runs at its time or later, also when its timer was cancelled. -/
  | expire {world : MediaWorld} {timer : MediaTimer} {registry : MediaSessionRegistry Nat} {cleanups : List Nat}
      (started : timer ∈ world.registry.timers) (due : timer.dueAt ≤ world.now)
      (done : world.registry.expire timer.sessionId timer.generation = some (registry, cleanups)) :
      MediaStep uuid4 world (world.ends timer.sessionId true
        { registry with timers := registry.timers.erase timer } ({ cleanups } :: world.calls))
  | superseded {world : MediaWorld} {timer : MediaTimer}
      (started : timer ∈ world.registry.timers) (due : timer.dueAt ≤ world.now)
      (done : world.registry.expire timer.sessionId timer.generation = none) :
      MediaStep uuid4 world { world with
        registry := { world.registry with timers := world.registry.timers.erase timer } }
  /-- A cleanup returns or raises, and the next one follows. -/
  | cleanup {world : MediaWorld} {before after : List MediaCall} {call : MediaCall} {registration : Nat} {rest : List Nat}
      (running : world.calls = before ++ call :: after) (first : call.cleanups = registration :: rest)
      (outcome : Result Unit) :
      MediaStep uuid4 world { world with
        calls := before ++ { call with cleanups := rest } :: after
        log := world.log ++ [.invoked registration] }
  | revokeNext {world : MediaWorld} {before after : List MediaCall} {call : MediaCall} {sessionId : Uuid}
      {rest : List Uuid} {registry : MediaSessionRegistry Nat} {cleanups : List Nat}
      (running : world.calls = before ++ call :: after) (through : call.cleanups = [])
      (first : call.sessions = sessionId :: rest)
      (done : world.registry.revoke sessionId none call.cameraId = some (registry, cleanups)) :
      MediaStep uuid4 world (world.ends sessionId false registry
        (before ++ { call with cleanups, sessions := rest } :: after))
  | skipNext {world : MediaWorld} {before after : List MediaCall} {call : MediaCall} {sessionId : Uuid} {rest : List Uuid}
      (running : world.calls = before ++ call :: after) (through : call.cleanups = [])
      (first : call.sessions = sessionId :: rest)
      (done : world.registry.revoke sessionId none call.cameraId = none) :
      MediaStep uuid4 world { world with calls := before ++ { call with sessions := rest } :: after }
  | finish {world : MediaWorld} {before after : List MediaCall} {call : MediaCall}
      (running : world.calls = before ++ call :: after) (through : call.cleanups = []) (last : call.sessions = []) :
      MediaStep uuid4 world { world with calls := before ++ after }

/-- Threads that go on in any order. -/
abbrev MediaHistory (uuid4 : Supply Uuid) (world : MediaWorld) (steps : List Unit) (world' : MediaWorld) : Prop :=
  Run (fun world _ world' => MediaStep uuid4 world world') world steps world'

/-! ## What a history says -/

/-- What has become of a registration. -/
inductive Fate where
  | unknown
  | held (sessionId : Uuid) (key : String)
  | withdrawn
  | owed
deriving DecidableEq

/-- A registration is held until it is taken back or replaced under its key; when its session ends
before that, its cleanup is owed. -/
def Fate.next (registration : Nat) : Fate → MediaEvent → Fate
  | .unknown, .registered other sessionId key => if other = registration then .held sessionId key else .unknown
  | .held sessionId key, .registered _ otherId otherKey | .held sessionId key, .unregistered otherId otherKey =>
    if otherId = sessionId ∧ otherKey = key then .withdrawn else .held sessionId key
  | .held sessionId key, .ended otherId _ _ => if otherId = sessionId then .owed else .held sessionId key
  | fate, _ => fate

def fate (log : List MediaEvent) (registration : Nat) : Fate := log.foldl (Fate.next registration) .unknown

/-- The time until which a session was last renewed. -/
def renewal (sessionId : Uuid) (last : Option Int) : MediaEvent → Option Int
  | .renewed otherId now ttlSeconds => if otherId = sessionId then some (now + seconds ttlSeconds) else last
  | _ => last

def renewedUntil (log : List MediaEvent) (sessionId : Uuid) : Option Int := log.foldl (renewal sessionId) none

/-- How often a cleanup is going to run. -/
def pending (calls : List MediaCall) (registration : Nat) : Nat :=
  (calls.map fun call => call.cleanups.count registration).sum

/-! ## The invariant -/

/-- Callbacks ended sessions only when these were no longer renewed. -/
def Timely (log : List MediaEvent) : Prop :=
  ∀ before after sessionId now, log = before ++ .ended sessionId now true :: after →
    ∀ until_, renewedUntil before sessionId = some until_ → until_ ≤ now

structure Sound (world : MediaWorld) : Prop where
  sessions : ∀ state ∈ world.registry.sessions, state.id ∈ world.drawn
  renewals : ∀ sessionId now ttlSeconds, .renewed sessionId now ttlSeconds ∈ world.log → sessionId ∈ world.drawn
  dead : ∀ sessionId now byTimer, .ended sessionId now byTimer ∈ world.log →
    sessionId ∈ world.drawn ∧ world.registry.sessions.get? sessionId = none
  timers : ∀ timer ∈ world.registry.timers, timer.sessionId ∈ world.drawn ∧
    ∀ state, world.registry.sessions.get? timer.sessionId = some state → timer.generation ≤ state.generation ∧
      (timer.generation = state.generation →
        ∀ until_, renewedUntil world.log timer.sessionId = some until_ → until_ ≤ timer.dueAt)
  timely : Timely world.log
  held : ∀ registration sessionId key, fate world.log registration = .held sessionId key ↔
    ∃ state, world.registry.sessions.get? sessionId = some state ∧ state.cleanups.get? key = some ⟨key, registration⟩
  fresh : ∀ registration, world.registrations ≤ registration → fate world.log registration = .unknown
  counted : ∀ registration, world.log.count (.invoked registration) + pending world.calls registration =
    if fate world.log registration = .owed then 1 else 0

section Histories

attribute [local grind =] Fate.next

variable {log : List MediaEvent} {event : MediaEvent} {registration : Nat} {sessionId otherId : Uuid} {key otherKey : String}
  {known : Fate}

@[simp] theorem fate_append : fate (log ++ [event]) registration = Fate.next registration (fate log registration) event := by
  simp [fate]

@[simp] theorem renewedUntil_append : renewedUntil (log ++ [event]) sessionId =
    renewal sessionId (renewedUntil log sessionId) event := by
  simp [renewedUntil]

@[simp] theorem Fate.next_issued : Fate.next registration known (.issued sessionId) = known := by cases known <;> rfl

@[simp] theorem Fate.next_renewed {now ttlSeconds : Int} :
    Fate.next registration known (.renewed sessionId now ttlSeconds) = known := by cases known <;> rfl

@[simp] theorem Fate.next_invoked {other : Nat} : Fate.next registration known (.invoked other) = known := by
  cases known <;> rfl

theorem Fate.next_registered_held {other : Nat} :
    Fate.next registration known (.registered other sessionId key) = .held otherId otherKey ↔
      (known = .unknown ∧ other = registration ∧ otherId = sessionId ∧ otherKey = key) ∨
        (known = .held otherId otherKey ∧ ¬(otherId = sessionId ∧ otherKey = key)) := by
  cases known <;> grind

theorem Fate.next_unregistered_held :
    Fate.next registration known (.unregistered sessionId key) = .held otherId otherKey ↔
      known = .held otherId otherKey ∧ ¬(otherId = sessionId ∧ otherKey = key) := by
  cases known <;> grind

theorem Fate.next_ended_held {now : Int} {byTimer : Bool} :
    Fate.next registration known (.ended sessionId now byTimer) = .held otherId otherKey ↔
      known = .held otherId otherKey ∧ otherId ≠ sessionId := by
  cases known <;> grind

theorem Fate.next_registered_owed {other : Nat} :
    Fate.next registration known (.registered other sessionId key) = .owed ↔ known = .owed := by
  cases known <;> grind

theorem Fate.next_unregistered_owed :
    Fate.next registration known (.unregistered sessionId key) = .owed ↔ known = .owed := by
  cases known <;> grind

theorem Fate.next_ended_owed {now : Int} {byTimer : Bool} :
    Fate.next registration known (.ended sessionId now byTimer) = .owed ↔
      known = .owed ∨ ∃ key, known = .held sessionId key := by
  cases known with
  | held otherId otherKey =>
    simp only [Fate.next]
    split <;> simp_all [eq_comm]
  | _ => simp [Fate.next]

/-- A session that was renewed was renewed at some time. -/
theorem renewed_of_renewedUntil {until_ : Int} (renewed : renewedUntil log sessionId = some until_) :
    ∃ now ttlSeconds, .renewed sessionId now ttlSeconds ∈ log ∧ until_ = now + seconds ttlSeconds := by
  induction log using List.reverseRecOn with
  | nil => cases renewed
  | append_singleton log event ih =>
    rw [renewedUntil_append] at renewed
    cases event with
    | renewed otherId now ttlSeconds =>
      simp only [renewal] at renewed
      split at renewed
      · next same =>
        cases renewed
        exact ⟨now, ttlSeconds, by simp [same], rfl⟩
      · obtain ⟨now, ttlSeconds, member, isUntil⟩ := ih renewed
        exact ⟨now, ttlSeconds, List.mem_append_left _ member, isUntil⟩
    | _ =>
      obtain ⟨now, ttlSeconds, member, isUntil⟩ := ih renewed
      exact ⟨now, ttlSeconds, List.mem_append_left _ member, isUntil⟩

/-- What follows the last renewal does not change it. -/
theorem renewedUntil_last {before between : List MediaEvent} {now ttlSeconds : Int}
    (last : ∀ now ttlSeconds, .renewed sessionId now ttlSeconds ∉ between) :
    renewedUntil (before ++ .renewed sessionId now ttlSeconds :: between) sessionId = some (now + seconds ttlSeconds) := by
  induction between using List.reverseRecOn with
  | nil => simp [renewal]
  | append_singleton between event ih =>
    have earlier := ih fun now ttlSeconds member => last now ttlSeconds (List.mem_append_left _ member)
    rw [← List.cons_append, ← List.append_assoc, renewedUntil_append, earlier]
    cases event with
    | renewed otherId now ttlSeconds =>
      have differs : otherId ≠ sessionId := fun same => last now ttlSeconds (by simp [same])
      simp [renewal, differs]
    | _ => rfl

theorem Timely.append (timely : Timely log)
    (last : ∀ sessionId now, event = .ended sessionId now true →
      ∀ until_, renewedUntil log sessionId = some until_ → until_ ≤ now) : Timely (log ++ [event]) := by
  intro before after sessionId now split
  rcases List.eq_nil_or_concat after with rfl | ⟨rest, final, rfl⟩
  · obtain ⟨rfl, same⟩ := List.append_inj' split rfl
    exact last sessionId now (List.head_eq_of_cons_eq same)
  · rw [List.concat_eq_append, ← List.cons_append, ← List.append_assoc] at split
    obtain ⟨rfl, -⟩ := List.append_inj' split rfl
    exact timely before rest sessionId now rfl

end Histories

section Invariant

variable {uuid4 : Supply Uuid} {world world' : MediaWorld}

theorem Sound.session_drawn (sound : Sound world) {sessionId : Uuid} {state : MediaSession Nat}
    (found : world.registry.sessions.get? sessionId = some state) : sessionId ∈ world.drawn := by
  have isId : state.id = sessionId := Table.key_of_get? found
  exact isId ▸ sound.sessions state (Table.mem_of_get? found)

/-- An id that was never given out stands for nothing. -/
theorem Sound.undrawn (sound : Sound world) {sessionId : Uuid} (undrawn : sessionId ∉ world.drawn) :
    world.registry.sessions.get? sessionId = none := by
  cases found : world.registry.sessions.get? sessionId with
  | none => rfl
  | some state => exact absurd (sound.session_drawn found) undrawn

theorem get?_putSession (sessions : Table (MediaSession Nat)) (state : MediaSession Nat) (sessionId : Uuid) :
    (sessions.put state).get? sessionId = if sessionId = state.id then some state else sessions.get? sessionId :=
  Table.get?_put sessionId

/-! A session that is written back. -/

theorem Sound.sessions_put (sound : Sound world) {state new : MediaSession Nat}
    (found : world.registry.sessions.get? new.id = some state) :
    ∀ other ∈ world.registry.sessions.put new, other.id ∈ world.drawn := by
  intro other member
  rcases Table.mem_put.mp member with rfl | ⟨before, -⟩
  · exact sound.session_drawn found
  · exact sound.sessions other before

theorem Sound.dead_put (sound : Sound world) {state new : MediaSession Nat}
    (found : world.registry.sessions.get? new.id = some state) {sessionId : Uuid} {now : Int} {byTimer : Bool}
    (ended : .ended sessionId now byTimer ∈ world.log) :
    sessionId ∈ world.drawn ∧ (world.registry.sessions.put new).get? sessionId = none := by
  obtain ⟨drawn, gone⟩ := sound.dead sessionId now byTimer ended
  refine ⟨drawn, ?_⟩
  rw [get?_putSession, if_neg, gone]
  rintro rfl
  exact absurd (found.symm.trans gone) (by simp)

theorem Sound.timers_put (sound : Sound world) {state new : MediaSession Nat}
    (found : world.registry.sessions.get? new.id = some state) (same : new.generation = state.generation)
    {timer : MediaTimer} (member : timer ∈ world.registry.timers) :
    timer.sessionId ∈ world.drawn ∧
      ∀ other, (world.registry.sessions.put new).get? timer.sessionId = some other → timer.generation ≤ other.generation ∧
        (timer.generation = other.generation →
          ∀ until_, renewedUntil world.log timer.sessionId = some until_ → until_ ≤ timer.dueAt) := by
  obtain ⟨drawn, current⟩ := sound.timers timer member
  refine ⟨drawn, fun other otherFound => ?_⟩
  rw [get?_putSession] at otherFound
  split at otherFound
  · next own =>
    cases otherFound
    rw [same]
    exact current state (own ▸ found)
  · exact current other otherFound

theorem Sound.wait (sound : Sound world) {now : Int} : Sound { world with now } := { sound with }

theorem Sound.issue (sound : Sound world) {ownerUserId cameraId : Uuid} {ttlSeconds : Int} {profileId : Option Uuid}
    {purpose : Option String} {registry : MediaSessionRegistry Nat} {sessionId : Uuid}
    (done : world.registry.issue uuid4 world.drawn ownerUserId cameraId ttlSeconds profileId purpose world.now =
      .ok (registry, sessionId)) :
    Sound { world with registry, drawn := sessionId :: world.drawn, log := world.log ++ [.issued sessionId] } := by
  unfold MediaSessionRegistry.issue at done
  split at done
  · cases done
  cases done
  have undrawn := uuid4.fresh world.drawn
  have old {otherId : Uuid} (drawn : otherId ∈ world.drawn) : otherId ≠ uuid4.next world.drawn :=
    fun same => undrawn (same ▸ drawn)
  constructor
  · intro state member
    rcases Table.mem_put.mp member with rfl | ⟨before, -⟩
    · exact List.mem_cons_self
    · exact List.mem_cons_of_mem _ (sound.sessions state before)
  · intro otherId now ttlSeconds member
    exact List.mem_cons_of_mem _ (sound.renewals otherId now ttlSeconds (by simpa using member))
  · intro otherId now byTimer member
    obtain ⟨drawn, gone⟩ := sound.dead otherId now byTimer (by simpa using member)
    exact ⟨List.mem_cons_of_mem _ drawn, by rw [get?_putSession, if_neg (old drawn), gone]⟩
  · intro timer member
    rw [renewedUntil_append]
    rcases List.mem_cons.mp member with rfl | before
    · refine ⟨List.mem_cons_self, fun state _ => ⟨Nat.zero_le _, fun _ until_ renewed => ?_⟩⟩
      obtain ⟨now, ttlSeconds, renewal, -⟩ := renewed_of_renewedUntil renewed
      exact absurd (sound.renewals _ now ttlSeconds renewal) undrawn
    · obtain ⟨drawn, current⟩ := sound.timers timer before
      refine ⟨List.mem_cons_of_mem _ drawn, fun state found => current state ?_⟩
      rwa [get?_putSession, if_neg (old drawn)] at found
  · exact sound.timely.append (by simp)
  · intro registration otherId key
    rw [fate_append, Fate.next_issued, sound.held, get?_putSession]
    split
    · next isNew =>
      rw [isNew, sound.undrawn undrawn]
      simp [Table.get?, Table.empty]
    · rfl
  · intro registration later
    rw [fate_append, Fate.next_issued]
    exact sound.fresh registration later
  · intro registration
    rw [fate_append, Fate.next_issued]
    simpa using sound.counted registration

theorem owned_eq_some {registry : MediaSessionRegistry Nat} {sessionId ownerUserId cameraId : Uuid}
    {state : MediaSession Nat} (owned : registry.owned sessionId ownerUserId cameraId = some state) :
    registry.sessions.get? sessionId = some state := (Option.filter_eq_some_iff.mp owned).1

theorem Sound.renew (sound : Sound world) {sessionId ownerUserId cameraId : Uuid} {ttlSeconds : Int}
    {registry : MediaSessionRegistry Nat}
    (done : world.registry.renew sessionId ownerUserId cameraId ttlSeconds world.now = .ok (registry, true)) :
    Sound { world with registry, log := world.log ++ [.renewed sessionId world.now ttlSeconds] } := by
  unfold MediaSessionRegistry.renew at done
  split at done
  · cases done
  split at done
  · cases done
  next state owned =>
  cases done
  have found := owned_eq_some owned
  have isId : state.id = sessionId := Table.key_of_get? found
  have drawn := sound.session_drawn found
  subst isId
  constructor
  · exact sound.sessions_put (by exact found)
  · intro otherId now ttlSeconds member
    rcases List.mem_append.mp member with before | last
    · exact sound.renewals otherId now ttlSeconds before
    · simp only [List.mem_singleton, MediaEvent.renewed.injEq] at last
      exact last.1 ▸ drawn
  · intro otherId now byTimer member
    exact sound.dead_put (by exact found) (by simpa using member)
  · intro timer member
    rw [renewedUntil_append]
    rcases List.mem_cons.mp member with rfl | before
    · refine ⟨drawn, fun other otherFound => ?_⟩
      rw [get?_putSession, if_pos rfl] at otherFound
      cases otherFound
      refine ⟨le_rfl, fun _ until_ renewed => ?_⟩
      rw [renewal, if_pos rfl] at renewed
      exact (Option.some.inj renewed).ge
    · obtain ⟨timerDrawn, current⟩ := sound.timers timer before
      refine ⟨timerDrawn, fun other otherFound => ?_⟩
      rw [get?_putSession] at otherFound
      split at otherFound
      · next same =>
        cases otherFound
        -- a timer from before the renewal is of an earlier generation
        have earlier := (current state (same ▸ found)).1
        exact ⟨Nat.le_succ_of_le earlier, fun same => by simp only at same; omega⟩
      · next differs =>
        obtain ⟨earlier, due⟩ := current other otherFound
        exact ⟨earlier, fun same until_ renewed => due same until_ (by simpa [renewal, Ne.symm differs] using renewed)⟩
  · exact sound.timely.append (by simp)
  · intro registration otherId key
    rw [fate_append, Fate.next_renewed, sound.held, get?_putSession]
    split
    · next same => simp [same, found]
    · rfl
  · intro registration later
    rw [fate_append, Fate.next_renewed]
    exact sound.fresh registration later
  · intro registration
    rw [fate_append, Fate.next_renewed]
    simpa using sound.counted registration

/-- The cleanup of a number that was not given yet is nowhere. -/
theorem Sound.unregistered (sound : Sound world) {sessionId : Uuid} {state : MediaSession Nat}
    (found : world.registry.sessions.get? sessionId = some state) (key : String) :
    state.cleanups.get? key ≠ some ⟨key, world.registrations⟩ := by
  intro there
  have held := (sound.held world.registrations sessionId key).mpr ⟨state, found, there⟩
  rw [sound.fresh _ le_rfl] at held
  cases held

theorem Sound.register (sound : Sound world) {sessionId : Uuid} {key : String} {registry : MediaSessionRegistry Nat}
    (done : world.registry.registerCleanup sessionId key world.registrations = (registry, true)) :
    Sound { world with
      registry
      registrations := world.registrations + 1
      log := world.log ++ [.registered world.registrations sessionId key] } := by
  unfold registerCleanup at done
  split at done
  · cases done
  next state found =>
  cases done
  obtain rfl : state.id = sessionId := Table.key_of_get? found
  constructor
  · exact sound.sessions_put (by exact found)
  · intro otherId now ttlSeconds member
    exact sound.renewals otherId now ttlSeconds (by simpa using member)
  · intro otherId now byTimer member
    exact sound.dead_put (by exact found) (by simpa using member)
  · intro timer member
    rw [renewedUntil_append]
    exact sound.timers_put (by exact found) (by rfl) member
  · exact sound.timely.append (by simp)
  · intro registration otherId otherKey
    rw [fate_append, Fate.next_registered_held, get?_putSession]
    have elsewhere := sound.held registration otherId otherKey
    have unregistered := sound.unregistered found otherKey
    by_cases own : otherId = state.id
    · subst own
      have item : (state.cleanups.put ⟨key, world.registrations⟩).get? otherKey =
          if otherKey = key then some ⟨key, world.registrations⟩ else state.cleanups.get? otherKey := Table.get?_put otherKey
      simp only [if_true, Option.some.injEq, exists_eq_left', item]
      rw [elsewhere]
      simp only [found, Option.some.injEq, exists_eq_left']
      by_cases same : otherKey = key
      · subst same
        have isNew : world.registrations = registration → fate world.log registration = .unknown :=
          fun same => sound.fresh registration same.le
        simp only [if_true, Option.some.injEq, Item.mk.injEq, true_and, and_self, not_true, and_false, or_false, and_true]
        exact ⟨fun both => both.2, fun same => ⟨isNew same, same⟩⟩
      · simp [same]
    · simp [own, elsewhere]
  · intro registration later
    have unknown := sound.fresh registration (Nat.le_of_succ_le later)
    have differs : world.registrations ≠ registration := Nat.ne_of_lt later
    simp [unknown, Fate.next, differs]
  · intro registration
    simp only [fate_append, Fate.next_registered_owed]
    simpa using sound.counted registration

theorem Sound.unregister (sound : Sound world) (sessionId : Uuid) (key : String) :
    Sound { world with
      registry := world.registry.unregisterCleanup sessionId key
      log := world.log ++ [.unregistered sessionId key] } := by
  have counted (registration : Nat) : (world.log ++ [MediaEvent.unregistered sessionId key]).count (.invoked registration) +
      pending world.calls registration =
        if fate (world.log ++ [.unregistered sessionId key]) registration = .owed then 1 else 0 := by
    simp only [fate_append, Fate.next_unregistered_owed]
    simpa using sound.counted registration
  have fresh (registration : Nat) (later : world.registrations ≤ registration) :
      fate (world.log ++ [.unregistered sessionId key]) registration = .unknown := by
    simp [sound.fresh registration later, Fate.next]
  unfold unregisterCleanup
  split
  · next gone =>
    refine { sound with renewals := ?_, dead := ?_, timers := ?_, timely := ?_, held := ?_, fresh, counted }
    · simpa using sound.renewals
    · simpa using sound.dead
    · intro timer member
      rw [renewedUntil_append]
      exact sound.timers timer member
    · exact sound.timely.append (by simp)
    · intro registration otherId otherKey
      rw [fate_append, Fate.next_unregistered_held, sound.held]
      refine and_iff_left_of_imp ?_
      rintro ⟨state, found, -⟩ ⟨rfl, -⟩
      exact absurd (found.symm.trans gone) (by simp)
  · next state found =>
    obtain rfl : state.id = sessionId := Table.key_of_get? found
    refine { sessions := sound.sessions_put (by exact found), renewals := ?_, dead := ?_, timers := ?_, timely := ?_, held := ?_, fresh, counted }
    · simpa using sound.renewals
    · exact fun otherId now byTimer member => sound.dead_put (by exact found) (by simpa using member)
    · intro timer member
      rw [renewedUntil_append]
      exact sound.timers_put (by exact found) (by rfl) member
    · exact sound.timely.append (by simp)
    · intro registration otherId otherKey
      rw [fate_append, Fate.next_unregistered_held, sound.held, get?_putSession]
      by_cases own : otherId = state.id
      · subst own
        have item : (state.cleanups.remove key).get? otherKey = if otherKey = key then none else state.cleanups.get? otherKey :=
          Table.get?_remove _ _ _
        simp only [if_true, Option.some.injEq, exists_eq_left', item, found, true_and]
        by_cases same : otherKey = key <;> simp [same]
      · simp [own]

/-! A session that ends. -/

/-- Every cleanup of a session is there once. -/
theorem Sound.cleanups_count (sound : Sound world) {sessionId : Uuid} {state : MediaSession Nat}
    (found : world.registry.sessions.get? sessionId = some state) (registration : Nat) :
    ((∃ key, fate world.log registration = .held sessionId key) →
        (state.cleanups.rows.map Item.value).count registration = 1) ∧
      ((¬∃ key, fate world.log registration = .held sessionId key) →
        (state.cleanups.rows.map Item.value).count registration = 0) := by
  have here (key : String) (registration : Nat) : fate world.log registration = .held sessionId key ↔
      ⟨key, registration⟩ ∈ state.cleanups := by
    rw [sound.held, found]
    simp only [Option.some.injEq, exists_eq_left']
    exact ⟨Table.mem_of_get?, fun member => Table.get?_of_mem member⟩
  have nodup : (state.cleanups.rows.map Item.value).Nodup := by
    refine List.Nodup.map_on ?_ state.cleanups.keysNodup.of_map
    rintro ⟨key, value⟩ member ⟨otherKey, otherValue⟩ otherMember same
    obtain rfl : value = otherValue := same
    have both := ((here key value).mpr member).symm.trans ((here otherKey value).mpr otherMember)
    cases both
    rfl
  have among : registration ∈ state.cleanups.rows.map Item.value ↔
      ∃ key, fate world.log registration = .held sessionId key := by
    simp only [List.mem_map, here]
    constructor
    · rintro ⟨⟨key, value⟩, member, rfl⟩
      exact ⟨key, member⟩
    · rintro ⟨key, member⟩
      exact ⟨_, member, rfl⟩
  rw [← among]
  exact ⟨List.count_eq_one_of_mem nodup, List.count_eq_zero_of_not_mem⟩

theorem Sound.ends (sound : Sound world) {sessionId : Uuid} {state : MediaSession Nat} {byTimer : Bool}
    {timers : List MediaTimer} {calls : List MediaCall} (found : world.registry.sessions.get? sessionId = some state)
    (notBefore : byTimer = true → ∀ until_, renewedUntil world.log sessionId = some until_ → until_ ≤ world.now)
    (fewer : ∀ timer ∈ timers, timer ∈ world.registry.timers)
    (more : ∀ registration, pending calls registration =
      pending world.calls registration + (state.cleanups.rows.map Item.value).count registration) :
    Sound (world.ends sessionId byTimer { sessions := world.registry.sessions.remove sessionId, timers } calls) := by
  constructor
  · exact fun other member => sound.sessions other (Table.mem_remove.mp member).1
  · intro otherId now ttlSeconds member
    exact sound.renewals otherId now ttlSeconds (by simpa [MediaWorld.ends] using member)
  · intro otherId now otherCause member
    simp only [MediaWorld.ends, Table.get?_remove]
    rcases List.mem_append.mp member with before | last
    · obtain ⟨drawn, gone⟩ := sound.dead otherId now otherCause before
      exact ⟨drawn, by simp [gone]⟩
    · simp only [List.mem_singleton, MediaEvent.ended.injEq] at last
      exact ⟨last.1 ▸ sound.session_drawn found, by simp [last.1]⟩
  · intro timer member
    obtain ⟨drawn, current⟩ := sound.timers timer (fewer timer member)
    refine ⟨drawn, fun other otherFound => ?_⟩
    simp only [MediaWorld.ends, Table.get?_remove, renewedUntil_append] at otherFound ⊢
    split at otherFound
    · cases otherFound
    · exact current other otherFound
  · refine sound.timely.append fun otherId now same => ?_
    cases same
    exact notBefore rfl
  · intro registration otherId key
    simp only [MediaWorld.ends, fate_append, Fate.next_ended_held, sound.held, Table.get?_remove]
    by_cases own : otherId = sessionId <;> simp [own]
  · intro registration later
    simp [MediaWorld.ends, sound.fresh registration later, Fate.next]
  · intro registration
    have before := sound.counted registration
    have popped := sound.cleanups_count found registration
    simp only [MediaWorld.ends, fate_append, more]
    have same : (world.log ++ [MediaEvent.ended sessionId world.now byTimer]).count (.invoked registration) =
        world.log.count (.invoked registration) := by simp
    rw [same, ← Nat.add_assoc, before]
    by_cases held : ∃ key, fate world.log registration = .held sessionId key
    · rw [if_pos (Fate.next_ended_owed.mpr (.inr held)), popped.1 held]
      obtain ⟨key, isHeld⟩ := held
      simp [isHeld]
    · have same := @Fate.next_ended_owed registration sessionId (fate world.log registration) world.now byTimer
      rw [or_iff_left held] at same
      simp [popped.2 held, same]

theorem revoke_eq_some {registry after : MediaSessionRegistry Nat} {sessionId : Uuid} {ownerUserId cameraId : Option Uuid}
    {cleanups : List Nat} (done : registry.revoke sessionId ownerUserId cameraId = some (after, cleanups)) :
    ∃ state, registry.sessions.get? sessionId = some state ∧ cleanups = state.cleanups.rows.map Item.value ∧
      after = { registry with sessions := registry.sessions.remove sessionId } := by
  unfold MediaSessionRegistry.revoke at done
  split at done
  · cases done
  next state found =>
  obtain rfl : state.id = sessionId := Table.key_of_get? found
  split at done
  · cases done
  split at done
  · cases done
  cases done
  exact ⟨state, found, rfl, rfl⟩

theorem expire_eq_some {registry after : MediaSessionRegistry Nat} {sessionId : Uuid} {generation : Nat}
    {cleanups : List Nat} (done : registry.expire sessionId generation = some (after, cleanups)) :
    ∃ state, registry.sessions.get? sessionId = some state ∧ state.generation = generation ∧
      cleanups = state.cleanups.rows.map Item.value ∧
      after = { registry with sessions := registry.sessions.remove sessionId } := by
  unfold MediaSessionRegistry.expire at done
  split at done
  · cases done
  next state found =>
  obtain rfl : state.id = sessionId := Table.key_of_get? found
  split at done
  · cases done
  next same =>
  cases done
  exact ⟨state, found, not_not.mp same, rfl, rfl⟩

/-! ## Histories keep the invariant -/

@[simp] theorem pending_cons {call : MediaCall} {calls : List MediaCall} {registration : Nat} :
    pending (call :: calls) registration = call.cleanups.count registration + pending calls registration := by
  simp [pending]

@[simp] theorem pending_append {before after : List MediaCall} {registration : Nat} :
    pending (before ++ after) registration = pending before registration + pending after registration := by
  simp [pending]

/-- Calls that go on without a cleanup. -/
theorem Sound.goOn (sound : Sound world) {calls : List MediaCall}
    (same : ∀ registration, pending calls registration = pending world.calls registration) :
    Sound { world with calls } :=
  { sound with counted := fun registration => by rw [same]; exact sound.counted registration }

theorem Sound.step (sound : Sound world) (step : MediaStep uuid4 world world') : Sound world' := by
  cases step with
  | wait later => exact sound.wait
  | issue done => exact sound.issue done
  | renew done => exact sound.renew done
  | register done => exact sound.register done
  | unregister sessionId key => exact sound.unregister sessionId key
  | revoke done =>
    obtain ⟨state, found, rfl, rfl⟩ := revoke_eq_some done
    refine sound.ends found (by simp) (fun _ => id) fun registration => ?_
    rw [pending_cons, Nat.add_comm]
  | revokeCamera cameraId => exact sound.goOn fun registration => by simp
  | @expire timer registry cleanups started due done =>
    obtain ⟨state, found, same, rfl, rfl⟩ := expire_eq_some done
    have notBefore := ((sound.timers timer started).2 state found).2 same.symm
    refine sound.ends found (fun _ until_ renewed => (notBefore until_ renewed).trans due)
      (fun _ => List.mem_of_mem_erase) fun registration => ?_
    rw [pending_cons, Nat.add_comm]
  | superseded started due done =>
    exact { sound with timers := fun timer member => sound.timers timer (List.mem_of_mem_erase member) }
  | @cleanup before after call registration rest running first outcome =>
    refine { sound with renewals := ?_, dead := ?_, timers := ?_, timely := ?_, held := ?_, fresh := ?_, counted := ?_ }
    · simpa using sound.renewals
    · simpa using sound.dead
    · intro timer member
      rw [renewedUntil_append]
      exact sound.timers timer member
    · exact sound.timely.append (by simp)
    · simpa using sound.held
    · simpa using sound.fresh
    · intro other
      have before := sound.counted other
      rw [running, pending_append, pending_cons, first, List.count_cons] at before
      simp only [fate_append, Fate.next_invoked, pending_append, pending_cons]
      rw [← before, List.count_append, List.count_singleton]
      by_cases same : registration = other
      · simp only [same, beq_self_eq_true, if_true]
        omega
      · simp [same]
  | revokeNext running through first done =>
    obtain ⟨state, found, rfl, rfl⟩ := revoke_eq_some done
    refine sound.ends found (by simp) (fun _ => id) fun registration => ?_
    rw [running]
    simp only [pending_append, pending_cons, through, List.count_nil]
    omega
  | skipNext running through first done =>
    exact sound.goOn fun registration => by simp [running]
  | finish running through last =>
    exact sound.goOn fun registration => by simp [running, through]

/-- A registry that was just made. -/
structure Fresh (world : MediaWorld) : Prop where
  registry : world.registry = {}
  registrations : world.registrations = 0
  calls : world.calls = []
  log : world.log = []

theorem Fresh.sound (fresh : Fresh world) : Sound world := by
  obtain ⟨registry, registrations, calls, log⟩ := fresh
  have nowhere (sessionId : Uuid) : (Table.empty : Table (MediaSession Nat)).get? sessionId = none := rfl
  constructor <;> simp [registry, calls, log, fate, pending, nowhere, Timely]

/-! ## Calls come to their end -/

/-- The cleanups of a call can always run, whatever they do. -/
theorem runs_cleanups {world : MediaWorld} {call : MediaCall} {rest : List MediaCall}
    (first : world.calls = call :: rest) : ∃ steps after, MediaHistory uuid4 world steps after ∧
      after.calls = { call with cleanups := [] } :: rest := by
  obtain ⟨cleanups, sessions, cameraId⟩ := call
  induction cleanups generalizing world with
  | nil => exact ⟨[], world, .done _, first⟩
  | cons registration cleanups ih =>
    have step := @MediaStep.cleanup uuid4 world [] rest _ _ _ first rfl (.ok ())
    obtain ⟨steps, after, run, calls⟩ := @ih { world with
      calls := { cleanups, sessions, cameraId } :: rest
      log := world.log ++ [.invoked registration] } rfl
    exact ⟨() :: steps, after, .next step run, calls⟩

/-- So can a call that has further sessions to revoke. -/
theorem runs_sessions {world : MediaWorld} {call : MediaCall} {rest : List MediaCall}
    (first : world.calls = call :: rest) : ∃ steps after, MediaHistory uuid4 world steps after ∧ after.calls = rest := by
  obtain ⟨cleanups, sessions, cameraId⟩ := call
  induction sessions generalizing world cleanups with
  | nil =>
    obtain ⟨steps, middle, run, calls⟩ := @runs_cleanups uuid4 world _ _ first
    have last := @MediaStep.finish uuid4 middle [] rest _ calls rfl rfl
    exact ⟨steps ++ [()], _, run.append (.next last (.done _)), rfl⟩
  | cons sessionId sessions ih =>
    obtain ⟨steps, middle, run, calls⟩ := @runs_cleanups uuid4 world _ _ first
    cases revoked : middle.registry.revoke sessionId none cameraId with
    | none =>
      have step := @MediaStep.skipNext uuid4 middle [] rest _ _ _ calls rfl rfl revoked
      obtain ⟨others, after, run', calls'⟩ := ih [] (rfl : ({ middle with
        calls := [] ++ { cleanups := [], sessions, cameraId } :: rest : MediaWorld}).calls = _)
      exact ⟨steps ++ () :: others, after, run.append (.next step run'), calls'⟩
    | some popped =>
      obtain ⟨registry, popped⟩ := popped
      have step := @MediaStep.revokeNext uuid4 middle [] rest _ _ _ _ _ calls rfl rfl revoked
      obtain ⟨others, after, run', calls'⟩ := ih popped (rfl : (middle.ends sessionId false registry
        ([] ++ { cleanups := popped, sessions, cameraId } :: rest)).calls = _)
      exact ⟨steps ++ () :: others, after, run.append (.next step run'), calls'⟩

theorem runs_calls (world : MediaWorld) : ∃ steps after, MediaHistory uuid4 world steps after ∧ after.calls = [] := by
  induction calls : world.calls generalizing world with
  | nil => exact ⟨[], world, .done _, calls⟩
  | cons call rest ih =>
    obtain ⟨steps, middle, run, fewer⟩ := @runs_sessions uuid4 world call rest calls
    obtain ⟨others, after, run', none_⟩ := ih middle fewer
    exact ⟨steps ++ others, after, run.append run', none_⟩

/-! ## Sessions end once -/

/-- Nothing can be done with a session. -/
structure Dead (registry : MediaSessionRegistry Nat) (sessionId : Uuid) : Prop where
  active : registry.active sessionId = false
  authorize : ∀ ownerUserId cameraId, registry.authorize sessionId ownerUserId cameraId = false
  streamContext : ∀ ownerUserId cameraId, registry.streamContext sessionId ownerUserId cameraId = none
  renew : ∀ ownerUserId cameraId ttlSeconds now after,
    registry.renew sessionId ownerUserId cameraId ttlSeconds now ≠ .ok (after, true)
  register : ∀ key cleanup, registry.registerCleanup sessionId key cleanup = (registry, false)
  revoke : ∀ ownerUserId cameraId, registry.revoke sessionId ownerUserId cameraId = none

theorem dead_of_gone {registry : MediaSessionRegistry Nat} {sessionId : Uuid}
    (gone : registry.sessions.get? sessionId = none) : Dead registry sessionId := by
  have notOwned (ownerUserId cameraId : Uuid) : registry.owned sessionId ownerUserId cameraId = none := by
    simp [owned, gone]
  constructor
  · simp [MediaSessionRegistry.active, gone]
  · intro ownerUserId cameraId
    simp [MediaSessionRegistry.authorize, notOwned]
  · intro ownerUserId cameraId
    simp [MediaSessionRegistry.streamContext, notOwned]
  · intro ownerUserId cameraId ttlSeconds now after
    simp only [MediaSessionRegistry.renew, notOwned]
    split <;> simp
  · intro key cleanup
    simp [registerCleanup, gone]
  · intro ownerUserId cameraId
    simp [MediaSessionRegistry.revoke, gone]

/-- In every history: a callback ends a session only when its last renewal is over; a cleanup has
run or is going to run, once, if and only if it was registered when its session ended; what ended
is dead; and the calls that are under way can always come to their end, so that nothing is left
to run. -/
theorem media_session_ends_once (fresh : Fresh world) {steps : List Unit}
    (run : MediaHistory uuid4 world steps world') :
    (∀ before between after sessionId renewedAt ttlSeconds now,
      world'.log = before ++ .renewed sessionId renewedAt ttlSeconds :: between ++ .ended sessionId now true :: after →
      (∀ otherAt otherTtl, .renewed sessionId otherAt otherTtl ∉ between) → renewedAt + seconds ttlSeconds ≤ now) ∧
    (∀ registration, world'.log.count (.invoked registration) + pending world'.calls registration =
      if fate world'.log registration = .owed then 1 else 0) ∧
    (∀ sessionId now byTimer, .ended sessionId now byTimer ∈ world'.log → Dead world'.registry sessionId) ∧
    ∃ rest finished, MediaHistory uuid4 world' rest finished ∧ finished.calls = [] := by
  have sound : Sound world' := @Run.invariant _ _ _ Sound (fun _ _ _ kept step => kept.step step) _ _ _ run fresh.sound
  refine ⟨?_, sound.counted, fun sessionId now byTimer ended => dead_of_gone (sound.dead sessionId now byTimer ended).2,
    runs_calls world'⟩
  intro before between after sessionId renewedAt ttlSeconds now split last
  exact sound.timely _ after sessionId now split _ (renewedUntil_last last)

end Invariant

/-- A session that is renewed for a shorter time, and ends by its timer. -/
def shorterRenewal : List MediaEvent :=
  [.issued 1, .registered 0 1 "preview", .renewed 1 0 100, .renewed 1 (seconds 1) 5, .ended 1 (seconds 6) true, .invoked 0]

theorem shorterRenewal_history :
    ∃ steps world', MediaHistory .counting { now := 0 } steps world' ∧ world'.log = shorterRenewal := by
  refine ⟨List.replicate 8 (), _, .next (@MediaStep.issue .counting _ 7 8 60 none none _ _ rfl)
    (.next (@MediaStep.register _ _ 1 "preview" _ rfl) (.next (@MediaStep.renew _ _ 1 7 8 100 _ rfl)
      (.next (@MediaStep.wait _ _ (seconds 1) (by decide)) (.next (@MediaStep.renew _ _ 1 7 8 5 _ rfl)
        (.next (@MediaStep.wait _ _ (seconds 6) (by decide))
          (.next (@MediaStep.expire _ _ ⟨seconds 6, 1, 2⟩ _ _ (by decide) (by decide) rfl)
            (.next (@MediaStep.cleanup _ _ [] [] _ 0 [] rfl rfl (.error .overflowError)) (.done _)))))))), rfl⟩

/-- The time of a renewal does not last when the session is renewed again for a shorter one. -/
theorem renewal_cut_short : ¬∀ (uuid4 : Supply Uuid) (world world' : MediaWorld) (steps : List Unit),
    Fresh world → MediaHistory uuid4 world steps world' →
    ∀ before after sessionId renewedAt ttlSeconds now,
      world'.log = before ++ .renewed sessionId renewedAt ttlSeconds :: after → .ended sessionId now true ∈ after →
      renewedAt + seconds ttlSeconds ≤ now := by
  intro always
  obtain ⟨steps, world', run, logged⟩ := shorterRenewal_history
  have wrong := always .counting _ world' steps ⟨rfl, rfl, rfl, rfl⟩ run [.issued 1, .registered 0 1 "preview"]
    [.renewed 1 (seconds 1) 5, .ended 1 (seconds 6) true, .invoked 0] 1 0 100 (seconds 6) logged (by decide)
  exact absurd wrong (by decide)

theorem media_session_ends_once_shorter : ∃ world' : MediaWorld, world'.log = shorterRenewal ∧
    Dead world'.registry 1 ∧ world'.log.count (.invoked 0) + pending world'.calls 0 = 1 := by
  obtain ⟨steps, world', run, logged⟩ := shorterRenewal_history
  obtain ⟨-, counted, dead, -⟩ := media_session_ends_once ⟨rfl, rfl, rfl, rfl⟩ run
  refine ⟨world', logged, dead 1 (seconds 6) true (by rw [logged]; decide), ?_⟩
  have owed : fate world'.log 0 = .owed := by
    rw [logged]
    decide
  rw [counted 0, if_pos owed]

end ZeroNvr.MediaSessionRegistry
