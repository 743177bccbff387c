import ZeroNvr.Cameras.LiveTranscode
import ZeroNvr.Lib.Run

/-! # Leases on live transcodes

Leases and derivatives always agree, and there are never too many derivatives.  A
timer carries no generation, so a callback that was due when its timer was replaced
ends what the new timer stands for; where no such callback runs, every lease and every
idle derivative has its full time.
-/

namespace ZeroNvr.TranscodeLeases

open Lib LiveTranscodeManager

variable {tuning : RuntimeTuningSettings} {env : TranscodeEnv} {manager : LiveTranscodeManager} {now : Int}
  {granted emptied : Uuid → Int}

/-! ## Timers -/

/-- What a timer stands for stays. -/
def TimersKept (before after : Table ExpiryTimer) : Prop :=
  ∀ timer ∈ before, ∃ kept ∈ after, kept.id = timer.id ∧ kept.callback = timer.callback ∧ kept.dueAt = timer.dueAt

theorem TimersKept.refl (timers : Table ExpiryTimer) : TimersKept timers timers :=
  fun timer member => ⟨timer, member, rfl, rfl, rfl⟩

theorem TimersKept.trans {one two three : Table ExpiryTimer} (first : TimersKept one two) (second : TimersKept two three) :
    TimersKept one three := by
  intro timer member
  obtain ⟨middle, middleMember, id, callback, dueAt⟩ := first timer member
  obtain ⟨kept, keptMember, keptId, keptCallback, keptDueAt⟩ := second middle middleMember
  exact ⟨kept, keptMember, keptId.trans id, keptCallback.trans callback, keptDueAt.trans dueAt⟩

theorem timersKept_mapRows {timers : Table ExpiryTimer} {p : ExpiryTimer → Bool} {f : ExpiryTimer → ExpiryTimer}
    {keeps : ∀ timer, Keyed.key (if p timer then f timer else timer) = Keyed.key timer}
    (same : ∀ timer, (f timer).id = timer.id ∧ (f timer).callback = timer.callback ∧ (f timer).dueAt = timer.dueAt) :
    TimersKept timers (timers.mapRows (fun timer => if p timer then f timer else timer) keeps) := by
  intro timer member
  refine ⟨_, Table.mem_mapRows.mpr ⟨timer, member, rfl⟩, ?_⟩
  split
  · exact same timer
  · exact ⟨rfl, rfl, rfl⟩

/-- A timer is set for the callback at the time. -/
def Scheduled (timers : Table ExpiryTimer) (timer : Option Nat) (callback : TimerCallback) (dueAt : Int) : Prop :=
  ∃ row ∈ timers, timer = some row.id ∧ row.callback = callback ∧ row.dueAt = dueAt

theorem Scheduled.kept {before after : Table ExpiryTimer} {timer : Option Nat} {callback : TimerCallback} {dueAt : Int}
    (scheduled : Scheduled before timer callback dueAt) (kept : TimersKept before after) :
    Scheduled after timer callback dueAt := by
  obtain ⟨row, member, isTimer, isCallback, isDueAt⟩ := scheduled
  obtain ⟨other, otherMember, id, callback, dueAt⟩ := kept row member
  exact ⟨other, otherMember, isTimer.trans (congrArg some id.symm), callback.trans isCallback, dueAt.trans isDueAt⟩

/-- The timer that a scheduled callback is set for is due when it runs. -/
theorem Scheduled.due {timers : Table ExpiryTimer} {timer : ExpiryTimer} {callback : TimerCallback} {dueAt : Int}
    (scheduled : Scheduled timers (some timer.id) callback dueAt) (member : timer ∈ timers)
    (runs : timer.runs now = true) : dueAt ≤ now := by
  obtain ⟨row, rowMember, isTimer, _, rfl⟩ := scheduled
  obtain rfl : timer = row := Table.eq_of_key_eq member rowMember (Option.some.inj isTimer)
  exact (of_decide_eq_true runs).2.1

@[simp] theorem cancelTimer_derivatives (timer : Option Nat) :
    (manager.cancelTimer timer now).derivatives = manager.derivatives := by
  cases timer <;> rfl

@[simp] theorem cancelTimer_leases (timer : Option Nat) : (manager.cancelTimer timer now).leases = manager.leases := by
  cases timer <;> rfl

theorem cancelTimer_timers (timer : Option Nat) : TimersKept manager.timers (manager.cancelTimer timer now).timers := by
  cases timer with
  | none => exact .refl _
  | some id =>
    intro timer member
    refine ⟨_, (@Table.mem_modify _ _ _ _ manager.timers id (ExpiryTimer.cancelled · now) (fun _ => rfl) _).mpr
      ⟨timer, member, rfl⟩, ?_⟩
    split <;> exact ⟨rfl, rfl, rfl⟩

theorem makeTimer_timers (ttlSeconds : Nat) (callback : TimerCallback) :
    TimersKept manager.timers (manager.makeTimer ttlSeconds callback now).1.timers ∧
      Scheduled (manager.makeTimer ttlSeconds callback now).1.timers
        (some (manager.makeTimer ttlSeconds callback now).2) callback (now + seconds ttlSeconds) :=
  ⟨fun timer member => ⟨timer, Table.mem_create.mpr (.inl member), rfl, rfl, rfl⟩,
    ⟨_, Table.mem_create.mpr (.inr rfl), rfl, rfl, rfl⟩⟩

/-! ## The invariant -/

/-- Leases and derivatives agree, and what is to expire has a timer for its full time. -/
structure Sound (tuning : RuntimeTuningSettings) (granted emptied : Uuid → Int) (manager : LiveTranscodeManager) :
    Prop where
  held : ∀ lease ∈ manager.leases, ∃ entry ∈ manager.derivatives, entry.key = lease.key ∧ lease.leaseId ∈ entry.leases
  known : ∀ entry ∈ manager.derivatives, ∀ id ∈ entry.leases, ∃ lease ∈ manager.leases,
    lease.leaseId = id ∧ lease.key = entry.key
  leaseTimer : ∀ lease ∈ manager.leases, Scheduled manager.timers lease.timer (.expireLease lease.leaseId)
    (granted lease.leaseId + seconds tuning.liveTranscodeLeaseTtlSeconds)
  idleTimer : ∀ entry ∈ manager.derivatives, entry.leases = ∅ → Scheduled manager.timers entry.idleTimer
    (.expireDerivative entry.key) (emptied entry.key + seconds tuning.liveTranscodeIdleTtlSeconds)

theorem lease_eq {lease other : LeaseState} (member : lease ∈ manager.leases) (otherMember : other ∈ manager.leases)
    (same : lease.leaseId = other.leaseId) : lease = other := Table.eq_of_key_eq member otherMember same

theorem derivative_eq {entry other : DerivativeState} (member : entry ∈ manager.derivatives)
    (otherMember : other ∈ manager.derivatives) (same : entry.key = other.key) : entry = other :=
  Table.eq_of_key_eq member otherMember same

/-- A lease is held by one derivative only. -/
theorem Sound.holder_eq (sound : Sound tuning granted emptied manager) {entry other : DerivativeState}
    (member : entry ∈ manager.derivatives) (otherMember : other ∈ manager.derivatives) {id : Uuid}
    (holds : id ∈ entry.leases) (otherHolds : id ∈ other.leases) : entry = other := by
  obtain ⟨lease, leaseMember, isId, key⟩ := sound.known entry member id holds
  obtain ⟨lease', leaseMember', isId', key'⟩ := sound.known other otherMember id otherHolds
  obtain rfl : lease = lease' := lease_eq leaseMember leaseMember' (isId.trans isId'.symm)
  exact derivative_eq member otherMember (key.symm.trans key')

theorem Sound.holder_iff (sound : Sound tuning granted emptied manager) (id : Uuid) :
    (∃ lease ∈ manager.leases, lease.leaseId = id) ↔
      ∃! entry, entry ∈ manager.derivatives ∧ id ∈ entry.leases := by
  constructor
  · rintro ⟨lease, member, rfl⟩
    obtain ⟨entry, entryMember, _, holds⟩ := sound.held lease member
    exact ⟨entry, ⟨entryMember, holds⟩, fun other ⟨otherMember, otherHolds⟩ =>
      sound.holder_eq otherMember entryMember otherHolds holds⟩
  · rintro ⟨entry, ⟨member, holds⟩, _⟩
    obtain ⟨lease, leaseMember, isId, _⟩ := sound.known entry member id holds
    exact ⟨lease, leaseMember, isId⟩

theorem Sound.timers (sound : Sound tuning granted emptied manager) {manager' : LiveTranscodeManager}
    (derivatives : manager'.derivatives = manager.derivatives) (leases : manager'.leases = manager.leases)
    (kept : TimersKept manager.timers manager'.timers) : Sound tuning granted emptied manager' := by
  refine ⟨?_, ?_, fun lease member => ?_, fun entry member idle => ?_⟩
  · rw [derivatives, leases]
    exact sound.held
  · rw [derivatives, leases]
    exact sound.known
  · rw [leases] at member
    exact (sound.leaseTimer lease member).kept kept
  · rw [derivatives] at member
    exact (sound.idleTimer entry member idle).kept kept

/-! ## Derivatives that are dropped -/

/-- Some derivatives are gone with their leases. -/
structure Shrinks (before after : LiveTranscodeManager) : Prop where
  derivatives : ∀ entry ∈ after.derivatives, entry ∈ before.derivatives
  fewer : after.derivatives.rows.length ≤ before.derivatives.rows.length
  leases : ∀ lease ∈ after.leases, lease ∈ before.leases
  sound : ∀ {tuning granted emptied}, Sound tuning granted emptied before → Sound tuning granted emptied after

theorem Shrinks.refl (manager : LiveTranscodeManager) : Shrinks manager manager :=
  ⟨fun _ member => member, le_refl _, fun _ member => member, fun sound => sound⟩

theorem Shrinks.trans {one two three : LiveTranscodeManager} (first : Shrinks one two) (second : Shrinks two three) :
    Shrinks one three :=
  ⟨fun entry member => first.derivatives entry (second.derivatives entry member), second.fewer.trans first.fewer,
    fun lease member => first.leases lease (second.leases lease member), fun sound => second.sound (first.sound sound)⟩

theorem dropEntry_shrinks (manager : LiveTranscodeManager) (key : Uuid) (now : Int) :
    Shrinks manager (manager.dropEntry key now).1 := by
  unfold dropEntry
  split
  next => exact .refl manager
  next entry isEntry =>
    have isKey : entry.key = key := Table.key_of_get? isEntry
    have entryMember : entry ∈ manager.derivatives := Table.mem_of_get? isEntry
    refine ⟨fun other member => (Table.mem_remove.mp member).1, List.length_filter_le _ _,
      fun lease member => (Table.mem_keep.mp member).1, fun {tuning granted emptied} sound => ?_⟩
    have kept := @timersKept_mapRows manager.timers (fun timer => manager.timersOf entry timer.id)
      (fun timer => timer.cancelled now) (fun timer => by split <;> rfl) fun timer => ⟨rfl, rfl, rfl⟩
    refine ⟨fun lease member => ?_, fun other member id holds => ?_, fun lease member => ?_, fun other member idle => ?_⟩
    · obtain ⟨leaseMember, notHeld⟩ := Table.mem_keep.mp member
      obtain ⟨holder, holderMember, sameKey, holds⟩ := sound.held lease leaseMember
      refine ⟨holder, Table.mem_remove.mpr ⟨holderMember, fun isDropped => ?_⟩, sameKey, holds⟩
      obtain rfl : holder = entry := derivative_eq holderMember entryMember (isDropped.trans isKey.symm)
      exact of_decide_eq_true notHeld holds
    · obtain ⟨otherMember, differs⟩ := Table.mem_remove.mp member
      obtain ⟨lease, leaseMember, isId, sameKey⟩ := sound.known other otherMember id holds
      refine ⟨lease, Table.mem_keep.mpr ⟨leaseMember, decide_eq_true fun dropped => ?_⟩, isId, sameKey⟩
      rw [isId] at dropped
      obtain rfl := sound.holder_eq otherMember entryMember holds dropped
      exact differs isKey
    · exact (sound.leaseTimer lease (Table.mem_keep.mp member).1).kept kept
    · exact (sound.idleTimer other (Table.mem_remove.mp member).1 idle).kept kept

@[simp] theorem stopProcess_derivatives (process : ProcessId) :
    (manager.stopProcess env process).derivatives = manager.derivatives := by
  unfold stopProcess
  split <;> rfl

@[simp] theorem stopProcess_leases (process : ProcessId) : (manager.stopProcess env process).leases = manager.leases := by
  unfold stopProcess
  split <;> rfl

@[simp] theorem stopProcess_timers (process : ProcessId) : (manager.stopProcess env process).timers = manager.timers := by
  unfold stopProcess
  split <;> rfl

/-- Derivatives, leases and timers stay. -/
theorem shrinks_of_same {manager' : LiveTranscodeManager} (derivatives : manager'.derivatives = manager.derivatives)
    (leases : manager'.leases = manager.leases) (timers : manager'.timers = manager.timers) : Shrinks manager manager' := by
  refine ⟨by rw [derivatives]; exact fun _ member => member, by rw [derivatives],
    by rw [leases]; exact fun _ member => member, fun sound => sound.timers derivatives leases ?_⟩
  rw [timers]
  exact .refl _

theorem stopProcess_shrinks (process : ProcessId) : Shrinks manager (manager.stopProcess env process) :=
  shrinks_of_same (stopProcess_derivatives process) (stopProcess_leases process) (stopProcess_timers process)

theorem dropAndStop_shrinks (manager : LiveTranscodeManager) (key : Uuid) (now : Int) :
    Shrinks manager (manager.dropAndStop env key now) := by
  have dropped := dropEntry_shrinks manager key now
  unfold dropAndStop
  split
  next same =>
    rw [same] at dropped
    exact dropped
  next same =>
    rw [same] at dropped
    exact dropped.trans (stopProcess_shrinks _)

theorem dropExited_shrinks (entries : List DerivativeState) (manager : LiveTranscodeManager) :
    Shrinks manager (dropExited env now entries manager) := by
  induction entries generalizing manager with
  | nil => exact .refl manager
  | cons entry rest ih =>
    unfold dropExited
    refine Shrinks.trans ?_ (ih _)
    split
    · exact dropEntry_shrinks manager entry.key now
    · exact .refl manager

theorem dropIdle_shrinks (entries : List DerivativeState) (manager : LiveTranscodeManager) :
    Shrinks manager (dropIdle tuning env now entries manager) := by
  induction entries generalizing manager with
  | nil => exact .refl manager
  | cons entry rest ih =>
    have dropped := @dropAndStop_shrinks env manager entry.key now
    unfold dropIdle
    dsimp only
    split
    · exact dropped
    · exact dropped.trans (ih _)

theorem freeIdleCapacity_shrinks (manager : LiveTranscodeManager) (now : Int) :
    Shrinks manager (freeIdleCapacity tuning env manager now) := by
  have reaped := @dropExited_shrinks env now manager.derivatives.rows manager
  unfold freeIdleCapacity
  dsimp only
  split
  · exact reaped
  · exact reaped.trans (dropIdle_shrinks _ _)

/-! ## Starting a derivative -/

theorem startAttempts_spec {key : Uuid} {attempts : List Acceleration} {manager manager' : LiveTranscodeManager}
    {answer : Except LiveTranscodeError DerivativeState}
    (started : startAttempts env key attempts manager = (answer, manager')) :
    Shrinks manager manager' ∧ manager'.derivatives = manager.derivatives ∧
      ∀ entry, answer = .ok entry → entry.key = key ∧ entry.leases = ∅ := by
  induction attempts generalizing manager with
  | nil =>
    cases started
    exact ⟨.refl _, rfl, fun _ failed => by cases failed⟩
  | cons acceleration rest ih =>
    unfold startAttempts at started
    split at started
    next =>
      cases started
      exact ⟨.refl _, rfl, fun _ failed => by cases failed⟩
    next process _ =>
      split at started
      next =>
        cases started
        exact ⟨.refl _, rfl, fun entry isEntry => by cases isEntry; exact ⟨rfl, rfl⟩⟩
      next =>
        obtain ⟨shrinks, derivatives, isEntry⟩ := ih started
        exact ⟨(stopProcess_shrinks process).trans shrinks, derivatives.trans (stopProcess_derivatives process), isEntry⟩

theorem startDerivative_spec {key : Uuid} {manager manager' : LiveTranscodeManager}
    {answer : Except LiveTranscodeError DerivativeState}
    (started : startDerivative env manager key = (answer, manager')) :
    Shrinks manager manager' ∧ manager'.derivatives = manager.derivatives ∧
      ∀ entry, answer = .ok entry → entry.key = key ∧ entry.leases = ∅ := by
  have probing : Shrinks manager (manager.probed env).1 ∧ (manager.probed env).1.derivatives = manager.derivatives := by
    unfold probed
    split
    · exact ⟨.refl manager, rfl⟩
    · exact ⟨shrinks_of_same rfl rfl rfl, rfl⟩
  obtain ⟨shrinks, derivatives, isEntry⟩ := startAttempts_spec started
  exact ⟨probing.1.trans shrinks, derivatives.trans probing.2, isEntry⟩

/-- A derivative is only started where there is room for it. -/
theorem startWithin_spec {key : Uuid} {manager manager' : LiveTranscodeManager}
    {answer : Except LiveTranscodeError DerivativeState}
    (started : startWithin tuning env manager key now = (answer, manager')) :
    Shrinks manager manager' ∧ ∀ entry, answer = .ok entry → entry.key = key ∧ entry.leases = ∅ ∧
      manager'.derivatives.rows.length < tuning.liveTranscodeMaxDerivatives := by
  have freed := @freeIdleCapacity_shrinks tuning env manager now
  unfold startWithin at started
  dsimp only at started
  split at started
  next =>
    cases started
    exact ⟨freed, fun _ failed => by cases failed⟩
  next room =>
    obtain ⟨shrinks, derivatives, isEntry⟩ := startDerivative_spec started
    refine ⟨freed.trans shrinks, fun entry isOk => ?_⟩
    rw [derivatives]
    exact ⟨(isEntry entry isOk).1, (isEntry entry isOk).2, not_le.mp room⟩

/-- The derivative in service, or none of the profile. -/
theorem serving_spec {key : Uuid} {manager manager' : LiveTranscodeManager} {serves : Option DerivativeState}
    (served : serving env manager key now = (manager', serves)) :
    Shrinks manager manager' ∧ (∀ entry, serves = some entry → entry ∈ manager'.derivatives ∧ entry.key = key) ∧
      (serves = none → ∀ entry ∈ manager'.derivatives, entry.key ≠ key) := by
  unfold serving at served
  split at served
  next absent =>
    cases served
    exact ⟨.refl manager, (fun _ none => by cases none), fun _ => Table.get?_eq_none_iff.mp absent⟩
  next entry isEntry =>
    split at served
    next =>
      cases served
      refine ⟨dropAndStop_shrinks manager key now, (fun _ none => by cases none), fun _ other member isKey => ?_⟩
      unfold dropAndStop dropEntry at member
      rw [isEntry] at member
      dsimp only at member
      rw [stopProcess_derivatives] at member
      exact (Table.mem_remove.mp member).2 isKey
    next =>
      cases served
      refine ⟨.refl manager, fun other isOther => ?_, fun none => by cases none⟩
      cases isOther
      exact ⟨Table.mem_of_get? isEntry, Table.key_of_get? isEntry⟩

/-! ## Leases -/

/-- The lease gets a timer for its full time from now. -/
theorem sound_scheduled {leaseId : Uuid} {lease : LeaseState} (isLease : manager.leases.get? leaseId = some lease)
    (held : ∀ lease ∈ manager.leases, ∃ entry ∈ manager.derivatives, entry.key = lease.key ∧ lease.leaseId ∈ entry.leases)
    (known : ∀ entry ∈ manager.derivatives, ∀ id ∈ entry.leases, ∃ lease ∈ manager.leases,
      lease.leaseId = id ∧ lease.key = entry.key)
    (others : ∀ lease ∈ manager.leases, lease.leaseId ≠ leaseId → Scheduled manager.timers lease.timer
      (.expireLease lease.leaseId) (granted lease.leaseId + seconds tuning.liveTranscodeLeaseTtlSeconds))
    (idleTimer : ∀ entry ∈ manager.derivatives, entry.leases = ∅ → Scheduled manager.timers entry.idleTimer
      (.expireDerivative entry.key) (emptied entry.key + seconds tuning.liveTranscodeIdleTtlSeconds)) :
    Sound tuning (Function.update granted leaseId now) emptied (scheduleLeaseExpiry tuning manager leaseId now) := by
  unfold scheduleLeaseExpiry
  rw [isLease]
  dsimp only
  generalize isCancelled : manager.cancelTimer lease.timer now = cancelled
  have derivatives : cancelled.derivatives = manager.derivatives := by rw [← isCancelled, cancelTimer_derivatives]
  have leases : cancelled.leases = manager.leases := by rw [← isCancelled, cancelTimer_leases]
  obtain ⟨made, scheduled⟩ := @makeTimer_timers cancelled now tuning.liveTranscodeLeaseTtlSeconds (.expireLease leaseId)
  have kept : TimersKept manager.timers
      (cancelled.makeTimer tuning.liveTranscodeLeaseTtlSeconds (.expireLease leaseId) now).1.timers := by
    refine TimersKept.trans ?_ made
    rw [← isCancelled]
    exact cancelTimer_timers _
  have mem_leases {row : LeaseState} (member : row ∈ (cancelled.makeTimer tuning.liveTranscodeLeaseTtlSeconds
      (.expireLease leaseId) now).1.leases.modify leaseId fun lease => { lease with
        timer := some (cancelled.makeTimer tuning.liveTranscodeLeaseTtlSeconds (.expireLease leaseId) now).2 }) :
      ∃ old ∈ manager.leases, (if old.leaseId = leaseId then { old with
        timer := some (cancelled.makeTimer tuning.liveTranscodeLeaseTtlSeconds (.expireLease leaseId) now).2 }
        else old) = row := by
    rw [← leases]
    exact Table.mem_modify.mp member
  refine ⟨fun row member => ?_, fun entry member id holds => ?_, fun row member => ?_, fun entry member idle => ?_⟩
  · obtain ⟨old, oldMember, rfl⟩ := mem_leases member
    obtain ⟨entry, entryMember, sameKey, holds⟩ := held old oldMember
    refine ⟨entry, derivatives ▸ entryMember, ?_⟩
    split <;> exact ⟨sameKey, holds⟩
  · obtain ⟨old, oldMember, isId, sameKey⟩ := known entry (derivatives ▸ member) id holds
    rw [← leases] at oldMember
    refine ⟨_, (@Table.mem_modify _ _ _ _ cancelled.leases leaseId (fun lease => { lease with timer := some _ })
      (fun _ => rfl) _).mpr ⟨old, oldMember, rfl⟩, ?_⟩
    split <;> exact ⟨isId, sameKey⟩
  · obtain ⟨old, oldMember, rfl⟩ := mem_leases member
    split
    next same =>
      dsimp only
      rw [same, Function.update_self]
      exact scheduled
    next differs =>
      rw [Function.update_of_ne differs]
      exact (others old oldMember differs).kept kept
  · exact (idleTimer entry (derivatives ▸ member) idle).kept kept

/-- A new lease on a derivative that is in service, or that was just started. -/
theorem Sound.grant (sound : Sound tuning granted emptied manager) {entry : DerivativeState}
    {leaseId cameraId ownerUserId : Uuid} (fresh : ∀ lease ∈ manager.leases, lease.leaseId ≠ leaseId)
    (serves : entry ∈ manager.derivatives ∨ (entry.leases = ∅ ∧ ∀ other ∈ manager.derivatives, other.key ≠ entry.key)) :
    Sound tuning (Function.update granted leaseId now) emptied
      (grant tuning manager entry leaseId cameraId ownerUserId now) := by
  unfold LiveTranscodeManager.grant
  dsimp only
  rw [cancelTimer_derivatives, cancelTimer_leases]
  have kept := @cancelTimer_timers manager now entry.idleTimer
  have holder (other : DerivativeState) (member : other ∈ manager.derivatives) (isKey : other.key = entry.key) :
      other = entry := by
    rcases serves with entryMember | ⟨_, absent⟩
    · exact derivative_eq member entryMember isKey
    · exact absurd isKey (absent other member)
  refine sound_scheduled (Table.get?_eq_some_iff.mpr ⟨Table.mem_put.mpr (.inl rfl), rfl⟩) ?_ ?_ ?_ ?_
  · intro lease member
    dsimp only
    rcases Table.mem_put.mp member with rfl | ⟨old, _⟩
    · exact ⟨_, Table.mem_put.mpr (.inl rfl), rfl, Finset.mem_insert_self _ _⟩
    · obtain ⟨other, otherMember, sameKey, holds⟩ := sound.held lease old
      by_cases isKey : other.key = entry.key
      · obtain rfl := holder other otherMember isKey
        exact ⟨_, Table.mem_put.mpr (.inl rfl), sameKey, Finset.mem_insert_of_mem holds⟩
      · exact ⟨other, Table.mem_put.mpr (.inr ⟨otherMember, isKey⟩), sameKey, holds⟩
  · intro other member id holds
    dsimp only at holds ⊢
    have old {other : DerivativeState} (member : other ∈ manager.derivatives) (holds : id ∈ other.leases) :
        ∃ lease ∈ manager.leases.put { leaseId, cameraId, ownerUserId, key := entry.key },
          lease.leaseId = id ∧ lease.key = other.key := by
      obtain ⟨lease, leaseMember, isId, sameKey⟩ := sound.known other member id holds
      exact ⟨lease, Table.mem_put.mpr (.inr ⟨leaseMember, fresh lease leaseMember⟩), isId, sameKey⟩
    rcases Table.mem_put.mp member with rfl | ⟨otherMember, _⟩
    · rcases Finset.mem_insert.mp holds with rfl | held
      · exact ⟨_, Table.mem_put.mpr (.inl rfl), rfl, rfl⟩
      · rcases serves with entryMember | ⟨none, _⟩
        · exact @old entry entryMember held
        · rw [none] at held
          exact absurd held (Finset.notMem_empty id)
    · exact old otherMember holds
  · intro lease member differs
    rcases Table.mem_put.mp member with rfl | ⟨old, _⟩
    · exact absurd rfl differs
    · exact (sound.leaseTimer lease old).kept kept
  · intro other member idle
    rcases Table.mem_put.mp member with rfl | ⟨otherMember, _⟩
    · exact absurd idle (Finset.insert_ne_empty _ _)
    · exact (sound.idleTimer other otherMember idle).kept kept

theorem Sound.rescheduled (sound : Sound tuning granted emptied manager) {leaseId : Uuid} {lease : LeaseState}
    (isLease : manager.leases.get? leaseId = some lease) :
    Sound tuning (Function.update granted leaseId now) emptied (scheduleLeaseExpiry tuning manager leaseId now) :=
  sound_scheduled isLease sound.held sound.known (fun lease member _ => sound.leaseTimer lease member) sound.idleTimer

/-! ## The last lease -/

/-- When the derivatives last lost their last lease. -/
def emptiedBy (before after : LiveTranscodeManager) (now : Int) (emptied : Uuid → Int) (key : Uuid) : Int :=
  if (before.derivatives.get? key).any (fun entry => entry.leases ≠ ∅) ∧
      (after.derivatives.get? key).any (fun entry => entry.leases = ∅) then now
  else emptied key

theorem emptiedBy_of_was {before after : LiveTranscodeManager} {entry : DerivativeState}
    (member : entry ∈ before.derivatives) (idle : entry.leases = ∅) :
    emptiedBy before after now emptied entry.key = emptied entry.key := by
  have found : before.derivatives.get? entry.key = some entry := Table.get?_of_mem member
  refine if_neg fun both => ?_
  rw [found] at both
  exact of_decide_eq_true both.1 idle

theorem emptiedBy_of_held {before after : LiveTranscodeManager} {entry other : DerivativeState}
    (member : entry ∈ before.derivatives) (holds : entry.leases ≠ ∅) (otherMember : other ∈ after.derivatives)
    (same : other.key = entry.key) (idle : other.leases = ∅) : emptiedBy before after now emptied other.key = now := by
  have found : before.derivatives.get? other.key = some entry :=
    Table.get?_eq_some_iff.mpr ⟨member, same.symm⟩
  have otherFound : after.derivatives.get? other.key = some other := Table.get?_of_mem otherMember
  refine if_pos ?_
  rw [found, otherFound]
  exact ⟨decide_eq_true holds, decide_eq_true idle⟩

theorem Sound.congr (sound : Sound tuning granted emptied manager) {emptied' : Uuid → Int}
    (same : ∀ entry ∈ manager.derivatives, entry.leases = ∅ → emptied' entry.key = emptied entry.key) :
    Sound tuning granted emptied' manager := by
  refine ⟨sound.held, sound.known, sound.leaseTimer, fun entry member idle => ?_⟩
  rw [same entry member idle]
  exact sound.idleTimer entry member idle

/-- Where derivatives are only dropped, none has lost its last lease. -/
theorem Sound.shrinks (sound : Sound tuning granted emptied manager) {manager' : LiveTranscodeManager}
    (shrinks : Shrinks manager manager') :
    Sound tuning granted (emptiedBy manager manager' now emptied) manager' :=
  (shrinks.sound sound).congr fun entry member idle => emptiedBy_of_was (shrinks.derivatives entry member) idle

/-- The derivative gets a timer for its full idle time from now. -/
theorem sound_idle {key : Uuid} {entry : DerivativeState}
    (held : ∀ lease ∈ manager.leases, ∃ entry ∈ manager.derivatives, entry.key = lease.key ∧ lease.leaseId ∈ entry.leases)
    (known : ∀ entry ∈ manager.derivatives, ∀ id ∈ entry.leases, ∃ lease ∈ manager.leases,
      lease.leaseId = id ∧ lease.key = entry.key)
    (leaseTimer : ∀ lease ∈ manager.leases, Scheduled manager.timers lease.timer
      (.expireLease lease.leaseId) (granted lease.leaseId + seconds tuning.liveTranscodeLeaseTtlSeconds))
    (others : ∀ entry ∈ manager.derivatives, entry.key ≠ key → entry.leases = ∅ → Scheduled manager.timers entry.idleTimer
      (.expireDerivative entry.key) (emptied entry.key + seconds tuning.liveTranscodeIdleTtlSeconds)) :
    Sound tuning granted (Function.update emptied key now) (scheduleIdle tuning manager key entry now) := by
  unfold scheduleIdle
  dsimp only
  generalize isCancelled : manager.cancelTimer entry.idleTimer now = cancelled
  have derivatives : cancelled.derivatives = manager.derivatives := by rw [← isCancelled, cancelTimer_derivatives]
  have leases : cancelled.leases = manager.leases := by rw [← isCancelled, cancelTimer_leases]
  obtain ⟨made, scheduled⟩ := @makeTimer_timers cancelled now tuning.liveTranscodeIdleTtlSeconds (.expireDerivative key)
  have kept : TimersKept manager.timers
      (cancelled.makeTimer tuning.liveTranscodeIdleTtlSeconds (.expireDerivative key) now).1.timers := by
    refine TimersKept.trans ?_ made
    rw [← isCancelled]
    exact cancelTimer_timers _
  have mem_derivatives {row : DerivativeState} (member : row ∈ (cancelled.makeTimer tuning.liveTranscodeIdleTtlSeconds
      (.expireDerivative key) now).1.derivatives.modify key fun entry => { entry with
        idleTimer := some (cancelled.makeTimer tuning.liveTranscodeIdleTtlSeconds (.expireDerivative key) now).2 }) :
      ∃ old ∈ manager.derivatives, (if old.key = key then { old with
        idleTimer := some (cancelled.makeTimer tuning.liveTranscodeIdleTtlSeconds (.expireDerivative key) now).2 }
        else old) = row := by
    rw [← derivatives]
    exact Table.mem_modify.mp member
  refine ⟨fun lease member => ?_, fun row member id holds => ?_, fun lease member => ?_, fun row member idle => ?_⟩
  · obtain ⟨old, oldMember, sameKey, holds⟩ := held lease (leases ▸ member)
    rw [← derivatives] at oldMember
    refine ⟨_, (@Table.mem_modify _ _ _ _ cancelled.derivatives key (fun entry => { entry with idleTimer := some _ })
      (fun _ => rfl) _).mpr ⟨old, oldMember, rfl⟩, ?_⟩
    split <;> exact ⟨sameKey, holds⟩
  · obtain ⟨old, oldMember, rfl⟩ := mem_derivatives member
    have oldHolds : id ∈ old.leases := by
      split at holds <;> exact holds
    obtain ⟨lease, leaseMember, isId, sameKey⟩ := known old oldMember id oldHolds
    refine ⟨lease, leases ▸ leaseMember, isId, ?_⟩
    split <;> exact sameKey
  · exact (leaseTimer lease (leases ▸ member)).kept kept
  · obtain ⟨old, oldMember, rfl⟩ := mem_derivatives member
    split
    next same =>
      dsimp only
      rw [same, Function.update_self]
      exact scheduled
    next differs =>
      rw [if_neg differs] at idle
      rw [Function.update_of_ne differs]
      exact (others old oldMember differs idle).kept kept

theorem scheduleIdle_others {key : Uuid} {entry row : DerivativeState} (differs : row.key ≠ key)
    (member : row ∈ (scheduleIdle tuning manager key entry now).derivatives) : row ∈ manager.derivatives := by
  unfold scheduleIdle at member
  dsimp only at member
  obtain ⟨old, oldMember, rfl⟩ := Table.mem_modify.mp member
  have kept : ((manager.cancelTimer entry.idleTimer now).makeTimer tuning.liveTranscodeIdleTtlSeconds
      (.expireDerivative key) now).1.derivatives = manager.derivatives := cancelTimer_derivatives _
  rw [kept] at oldMember
  split at differs
  next same => exact absurd same differs
  next other =>
    rw [if_neg other]
    exact oldMember

/-- A lease that goes, and the derivative it was on. -/
theorem Sound.discard (sound : Sound tuning granted emptied manager) {lease : LeaseState}
    (isLease : lease ∈ manager.leases) :
    Sound tuning granted (emptiedBy manager (discard tuning manager lease now) now emptied)
      (discard tuning manager lease now) := by
  obtain ⟨entry, entryMember, isKey, holdsLease⟩ := sound.held lease isLease
  have found : manager.derivatives.get? lease.key = some entry := Table.get?_eq_some_iff.mpr ⟨entryMember, isKey⟩
  have nonempty : entry.leases ≠ ∅ := Finset.ne_empty_of_mem holdsLease
  unfold LiveTranscodeManager.discard
  dsimp only
  generalize isCancelled : LiveTranscodeManager.cancelTimer
    { manager with leases := manager.leases.remove lease.leaseId } lease.timer now = cancelled
  have derivatives : cancelled.derivatives = manager.derivatives := by rw [← isCancelled, cancelTimer_derivatives]
  have leases : cancelled.leases = manager.leases.remove lease.leaseId := by rw [← isCancelled, cancelTimer_leases]
  have kept : TimersKept manager.timers cancelled.timers := by
    rw [← isCancelled]
    exact @cancelTimer_timers { manager with leases := manager.leases.remove lease.leaseId } now lease.timer
  rw [derivatives, found]
  dsimp only
  generalize isLeft : { cancelled with derivatives := manager.derivatives.modify lease.key fun entry' =>
    { entry' with leases := entry.leases.erase lease.leaseId } } = left
  have leftLeases : left.leases = manager.leases.remove lease.leaseId := by rw [← isLeft, ← leases]
  have leftTimers : TimersKept manager.timers left.timers := by
    rw [← isLeft]
    exact kept
  have mem_left {row : DerivativeState} : row ∈ left.derivatives ↔ (row ∈ manager.derivatives ∧ row.key ≠ lease.key) ∨
      row = { entry with leases := entry.leases.erase lease.leaseId } := by
    rw [← isLeft, Table.mem_modify]
    constructor
    · rintro ⟨old, oldMember, rfl⟩
      by_cases same : old.key = lease.key
      · obtain rfl := derivative_eq oldMember entryMember (same.trans isKey.symm)
        exact .inr (if_pos same)
      · have unchanged : ¬ Keyed.key old = lease.key := same
        rw [if_neg unchanged]
        exact .inl ⟨oldMember, same⟩
    · rintro (⟨member, differs⟩ | rfl)
      · exact ⟨row, member, if_neg differs⟩
      · exact ⟨entry, entryMember, if_pos isKey⟩
  have held : ∀ other ∈ left.leases, ∃ row ∈ left.derivatives, row.key = other.key ∧ other.leaseId ∈ row.leases := by
    intro other member
    rw [leftLeases] at member
    obtain ⟨otherMember, differs⟩ := Table.mem_remove.mp member
    obtain ⟨row, rowMember, sameKey, holds⟩ := sound.held other otherMember
    by_cases same : row.key = lease.key
    · obtain rfl := derivative_eq rowMember entryMember (same.trans isKey.symm)
      exact ⟨_, mem_left.mpr (.inr rfl), sameKey, Finset.mem_erase.mpr ⟨differs, holds⟩⟩
    · exact ⟨row, mem_left.mpr (.inl ⟨rowMember, same⟩), sameKey, holds⟩
  have known : ∀ row ∈ left.derivatives, ∀ id ∈ row.leases, ∃ other ∈ left.leases,
      other.leaseId = id ∧ other.key = row.key := by
    intro row member id holds
    rw [leftLeases]
    rcases mem_left.mp member with ⟨rowMember, differs⟩ | rfl
    · obtain ⟨other, otherMember, isId, sameKey⟩ := sound.known row rowMember id holds
      refine ⟨other, Table.mem_remove.mpr ⟨otherMember, fun isLost => ?_⟩, isId, sameKey⟩
      obtain rfl := lease_eq otherMember isLease isLost
      exact differs sameKey.symm
    · obtain ⟨differs, held⟩ := Finset.mem_erase.mp holds
      obtain ⟨other, otherMember, rfl, sameKey⟩ := sound.known entry entryMember id held
      exact ⟨other, Table.mem_remove.mpr ⟨otherMember, differs⟩, rfl, sameKey⟩
  have leaseTimer : ∀ other ∈ left.leases, Scheduled left.timers other.timer (.expireLease other.leaseId)
      (granted other.leaseId + seconds tuning.liveTranscodeLeaseTtlSeconds) := by
    intro other member
    rw [leftLeases] at member
    exact (sound.leaseTimer other (Table.mem_remove.mp member).1).kept leftTimers
  have others : ∀ row ∈ left.derivatives, row.key ≠ lease.key → row.leases = ∅ → Scheduled left.timers row.idleTimer
      (.expireDerivative row.key) (emptied row.key + seconds tuning.liveTranscodeIdleTtlSeconds) := by
    intro row member differs idle
    rcases mem_left.mp member with ⟨rowMember, _⟩ | rfl
    · exact (sound.idleTimer row rowMember idle).kept leftTimers
    · exact absurd isKey differs
  split
  next =>
    refine (sound_idle held known leaseTimer others).congr fun row member idle => ?_
    by_cases same : row.key = lease.key
    · rw [emptiedBy_of_held entryMember nonempty member (same.trans isKey.symm) idle, same, Function.update_self]
    · rcases mem_left.mp (scheduleIdle_others same member) with ⟨rowMember, _⟩ | rfl
      · rw [emptiedBy_of_was rowMember idle, Function.update_of_ne same]
      · exact absurd isKey same
  next remains =>
    have unchanged : Sound tuning granted emptied left := by
      refine ⟨held, known, leaseTimer, fun row member idle => ?_⟩
      by_cases same : row.key = lease.key
      · rcases mem_left.mp member with ⟨_, differs⟩ | rfl
        · exact absurd same differs
        · exact absurd idle remains
      · exact others row member same idle
    refine unchanged.congr fun row member idle => ?_
    rcases mem_left.mp member with ⟨rowMember, _⟩ | rfl
    · exact emptiedBy_of_was rowMember idle
    · exact absurd idle remains

theorem Sound.release (sound : Sound tuning granted emptied manager) (leaseId : Uuid)
    (cameraId ownerUserId : Option Uuid) :
    Sound tuning granted (emptiedBy manager (release tuning manager leaseId cameraId ownerUserId now).2 now emptied)
      (release tuning manager leaseId cameraId ownerUserId now).2 := by
  unfold LiveTranscodeManager.release
  split
  next => exact sound.shrinks (.refl manager)
  next lease isLease =>
    split
    · exact sound.shrinks (.refl manager)
    split
    · exact sound.shrinks (.refl manager)
    · exact sound.discard (Table.mem_of_get? isLease)

theorem expireDerivative_shrinks (manager : LiveTranscodeManager) (key : Uuid) (now : Int) :
    Shrinks manager (expireDerivative env manager key now) := by
  unfold expireDerivative
  split
  next => exact .refl manager
  next entry _ =>
    split
    · exact .refl manager
    · exact dropAndStop_shrinks manager key now

theorem Sound.expire (sound : Sound tuning granted emptied manager) (callback : TimerCallback) :
    Sound tuning granted (emptiedBy manager (expire tuning env manager callback now) now emptied)
      (expire tuning env manager callback now) := by
  cases callback with
  | expireLease leaseId => exact sound.release leaseId none none
  | expireDerivative key => exact sound.shrinks (expireDerivative_shrinks manager key now)

/-! ## What the callbacks take away -/

theorem scheduleIdle_leases {key : Uuid} {entry : DerivativeState} :
    (scheduleIdle tuning manager key entry now).leases = manager.leases := by
  unfold scheduleIdle
  exact cancelTimer_leases _

theorem scheduleIdle_keys {key : Uuid} {entry other : DerivativeState} (member : other ∈ manager.derivatives) :
    ∃ kept ∈ (scheduleIdle tuning manager key entry now).derivatives, kept.key = other.key := by
  rw [← @cancelTimer_derivatives manager now entry.idleTimer] at member
  refine ⟨_, (@Table.mem_modify _ _ _ _ (manager.cancelTimer entry.idleTimer now).derivatives key
    (fun entry => { entry with idleTimer := some _ }) (fun _ => rfl) _).mpr ⟨other, member, rfl⟩, ?_⟩
  split <;> rfl

/-- The callback of a lease takes that lease only, and no derivative. -/
theorem discard_takes (lease : LeaseState) :
    (discard tuning manager lease now).leases = manager.leases.remove lease.leaseId ∧
      ∀ entry ∈ manager.derivatives, ∃ kept ∈ (discard tuning manager lease now).derivatives, kept.key = entry.key := by
  unfold LiveTranscodeManager.discard
  dsimp only
  generalize isCancelled : LiveTranscodeManager.cancelTimer
    { manager with leases := manager.leases.remove lease.leaseId } lease.timer now = cancelled
  have derivatives : cancelled.derivatives = manager.derivatives := by rw [← isCancelled, cancelTimer_derivatives]
  have leases : cancelled.leases = manager.leases.remove lease.leaseId := by rw [← isCancelled, cancelTimer_leases]
  rw [← derivatives]
  split
  next => exact ⟨leases, fun entry member => ⟨entry, member, rfl⟩⟩
  next held _ =>
    have kept (entry : DerivativeState) (member : entry ∈ cancelled.derivatives) :
        ∃ row ∈ cancelled.derivatives.modify lease.key fun entry' =>
          { entry' with leases := held.leases.erase lease.leaseId }, row.key = entry.key := by
      refine ⟨_, (@Table.mem_modify _ _ _ _ cancelled.derivatives lease.key
        (fun entry => { entry with leases := held.leases.erase lease.leaseId }) (fun _ => rfl) _).mpr
        ⟨entry, member, rfl⟩, ?_⟩
      split <;> rfl
    split
    · refine ⟨scheduleIdle_leases.trans leases, fun entry member => ?_⟩
      obtain ⟨row, rowMember, rowKey⟩ := kept entry member
      obtain ⟨last, lastMember, lastKey⟩ :=
        @scheduleIdle_keys tuning { cancelled with derivatives := _ } now lease.key held row rowMember
      exact ⟨last, lastMember, lastKey.trans rowKey⟩
    · exact ⟨leases, kept⟩

theorem expireLease_takes {leaseId : Uuid} {lease : LeaseState} (member : lease ∈ manager.leases)
    (gone : (expireLease tuning manager leaseId now).leases.get? lease.leaseId = none) : lease.leaseId = leaseId := by
  rw [Table.get?_eq_none_iff] at gone
  unfold expireLease release at gone
  split at gone
  next => exact absurd rfl (gone lease member)
  next found isFound =>
    have isId : found.leaseId = leaseId := Table.key_of_get? isFound
    have taken : (discard tuning manager found now).leases = manager.leases.remove found.leaseId :=
      (discard_takes found).1
    by_contra differs
    refine gone lease ?_ rfl
    change lease ∈ (discard tuning manager found now).leases
    rw [taken]
    exact Table.mem_remove.mpr ⟨member, fun same => differs (same.trans isId)⟩

theorem expireLease_keeps {leaseId : Uuid} {entry : DerivativeState} (member : entry ∈ manager.derivatives) :
    ∃ kept ∈ (expireLease tuning manager leaseId now).derivatives, kept.key = entry.key := by
  unfold expireLease release
  split
  next => exact ⟨entry, member, rfl⟩
  next found _ => exact (discard_takes found).2 entry member

/-- The callback of a derivative takes that one only, and only without leases. -/
theorem expireDerivative_takes {key : Uuid} {entry : DerivativeState} (member : entry ∈ manager.derivatives)
    (gone : (expireDerivative env manager key now).derivatives.get? entry.key = none) :
    entry.key = key ∧ entry.leases = ∅ := by
  rw [Table.get?_eq_none_iff] at gone
  unfold expireDerivative at gone
  split at gone
  next => exact absurd rfl (gone entry member)
  next found isFound =>
    split at gone
    next => exact absurd rfl (gone entry member)
    next idle =>
      unfold dropAndStop dropEntry at gone
      rw [isFound] at gone
      dsimp only at gone
      rw [stopProcess_derivatives] at gone
      have isKey : entry.key = key := by
        by_contra differs
        exact gone entry (Table.mem_remove.mpr ⟨member, differs⟩) rfl
      obtain rfl : found = entry := derivative_eq (Table.mem_of_get? isFound) member
        ((Table.key_of_get? isFound).trans isKey.symm)
      exact ⟨isKey, not_not.mp idle⟩

theorem expireDerivative_keeps {key : Uuid} {lease : LeaseState} (member : lease ∈ manager.leases) :
    lease ∈ (expireDerivative env manager key now).leases := by
  unfold expireDerivative
  split
  next => exact member
  next found isFound =>
    split
    next => exact member
    next idle =>
      unfold dropAndStop dropEntry
      rw [isFound]
      dsimp only
      rw [stopProcess_leases, not_not.mp idle]
      exact Table.mem_keep.mpr ⟨member, decide_eq_true (Finset.notMem_empty _)⟩

/-! ## Runs -/

/-- The manager, the processes that have exited, and what has happened: the leases issued, when each was
    last acquired or touched, and when each derivative lost its last one. -/
structure TranscodeWorld where
  manager : LiveTranscodeManager := {}
  exited : ProcessId → Bool := fun _ => false
  clock : Int
  issued : List Uuid := []
  granted : Uuid → Int := fun _ => 0
  emptied : Uuid → Int := fun _ => 0

inductive TranscodeAction where
  | acquire (cameraId ownerUserId profileId : Uuid)
  | touch (leaseId cameraId ownerUserId : Uuid)
  | release (leaseId : Uuid) (cameraId ownerUserId : Option Uuid)
  | callback (timer : Nat)
  | processExit (process : ProcessId)
  | stop

namespace TranscodeWorld

def acquired (tuning : RuntimeTuningSettings) (env : TranscodeEnv) (uuid4 : Supply Uuid) (world : TranscodeWorld)
    (cameraId ownerUserId profileId : Uuid) (began now : Int) : TranscodeWorld :=
  let leaseId := uuid4.next world.issued
  let (answer, manager) := acquire tuning env world.manager leaseId cameraId ownerUserId profileId began now
  { world with
    manager
    clock := now
    issued := leaseId :: world.issued
    granted := if answer.isOk then Function.update world.granted leaseId now else world.granted }

def touched (tuning : RuntimeTuningSettings) (env : TranscodeEnv) (world : TranscodeWorld)
    (leaseId cameraId ownerUserId : Uuid) (now : Int) : TranscodeWorld :=
  let (successful, manager) := touch tuning env world.manager leaseId cameraId ownerUserId now
  { world with
    manager
    clock := now
    granted := if successful then Function.update world.granted leaseId now else world.granted }

/-- Leases may have been given back. -/
def lessened (world : TranscodeWorld) (manager : LiveTranscodeManager) (now : Int) : TranscodeWorld :=
  { world with manager, clock := now, emptied := emptiedBy world.manager manager now world.emptied }

/-- The timer is past, and its callback has run. -/
def calledBack (tuning : RuntimeTuningSettings) (env : TranscodeEnv) (world : TranscodeWorld) (timer : ExpiryTimer)
    (now : Int) : TranscodeWorld :=
  world.lessened (expire tuning env (world.manager.fire timer) timer.callback now) now

end TranscodeWorld

open TranscodeWorld

/-- Calls and callbacks take the lock one after the other, at times that go on; a process may exit at any time. -/
inductive TranscodeStep (tuning : RuntimeTuningSettings) (uuid4 : Supply Uuid) :
    TranscodeWorld → TranscodeAction → TranscodeWorld → Prop
  | acquire {world : TranscodeWorld} {env : TranscodeEnv} {cameraId ownerUserId profileId : Uuid} {began now : Int} :
      env.exited = world.exited → world.clock ≤ began → began ≤ now →
      TranscodeStep tuning uuid4 world (.acquire cameraId ownerUserId profileId)
        (world.acquired tuning env uuid4 cameraId ownerUserId profileId began now)
  | touch {world : TranscodeWorld} {env : TranscodeEnv} {leaseId cameraId ownerUserId : Uuid} {now : Int} :
      env.exited = world.exited → world.clock ≤ now →
      TranscodeStep tuning uuid4 world (.touch leaseId cameraId ownerUserId)
        (world.touched tuning env leaseId cameraId ownerUserId now)
  | release {world : TranscodeWorld} {leaseId : Uuid} {cameraId ownerUserId : Option Uuid} {now : Int} :
      world.clock ≤ now →
      TranscodeStep tuning uuid4 world (.release leaseId cameraId ownerUserId)
        (world.lessened (LiveTranscodeManager.release tuning world.manager leaseId cameraId ownerUserId now).2 now)
  | callback {world : TranscodeWorld} {env : TranscodeEnv} {timer : ExpiryTimer} {now : Int} :
      env.exited = world.exited → world.clock ≤ now → timer ∈ world.manager.timers → timer.runs now = true →
      TranscodeStep tuning uuid4 world (.callback timer.id) (world.calledBack tuning env timer now)
  | processExit {world : TranscodeWorld} {process : ProcessId} :
      TranscodeStep tuning uuid4 world (.processExit process)
        { world with exited := Function.update world.exited process true }
  | stop {world : TranscodeWorld} {env : TranscodeEnv} {now : Int} :
      env.exited = world.exited → world.clock ≤ now →
      TranscodeStep tuning uuid4 world .stop
        { world with manager := LiveTranscodeManager.stop env world.manager now, clock := now }

/-- The callback of a timer that was replaced finds nothing to take. -/
def InForce (manager : LiveTranscodeManager) (timer : ExpiryTimer) : Prop :=
  match timer.callback with
  | .expireLease leaseId => ∀ lease ∈ manager.leases, lease.leaseId = leaseId → lease.timer = some timer.id
  | .expireDerivative key => ∀ entry ∈ manager.derivatives, entry.key = key → entry.leases = ∅ →
      entry.idleTimer = some timer.id

def MeetingStep (tuning : RuntimeTuningSettings) (uuid4 : Supply Uuid) (world : TranscodeWorld)
    (action : TranscodeAction) (world' : TranscodeWorld) : Prop :=
  TranscodeStep tuning uuid4 world action world' ∧
    ∀ timer ∈ world.manager.timers, action = .callback timer.id → InForce world.manager timer

/-! ## Every run -/

section Steps

variable {uuid4 : Supply Uuid} {world world' : TranscodeWorld} {action : TranscodeAction}

structure Honest (tuning : RuntimeTuningSettings) (world : TranscodeWorld) : Prop where
  sound : Sound tuning world.granted world.emptied world.manager
  capacity : world.manager.derivatives.rows.length ≤ tuning.liveTranscodeMaxDerivatives
  issued : ∀ lease ∈ world.manager.leases, lease.leaseId ∈ world.issued

theorem scheduleLeaseExpiry_derivatives (leaseId : Uuid) :
    (scheduleLeaseExpiry tuning manager leaseId now).derivatives = manager.derivatives := by
  unfold scheduleLeaseExpiry
  split
  · rfl
  · exact cancelTimer_derivatives _

theorem scheduleLeaseExpiry_leases {leaseId : Uuid} {lease : LeaseState}
    (member : lease ∈ (scheduleLeaseExpiry tuning manager leaseId now).leases) :
    ∃ old ∈ manager.leases, old.leaseId = lease.leaseId := by
  unfold scheduleLeaseExpiry at member
  split at member
  next => exact ⟨lease, member, rfl⟩
  next found _ =>
    dsimp only at member
    obtain ⟨old, oldMember, rfl⟩ := Table.mem_modify.mp member
    have same : ((manager.cancelTimer found.timer now).makeTimer tuning.liveTranscodeLeaseTtlSeconds
        (.expireLease leaseId) now).1.leases = manager.leases := cancelTimer_leases _
    rw [same] at oldMember
    refine ⟨old, oldMember, ?_⟩
    split <;> rfl

theorem grant_derivatives {entry : DerivativeState} {leaseId cameraId ownerUserId : Uuid} :
    (grant tuning manager entry leaseId cameraId ownerUserId now).derivatives =
      manager.derivatives.put { entry with leases := insert leaseId entry.leases, idleTimer := none } := by
  unfold LiveTranscodeManager.grant
  rw [scheduleLeaseExpiry_derivatives]
  exact congrArg (Table.put · _) (cancelTimer_derivatives _)

theorem grant_leases {entry : DerivativeState} {leaseId cameraId ownerUserId : Uuid} {lease : LeaseState}
    (member : lease ∈ (grant tuning manager entry leaseId cameraId ownerUserId now).leases) :
    lease.leaseId = leaseId ∨ ∃ old ∈ manager.leases, old.leaseId = lease.leaseId := by
  unfold LiveTranscodeManager.grant at member
  obtain ⟨old, oldMember, same⟩ := scheduleLeaseExpiry_leases member
  dsimp only at oldMember
  rw [cancelTimer_leases] at oldMember
  rcases Table.mem_put.mp oldMember with rfl | ⟨before, _⟩
  · exact .inl same.symm
  · exact .inr ⟨old, before, same⟩

/-- A lease is granted on a derivative in service or on a new one within the capacity; what was dropped before
    stays dropped. -/
theorem acquire_cases (manager : LiveTranscodeManager) (leaseId cameraId ownerUserId profileId : Uuid)
    (began now : Int) :
    (∃ failure, (acquire tuning env manager leaseId cameraId ownerUserId profileId began now).1 = .error failure ∧
        Shrinks manager (acquire tuning env manager leaseId cameraId ownerUserId profileId began now).2) ∨
      ∃ lease entry base, (acquire tuning env manager leaseId cameraId ownerUserId profileId began now).1 = .ok lease ∧
        Shrinks manager base ∧ (acquire tuning env manager leaseId cameraId ownerUserId profileId began now).2 =
          grant tuning base entry leaseId cameraId ownerUserId now ∧
        (entry ∈ base.derivatives ∨ ((entry.leases = ∅ ∧ ∀ other ∈ base.derivatives, other.key ≠ entry.key) ∧
          base.derivatives.rows.length < tuning.liveTranscodeMaxDerivatives)) := by
  unfold acquire
  dsimp only
  split
  next served entry isServed =>
    obtain ⟨shrinks, serves, _⟩ := serving_spec isServed
    exact .inr ⟨_, entry, served, rfl, shrinks, rfl, .inl (serves entry rfl).1⟩
  next served isServed =>
    obtain ⟨shrinks, _, absent⟩ := serving_spec isServed
    split
    next failure started isStarted =>
      exact .inl ⟨failure, rfl, shrinks.trans (startWithin_spec isStarted).1⟩
    next entry started isStarted =>
      obtain ⟨freed, isEntry⟩ := startWithin_spec isStarted
      obtain ⟨isKey, empty, room⟩ := isEntry entry rfl
      refine .inr ⟨_, entry, started, rfl, shrinks.trans freed, rfl, .inr ⟨⟨empty, fun other member => ?_⟩, room⟩⟩
      rw [isKey]
      exact absent rfl other (freed.derivatives other member)

theorem Honest.acquired (honest : Honest tuning world) (cameraId ownerUserId profileId : Uuid) (began now : Int) :
    Honest tuning (world.acquired tuning env uuid4 cameraId ownerUserId profileId began now) := by
  have fresh : ∀ lease ∈ world.manager.leases, lease.leaseId ≠ uuid4.next world.issued := by
    intro lease member same
    have issued := honest.issued lease member
    rw [same] at issued
    exact uuid4.fresh _ issued
  rcases acquire_cases world.manager (uuid4.next world.issued) cameraId ownerUserId profileId began now with
    ⟨failure, failed, shrinks⟩ | ⟨lease, entry, base, granted, shrinks, isGrant, serves⟩
  · refine ⟨?_, shrinks.fewer.trans honest.capacity, fun lease member =>
      List.mem_cons_of_mem _ (honest.issued lease (shrinks.leases lease member))⟩
    have unchanged : (world.acquired tuning env uuid4 cameraId ownerUserId profileId began now).granted =
        world.granted := by
      unfold TranscodeWorld.acquired
      dsimp only
      rw [failed]
      rfl
    rw [unchanged]
    exact shrinks.sound honest.sound
  · have updated : (world.acquired tuning env uuid4 cameraId ownerUserId profileId began now).granted =
        Function.update world.granted (uuid4.next world.issued) now := by
      unfold TranscodeWorld.acquired
      dsimp only
      rw [granted]
      rfl
    have manager : (world.acquired tuning env uuid4 cameraId ownerUserId profileId began now).manager =
        grant tuning base entry (uuid4.next world.issued) cameraId ownerUserId now := isGrant
    refine ⟨?_, ?_, fun lease member => ?_⟩
    · rw [updated, manager]
      exact (shrinks.sound honest.sound).grant (fun lease member => fresh lease (shrinks.leases lease member))
        (serves.imp_right And.left)
    · rw [manager, grant_derivatives, Table.length_put]
      rcases serves with member | ⟨_, room⟩
      · have taken : entry.key ∈ base.derivatives.rows.map Keyed.key := List.mem_map_of_mem member
        exact (le_of_eq (if_pos taken)).trans (shrinks.fewer.trans honest.capacity)
      · split
        · exact room.le
        · exact room
    · rw [manager] at member
      rcases grant_leases member with isNew | ⟨old, oldMember, same⟩
      · rw [isNew]
        exact List.mem_cons_self
      · rw [← same]
        exact List.mem_cons_of_mem _ (honest.issued old (shrinks.leases old oldMember))

theorem touch_cases (manager : LiveTranscodeManager) (leaseId cameraId ownerUserId : Uuid) (now : Int) :
    ((touch tuning env manager leaseId cameraId ownerUserId now).1 = false ∧
        Shrinks manager (touch tuning env manager leaseId cameraId ownerUserId now).2) ∨
      ∃ lease, manager.leases.get? leaseId = some lease ∧
        touch tuning env manager leaseId cameraId ownerUserId now =
          (true, scheduleLeaseExpiry tuning manager leaseId now) := by
  unfold touch
  split
  next => exact .inl ⟨rfl, .refl manager⟩
  next lease isLease =>
    split
    · exact .inl ⟨rfl, .refl manager⟩
    split
    · exact .inl ⟨rfl, dropEntry_shrinks manager lease.key now⟩
    · exact .inr ⟨lease, isLease, rfl⟩

theorem Honest.touched (honest : Honest tuning world) (leaseId cameraId ownerUserId : Uuid) (now : Int) :
    Honest tuning (world.touched tuning env leaseId cameraId ownerUserId now) := by
  have cases := @touch_cases tuning env world.manager leaseId cameraId ownerUserId now
  unfold TranscodeWorld.touched
  generalize touch tuning env world.manager leaseId cameraId ownerUserId now = touched at cases
  obtain ⟨successful, manager⟩ := touched
  dsimp only at cases ⊢
  rcases cases with ⟨rfl, shrinks⟩ | ⟨lease, isLease, both⟩
  · exact ⟨shrinks.sound honest.sound, shrinks.fewer.trans honest.capacity,
      fun other member => honest.issued other (shrinks.leases other member)⟩
  · cases both
    refine ⟨honest.sound.rescheduled isLease, ?_, fun other member => ?_⟩
    · dsimp only
      rw [scheduleLeaseExpiry_derivatives]
      exact honest.capacity
    · obtain ⟨old, oldMember, same⟩ := scheduleLeaseExpiry_leases member
      rw [← same]
      exact honest.issued old oldMember

/-- Leases are only given back, and derivatives only dropped. -/
structure Lessens (before after : LiveTranscodeManager) : Prop where
  fewer : after.derivatives.rows.length ≤ before.derivatives.rows.length
  leases : ∀ lease ∈ after.leases, lease ∈ before.leases

theorem Shrinks.lessens {before after : LiveTranscodeManager} (shrinks : Shrinks before after) : Lessens before after :=
  ⟨shrinks.fewer, shrinks.leases⟩

theorem scheduleIdle_length {key : Uuid} {entry : DerivativeState} :
    (scheduleIdle tuning manager key entry now).derivatives.rows.length = manager.derivatives.rows.length := by
  unfold scheduleIdle
  dsimp only
  refine (List.length_map _).trans ?_
  have same : ((manager.cancelTimer entry.idleTimer now).makeTimer tuning.liveTranscodeIdleTtlSeconds
      (.expireDerivative key) now).1.derivatives = manager.derivatives := cancelTimer_derivatives _
  rw [same]

theorem discard_length (lease : LeaseState) :
    (LiveTranscodeManager.discard tuning manager lease now).derivatives.rows.length =
      manager.derivatives.rows.length := by
  unfold LiveTranscodeManager.discard
  dsimp only
  rw [cancelTimer_derivatives]
  split
  next =>
    rw [cancelTimer_derivatives]
  next =>
    split
    · rw [scheduleIdle_length]
      exact List.length_map _
    · exact List.length_map _

theorem release_lessens (leaseId : Uuid) (cameraId ownerUserId : Option Uuid) :
    Lessens manager (LiveTranscodeManager.release tuning manager leaseId cameraId ownerUserId now).2 := by
  unfold LiveTranscodeManager.release
  split
  next => exact (Shrinks.refl manager).lessens
  next lease isLease =>
    split
    · exact (Shrinks.refl manager).lessens
    split
    · exact (Shrinks.refl manager).lessens
    · refine ⟨(discard_length lease).le, fun other member => ?_⟩
      dsimp only at member
      rw [(discard_takes lease).1] at member
      exact (Table.mem_remove.mp member).1

theorem expire_lessens (callback : TimerCallback) : Lessens manager (expire tuning env manager callback now) := by
  cases callback with
  | expireLease leaseId => exact release_lessens leaseId none none
  | expireDerivative key => exact (expireDerivative_shrinks manager key now).lessens

theorem Honest.lessened (honest : Honest tuning world) {manager' : LiveTranscodeManager}
    (sound : Sound tuning world.granted (emptiedBy world.manager manager' now world.emptied) manager')
    (lessens : Lessens world.manager manager') : Honest tuning (world.lessened manager' now) :=
  ⟨sound, lessens.fewer.trans honest.capacity, fun lease member => honest.issued lease (lessens.leases lease member)⟩

theorem fire_timers (timer : ExpiryTimer) : TimersKept manager.timers (manager.fire timer).timers := by
  intro row member
  refine ⟨_, (@Table.mem_modify _ _ _ _ manager.timers timer.id (fun timer => { timer with fired := true })
    (fun _ => rfl) _).mpr ⟨row, member, rfl⟩, ?_⟩
  split <;> exact ⟨rfl, rfl, rfl⟩

theorem Honest.calledBack (honest : Honest tuning world) (timer : ExpiryTimer) :
    Honest tuning (world.calledBack tuning env timer now) := by
  have fired : Sound tuning world.granted world.emptied (world.manager.fire timer) :=
    honest.sound.timers rfl rfl (fire_timers timer)
  have lessens := @expire_lessens tuning env (world.manager.fire timer) now timer.callback
  exact honest.lessened (fired.expire timer.callback) ⟨lessens.fewer, lessens.leases⟩

theorem stop_empty (manager : LiveTranscodeManager) (now : Int) :
    (LiveTranscodeManager.stop env manager now).derivatives = .empty ∧
      (LiveTranscodeManager.stop env manager now).leases = .empty := by
  have stopping (entries : List DerivativeState) (manager : LiveTranscodeManager) :
      (entries.foldl (fun manager entry => manager.stopProcess env entry.process) manager).derivatives =
          manager.derivatives ∧
        (entries.foldl (fun manager entry => manager.stopProcess env entry.process) manager).leases =
          manager.leases := by
    induction entries generalizing manager with
    | nil => exact ⟨rfl, rfl⟩
    | cons entry rest ih =>
      rw [List.foldl_cons, (ih _).1, (ih _).2]
      exact ⟨stopProcess_derivatives _, stopProcess_leases _⟩
  exact ⟨(stopping _ _).1, (stopping _ _).2⟩

theorem sound_empty (noDerivatives : manager.derivatives = .empty) (noLeases : manager.leases = .empty) :
    Sound tuning granted emptied manager := by
  refine ⟨fun lease member => ?_, fun entry member => ?_, fun lease member => ?_, fun entry member => ?_⟩
  · rw [noLeases] at member
    cases member
  · rw [noDerivatives] at member
    cases member
  · rw [noLeases] at member
    cases member
  · rw [noDerivatives] at member
    cases member

theorem honest_empty (noDerivatives : world.manager.derivatives = .empty) (noLeases : world.manager.leases = .empty) :
    Honest tuning world := by
  refine ⟨sound_empty noDerivatives noLeases, ?_, fun lease member => ?_⟩
  · rw [noDerivatives]
    exact Nat.zero_le _
  · rw [noLeases] at member
    cases member

theorem Honest.step (honest : Honest tuning world) (step : TranscodeStep tuning uuid4 world action world') :
    Honest tuning world' := by
  cases step with
  | acquire => exact honest.acquired _ _ _ _ _
  | touch => exact honest.touched _ _ _ _
  | release => exact honest.lessened (honest.sound.release _ _ _) (release_lessens _ _ _)
  | callback => exact honest.calledBack _
  | processExit => exact ⟨honest.sound, honest.capacity, honest.issued⟩
  | @stop env now =>
    obtain ⟨noDerivatives, noLeases⟩ := @stop_empty env world.manager now
    exact honest_empty noDerivatives noLeases

/-- What the callback of a timer in force takes has had its full time. -/
theorem Honest.callback (honest : Honest tuning world) {timer : Nat}
    (step : MeetingStep tuning uuid4 world (.callback timer) world') :
    (∀ lease ∈ world.manager.leases, world'.manager.leases.get? lease.leaseId = none →
        world.granted lease.leaseId + seconds tuning.liveTranscodeLeaseTtlSeconds ≤ world'.clock) ∧
      ∀ entry ∈ world.manager.derivatives, world'.manager.derivatives.get? entry.key = none →
        entry.leases = ∅ ∧ world.emptied entry.key + seconds tuning.liveTranscodeIdleTtlSeconds ≤ world'.clock := by
  obtain ⟨step, meets⟩ := step
  cases step with
  | @callback env timer now _ _ member runs =>
    have inForce := meets timer member rfl
    unfold InForce at inForce
    unfold TranscodeWorld.calledBack TranscodeWorld.lessened expire
    dsimp only
    cases isCallback : timer.callback with
    | expireLease leaseId =>
      rw [isCallback] at inForce
      dsimp only at inForce ⊢
      refine ⟨fun lease leaseMember gone => ?_, fun entry entryMember gone => ?_⟩
      · have isLease := @expireLease_takes tuning (world.manager.fire timer) now leaseId lease leaseMember gone
        have scheduled := honest.sound.leaseTimer lease leaseMember
        rw [inForce lease leaseMember isLease] at scheduled
        exact scheduled.due member runs
      · rw [Table.get?_eq_none_iff] at gone
        obtain ⟨kept, keptMember, sameKey⟩ :=
          @expireLease_keeps tuning (world.manager.fire timer) now leaseId entry entryMember
        exact absurd sameKey (gone kept keptMember)
    | expireDerivative key =>
      rw [isCallback] at inForce
      dsimp only at inForce ⊢
      refine ⟨fun lease leaseMember gone => ?_, fun entry entryMember gone => ?_⟩
      · rw [Table.get?_eq_none_iff] at gone
        exact absurd rfl (gone lease (expireDerivative_keeps leaseMember))
      · obtain ⟨isKey, idle⟩ :=
          @expireDerivative_takes env (world.manager.fire timer) now key entry entryMember gone
        have scheduled := honest.sound.idleTimer entry entryMember idle
        rw [inForce entry entryMember isKey idle] at scheduled
        exact ⟨idle, scheduled.due member runs⟩

end Steps

/-- Where no callback of a replaced timer finds what its timer stood for, leases and derivatives agree, their
    number stays within the maximum, and a callback takes no lease and no derivative before its time. -/
theorem leases_honoured {uuid4 : Supply Uuid} {start world : TranscodeWorld} {actions : List TranscodeAction}
    (fresh : start.manager = {}) (run : Run (MeetingStep tuning uuid4) start actions world) :
    (∀ leaseId, (∃ lease ∈ world.manager.leases, lease.leaseId = leaseId) ↔
      ∃! entry, entry ∈ world.manager.derivatives ∧ leaseId ∈ entry.leases) ∧
    world.manager.derivatives.rows.length ≤ tuning.liveTranscodeMaxDerivatives ∧
    ∀ timer world', MeetingStep tuning uuid4 world (.callback timer) world' →
      (∀ lease ∈ world.manager.leases, world'.manager.leases.get? lease.leaseId = none →
        world.granted lease.leaseId + seconds tuning.liveTranscodeLeaseTtlSeconds ≤ world'.clock) ∧
      ∀ entry ∈ world.manager.derivatives, world'.manager.derivatives.get? entry.key = none →
        entry.leases = ∅ ∧ world.emptied entry.key + seconds tuning.liveTranscodeIdleTtlSeconds ≤ world'.clock := by
  have honest : Honest tuning world := by
    refine run.invariant (fun _ _ _ honest step => honest.step step.1) (honest_empty ?_ ?_)
    · rw [fresh]
    · rw [fresh]
  exact ⟨honest.sound.holder_iff, honest.capacity, fun timer world' step => honest.callback step⟩

/-! A lease is touched at the moment its timer is due. -/

def plainTuning : RuntimeTuningSettings :=
  { liveTranscodeMaxDerivatives := 1, liveTranscodeIdleTtlSeconds := 15, liveTranscodeLeaseTtlSeconds := 45 }

def plainEnv : TranscodeEnv :=
  { probe := .cpu, spawn := fun _ => some 1, waitOnline := fun _ => true, exited := fun _ => false }

def acquiredOnce : TranscodeWorld := TranscodeWorld.acquired plainTuning plainEnv .counting { clock := 0 } 1 2 3 0 0

def touchedDue : TranscodeWorld := acquiredOnce.touched plainTuning plainEnv 1 1 2 45000000

def firstTimer : ExpiryTimer :=
  { id := 1, callback := .expireLease 1, dueAt := 45000000, cancelledAt := some 45000000 }

/-- The first timer was due when it was cancelled: its callback takes the lease that was just renewed. -/
theorem renewed_lease_expires : ∃ actions world,
    Run (TranscodeStep plainTuning .counting) { clock := 0 } actions world ∧
      ∃ world', TranscodeStep plainTuning .counting world (.callback 1) world' ∧
        ∃ lease ∈ world.manager.leases, world'.manager.leases.get? lease.leaseId = none ∧
          world'.clock < world.granted lease.leaseId + seconds plainTuning.liveTranscodeLeaseTtlSeconds := by
  have acquired : TranscodeStep plainTuning .counting { clock := 0 } (.acquire 1 2 3) acquiredOnce :=
    .acquire rfl (le_refl _) (le_refl _)
  have touched : TranscodeStep plainTuning .counting acquiredOnce (.touch 1 1 2) touchedDue :=
    .touch rfl (by decide)
  have isTimer : firstTimer ∈ touchedDue.manager.timers := by
    have rows : touchedDue.manager.timers.rows =
        [firstTimer, { id := 2, callback := .expireLease 1, dueAt := 90000000 }] := rfl
    rw [Table.mem_def, rows]
    exact List.mem_cons_self
  have called : TranscodeStep plainTuning .counting touchedDue (.callback 1)
      (touchedDue.calledBack plainTuning plainEnv firstTimer 45000000) :=
    .callback rfl (by decide) isTimer (by decide)
  refine ⟨[.acquire 1 2 3, .touch 1 1 2], touchedDue, .next acquired (.next touched (.done _)), _, called,
    { leaseId := 1, cameraId := 1, ownerUserId := 2, key := 3, timer := some 2 }, ?_, rfl, by decide⟩
  have rows : touchedDue.manager.leases.rows =
      [{ leaseId := 1, cameraId := 1, ownerUserId := 2, key := 3, timer := some 2 }] := rfl
  rw [Table.mem_def, rows]
  exact List.mem_cons_self

/-- A lease renewed after ten seconds is held by its derivative, and by no other. -/
theorem leases_honoured_renewed : ∃ world,
    Run (MeetingStep plainTuning .counting) { clock := 0 } [.acquire 1 2 3, .touch 1 1 2] world ∧
      (∃! entry, entry ∈ world.manager.derivatives ∧ 1 ∈ entry.leases) ∧
      world.manager.derivatives.rows.length ≤ 1 := by
  have acquired : MeetingStep plainTuning .counting { clock := 0 } (.acquire 1 2 3) acquiredOnce :=
    ⟨.acquire rfl (le_refl _) (le_refl _), fun _ _ none => by cases none⟩
  have touched : MeetingStep plainTuning .counting acquiredOnce (.touch 1 1 2)
      (acquiredOnce.touched plainTuning plainEnv 1 1 2 10000000) :=
    ⟨.touch rfl (by decide), fun _ _ none => by cases none⟩
  have run : Run (MeetingStep plainTuning .counting) { clock := 0 } [.acquire 1 2 3, .touch 1 1 2] _ :=
    .next acquired (.next touched (.done _))
  obtain ⟨agree, few, _⟩ := leases_honoured rfl run
  have held : ∃ lease ∈ (acquiredOnce.touched plainTuning plainEnv 1 1 2 10000000).manager.leases.rows,
      lease.leaseId = 1 := ⟨_, List.mem_cons_self, rfl⟩
  exact ⟨_, run, (agree 1).mp held, few⟩

end ZeroNvr.TranscodeLeases
