import ZeroNvr.Lib.Run
import ZeroNvr.Recordings.PlaybackCache

/-! # The lock of a restore

A stale lock file is taken over in two steps that only know its path, and so is a lock
file released.  Where these steps meet the file they mean, at most one execution
restores a segment, and it only takes away the lock file that it created.
-/

namespace ZeroNvr.RestoreLock

open Lib PlaybackCacheService

variable {settings : RestoreSettings} {world world' : RestoreWorld} {execution : Nat} {now : Int}

/-! ## Steps -/

inductive RestoreAction where
  | perform (execution : Nat) (operation : RestoreOperation)
  /-- Another segment's restore, or a request, takes the cached file away. -/
  | evict

inductive RestoreStep (settings : RestoreSettings) : RestoreWorld → RestoreAction → RestoreWorld → Prop
  | perform {world world' : RestoreWorld} {execution : Nat} {operation : RestoreOperation} {now : Int} :
      world.clock ≤ now → perform settings world execution now operation (world.phase execution) = some world' →
      RestoreStep settings world (.perform execution operation) world'
  | evict {world : RestoreWorld} {now : Int} : world.clock ≤ now →
      RestoreStep settings world .evict { world with clock := now, cachedSize := none }

/-- Every copy finishes within the lifetime of the lock. -/
def Timely (settings : RestoreSettings) (world : RestoreWorld) : Prop :=
  ∀ execution since, (world.phase execution).working = some since →
    world.clock ≤ since + seconds settings.lockTtlSeconds

/-- The lock file that is unlinked as stale is the one whose age was read; and when it is read as stale, the
    execution that created it is not about to release it. -/
structure MeetsLock (settings : RestoreSettings) (world : RestoreWorld) (execution : Nat) (now : Int) : Prop where
  same : ∀ creator lock, world.phase execution = .stale creator → world.lock = some lock → lock.creator = creator
  released : ∀ lock result, world.phase execution = .contended → world.lock = some lock →
    seconds settings.lockTtlSeconds < now - lock.modifiedAt → world.phase lock.creator ≠ .closing result

def MeetingStep (settings : RestoreSettings) (world : RestoreWorld) (action : RestoreAction) (world' : RestoreWorld) :
    Prop :=
  RestoreStep settings world action world' ∧ Timely settings world' ∧
    ∀ execution operation, action = .perform execution operation → MeetsLock settings world execution world'.clock

/-! ## What an operation does -/

/-- The size of the file that a result stands for. -/
def served : RestorePhase → Option Int
  | .closing (some result) | .finished (some result) => result.size
  | _ => none

/-- The execution goes on; the lock file stays. -/
structure Moves (settings : RestoreSettings) (world world' : RestoreWorld) (execution : Nat) (now : Int)
    (phase' : RestorePhase) : Prop where
  clock : world'.clock = now
  lock : world'.lock = world.lock
  phase : world'.phase = Function.update world.phase execution phase'
  holds : phase'.holds = true → (world.phase execution).holds = true
  working : ∀ since, phase'.working = some since → (world.phase execution).working = some since
  kept : (world.phase execution).holds = true → phase'.holds = true ∨ phase'.ended = true
  unended : (world.phase execution).ended = false
  stale : ∀ creator, phase' = .stale creator → world.phase execution = .contended ∧ ∃ lock, world.lock = some lock ∧
    lock.creator = creator ∧ seconds settings.lockTtlSeconds < world'.clock - lock.modifiedAt
  size : world'.partialSize = world.partialSize ∨ (world.phase execution).holds = true
  verified : ∀ since, phase' = .verified since → world'.partialSize = some settings.expectedSize
  served : ∀ size, served phase' = some size → size = settings.expectedSize ∨
    (∃ since, world.phase execution = .verified since) ∧ world.partialSize = some size

inductive Performed (settings : RestoreSettings) (world : RestoreWorld) (execution : Nat) (now : Int)
    (world' : RestoreWorld) : Prop
  | moves (phase' : RestorePhase) : Moves settings world world' execution now phase' →
      Performed settings world execution now world'
  | created : world.lock = none → (world.phase execution).holds = false → (world.phase execution).ended = false →
      world' = { entering world execution now (.created now) with lock := some ⟨execution, now⟩ } →
      Performed settings world execution now world'
  | touched (since : Int) : world.phase execution = .created since → world' = writePid world execution now since →
      Performed settings world execution now world'
  | unlinked (creator : Nat) : world.phase execution = .stale creator → world' = unlinkStale world execution now →
      Performed settings world execution now world'
  | released (result : Option PlaybackRestoreResult) : world.phase execution = .closing result →
      world' = release world execution now result → Performed settings world execution now world'

section Phases

open RestorePhase

theorem readAge_performed (isPhase : world.phase execution = .contended) :
    Performed settings world execution now (readAge settings world execution now) := by
  unfold readAge
  split
  next lock isLock =>
    split
    next =>
      exact .moves .busy (by constructor <;> simp [isPhase, entering, busy, holds, working, ended, served])
    next old =>
      refine .moves (.stale lock.creator) ⟨rfl, rfl, rfl, ?_, ?_, ?_, ?_, ?_, .inl rfl, ?_, ?_⟩
      · simp [holds, working]
      · simp [working]
      · simp [isPhase, holds, working]
      · simp [isPhase, ended]
      · rintro creator ⟨⟩
        have age : seconds settings.lockTtlSeconds < now - lock.modifiedAt := by
          unfold lockAge at old
          rw [isLock] at old
          exact not_le.mp old
        exact ⟨isPhase, lock, isLock, rfl, age⟩
      · simp
      · simp [served]
  next =>
    exact .moves .busy (by constructor <;> simp [isPhase, entering, busy, holds, working, ended, served])

theorem look_performed {since : Int} (isPhase : world.phase execution = .looking since) :
    Performed settings world execution now (look settings world execution now since) := by
  unfold look
  split
  next =>
    exact .moves (.copying since) (by constructor <;> simp [isPhase, entering, holds, working, ended, served])
  next size isCached =>
    split
    next =>
      exact .moves (.discarding since) (by constructor <;> simp [isPhase, entering, holds, working, ended, served])
    next isExpected =>
      have expected : size = settings.expectedSize := not_not.mp isExpected
      refine .moves (.closing (some { alreadyCached := true, size := some size })) ?_
      constructor <;> simp [isPhase, entering, holds, working, ended, served, expected]

theorem create_performed {again : Bool} (isPhase : world.phase execution = .idle ∨ world.phase execution = .retaking) :
    Performed settings world execution now (create world execution now again) := by
  unfold create
  split
  next lock isLock =>
    refine .moves (if again then .busy else .contended) ?_
    rcases isPhase with isPhase | isPhase
    all_goals cases again <;> constructor <;> simp [isPhase, entering, busy, holds, working, ended, served]
  next isLock =>
    refine .created isLock ?_ ?_ rfl
    · rcases isPhase with isPhase | isPhase <;> rw [isPhase] <;> rfl
    · rcases isPhase with isPhase | isPhase <;> rw [isPhase] <;> rfl

/-- An execution may die anywhere. -/
theorem die_performed (unended : (world.phase execution).ended = false) :
    Performed settings world execution now (entering world execution now .dead) := by
  refine .moves .dead ?_
  cases isPhase : world.phase execution
  all_goals rw [isPhase] at unended
  all_goals constructor <;> simp_all [entering, holds, working, ended, served]

theorem fail_performed (unended : (world.phase execution).ended = false) :
    Performed settings world execution now (fail world execution now (world.phase execution)) := by
  cases isPhase : world.phase execution with
  | idle | created | retaking =>
    exact .moves .dead (by constructor <;> simp [isPhase, fail, entering, holds, working, ended, served])
  | contended | stale =>
    exact .moves .busy (by constructor <;> simp [isPhase, fail, entering, busy, holds, working, ended, served])
  | looking since | discarding since =>
    exact .moves (.copying since) (by constructor <;> simp [isPhase, fail, entering, holds, working, ended, served])
  | copying | copied | verified | closing =>
    exact .moves (.closing none) (by constructor <;> simp [isPhase, fail, entering, holds, working, ended, served])
  | finished | dead =>
    rw [isPhase] at unended
    cases unended

theorem perform_cases {operation : RestoreOperation}
    (done : perform settings world execution now operation (world.phase execution) = some world') :
    Performed settings world execution now world' := by
  unfold perform at done
  split at done
  next isPhase =>
    cases done
    exact create_performed (.inl isPhase)
  next isPhase =>
    cases done
    exact create_performed (.inr isPhase)
  next since isPhase =>
    cases done
    exact .touched since isPhase rfl
  next isPhase =>
    cases done
    exact readAge_performed isPhase
  next creator isPhase =>
    cases done
    exact .unlinked creator isPhase rfl
  next since isPhase =>
    cases done
    exact look_performed isPhase
  next since isPhase =>
    cases done
    exact .moves (.copying since) (by constructor <;> simp [isPhase, PlaybackCacheService.discard, entering, holds, working, ended, served])
  next size since isPhase =>
    cases done
    exact .moves (.copied since) (by constructor <;> simp [isPhase, copy, entering, holds, working, ended, served])
  next since isPhase =>
    cases done
    unfold verify
    split
    next expected =>
      exact .moves (.verified since) (by constructor <;> simp [isPhase, entering, holds, working, ended, served, expected])
    next =>
      exact .moves (.closing none) (by constructor <;> simp [isPhase, entering, holds, working, ended, served])
  next since isPhase =>
    cases done
    unfold place
    split
    next =>
      exact .moves (.closing none) (by constructor <;> simp [isPhase, entering, holds, working, ended, served])
    next size isSize =>
      refine .moves (.closing (some { restored := true, size := some size })) ?_
      constructor <;> simp [isPhase, entering, holds, working, ended, served, isSize]
  next result isPhase =>
    cases done
    exact .released result isPhase rfl
  next =>
    split at done
    · cases done
    next unended =>
      cases done
      exact fail_performed (Bool.eq_false_iff.mpr unended)
  next =>
    split at done
    · cases done
    next unended =>
      cases done
      exact die_performed (Bool.eq_false_iff.mpr unended)
  next => cases done

end Phases

/-! ## The invariant -/

/-- Whoever holds the lock has its file; and only an execution that has ended can be taken over from. -/
structure Exclusive (settings : RestoreSettings) (world : RestoreWorld) : Prop where
  own : ∀ execution, (world.phase execution).holds = true → ∃ lock, world.lock = some lock ∧ lock.creator = execution
  begun : ∀ execution since, (world.phase execution).working = some since → since ≤ world.clock
  age : ∀ lock since, world.lock = some lock → (world.phase lock.creator).working = some since → since ≤ lock.modifiedAt
  creator : ∀ lock, world.lock = some lock →
    (world.phase lock.creator).holds = true ∨ (world.phase lock.creator).ended = true
  stale : ∀ execution creator, world.phase execution = .stale creator → (world.phase creator).ended = true
  verified : ∀ execution since, world.phase execution = .verified since →
    world.partialSize = some settings.expectedSize
  served : ∀ execution size, served (world.phase execution) = some size → size = settings.expectedSize

theorem holds_of_working {phase : RestorePhase} {since : Int} (working : phase.working = some since) :
    phase.holds = true := by
  unfold RestorePhase.holds
  rw [working]
  rfl

theorem working_of_holds {phase : RestorePhase} (holds : phase.holds = true) :
    (∃ since, phase.working = some since) ∨ ∃ result, phase = .closing result := by
  cases phase with
  | created since | looking since | discarding since | copying since | copied since | verified since =>
    exact .inl ⟨since, rfl⟩
  | closing result => exact .inr ⟨result, rfl⟩
  | idle | contended | stale | retaking | finished | dead => cases holds

theorem holds_false_of_ended {phase : RestorePhase} (ended : phase.ended = true) : phase.holds = false := by
  cases phase with
  | finished | dead => rfl
  | created | looking | discarding | copying | copied | verified | closing | idle | contended | stale | retaking =>
    cases ended

/-- No two executions hold the lock. -/
theorem Exclusive.unique (exclusive : Exclusive settings world) {one other : Nat}
    (holds : (world.phase one).holds = true) (otherHolds : (world.phase other).holds = true) : one = other := by
  obtain ⟨lock, isLock, rfl⟩ := exclusive.own one holds
  obtain ⟨lock', isLock', rfl⟩ := exclusive.own other otherHolds
  rw [isLock] at isLock'
  cases isLock'
  rfl

section Steps

variable {phase' : RestorePhase}

theorem Moves.phase_self (moves : Moves settings world world' execution now phase') : world'.phase execution = phase' := by
  rw [moves.phase, Function.update_self]

theorem Moves.phase_other (moves : Moves settings world world' execution now phase') {other : Nat}
    (differs : other ≠ execution) : world'.phase other = world.phase other := by
  rw [moves.phase, Function.update_of_ne differs]

theorem Moves.ended (moves : Moves settings world world' execution now phase') {other : Nat}
    (ended : (world.phase other).ended = true) : (world'.phase other).ended = true := by
  by_cases same : other = execution
  · subst same
    rw [moves.unended] at ended
    cases ended
  · rw [moves.phase_other same]
    exact ended

theorem Moves.held (moves : Moves settings world world' execution now phase') {other : Nat}
    (holds : (world'.phase other).holds = true) : (world.phase other).holds = true := by
  by_cases same : other = execution
  · subst same
    rw [moves.phase_self] at holds
    exact moves.holds holds
  · rw [← moves.phase_other same]
    exact holds

theorem Moves.was_working (moves : Moves settings world world' execution now phase') {other : Nat} {since : Int}
    (working : (world'.phase other).working = some since) : (world.phase other).working = some since := by
  by_cases same : other = execution
  · subst same
    rw [moves.phase_self] at working
    exact moves.working since working
  · rw [← moves.phase_other same]
    exact working

theorem Exclusive.moves (exclusive : Exclusive settings world) (moves : Moves settings world world' execution now phase')
    (later : world.clock ≤ world'.clock) (timely : Timely settings world')
    (meets : MeetsLock settings world execution world'.clock) : Exclusive settings world' := by
  refine ⟨fun other holds => ?_, fun other since working => ?_, fun lock since isLock working => ?_,
    fun lock isLock => ?_, fun other creator isStale => ?_, fun other since isVerified => ?_,
    fun other size isServed => ?_⟩
  · rw [moves.lock]
    exact exclusive.own other (moves.held holds)
  · exact (exclusive.begun other since (moves.was_working working)).trans later
  · rw [moves.lock] at isLock
    exact exclusive.age lock since isLock (moves.was_working working)
  · rw [moves.lock] at isLock
    rcases exclusive.creator lock isLock with holds | ended
    · by_cases same : lock.creator = execution
      · rw [same] at holds ⊢
        rw [moves.phase_self]
        exact moves.kept holds
      · rw [moves.phase_other same]
        exact .inl holds
    · exact .inr (moves.ended ended)
  · by_cases same : other = execution
    · subst same
      rw [moves.phase_self] at isStale
      obtain ⟨isContended, lock, isLock, rfl, old⟩ := moves.stale creator isStale
      rcases exclusive.creator lock isLock with holds | ended
      · -- The creator would have to be at work for too long, or about to release the lock.
        have sameCreator : (world'.phase lock.creator) = world.phase lock.creator := by
          refine moves.phase_other fun itself => ?_
          rw [itself, isContended] at holds
          cases holds
        rcases working_of_holds holds with ⟨since, working⟩ | ⟨result, closing⟩
        · have began := exclusive.age lock since isLock working
          have inTime := timely lock.creator since (by rw [sameCreator]; exact working)
          omega
        · exact absurd closing (meets.released lock result isContended isLock old)
      · exact moves.ended ended
    · rw [moves.phase_other same] at isStale
      exact moves.ended (exclusive.stale other creator isStale)
  · by_cases same : other = execution
    · subst same
      rw [moves.phase_self] at isVerified
      exact moves.verified since isVerified
    · rw [moves.phase_other same] at isVerified
      rcases moves.size with unchanged | holds
      · rw [unchanged]
        exact exclusive.verified other since isVerified
      · have otherHolds : (world.phase other).holds = true := by
          rw [isVerified]
          rfl
        exact absurd (exclusive.unique otherHolds holds) same
  · by_cases same : other = execution
    · subst same
      rw [moves.phase_self] at isServed
      rcases moves.served size isServed with expected | ⟨⟨since, isVerified⟩, isSize⟩
      · exact expected
      · rw [exclusive.verified other since isVerified] at isSize
        exact (Option.some.inj isSize).symm
    · rw [moves.phase_other same] at isServed
      exact exclusive.served other size isServed

@[simp] theorem entering_self (phase : RestorePhase) : (entering world execution now phase).phase execution = phase :=
  Function.update_self _ _ _

theorem entering_other {other : Nat} (differs : other ≠ execution) (phase : RestorePhase) :
    (entering world execution now phase).phase other = world.phase other := Function.update_of_ne differs _ _

/-- Nobody held the lock that was not there. -/
theorem Exclusive.created (exclusive : Exclusive settings world) (free : world.lock = none)
    (unended : (world.phase execution).ended = false) :
    Exclusive settings { entering world execution now (.created now) with lock := some ⟨execution, now⟩ } := by
  have nobody (other : Nat) : (world.phase other).holds ≠ true := by
    intro holds
    obtain ⟨lock, isLock, _⟩ := exclusive.own other holds
    rw [free] at isLock
    cases isLock
  refine ⟨fun other holds => ?_, fun other since working => ?_, fun lock since isLock working => ?_,
    fun lock isLock => ?_, fun other creator isStale => ?_, fun other since isVerified => ?_,
    fun other size isServed => ?_⟩
  · by_cases same : other = execution
    · exact ⟨_, rfl, same.symm⟩
    · dsimp only at holds
      rw [entering_other same] at holds
      exact absurd holds (nobody other)
  · by_cases same : other = execution
    · subst same
      dsimp only at working
      rw [entering_self] at working
      cases working
      exact le_refl _
    · dsimp only at working
      rw [entering_other same] at working
      exact absurd (holds_of_working working) (nobody other)
  · cases isLock
    dsimp only at working
    rw [entering_self] at working
    cases working
    exact le_refl _
  · cases isLock
    dsimp only
    rw [entering_self]
    exact .inl rfl
  · by_cases same : other = execution
    · subst same
      dsimp only at isStale
      rw [entering_self] at isStale
      cases isStale
    · dsimp only at isStale ⊢
      rw [entering_other same] at isStale
      have ended := exclusive.stale other creator isStale
      rw [entering_other fun itself => ?_]
      · exact ended
      · rw [itself, unended] at ended
        cases ended
  · by_cases same : other = execution
    · subst same
      dsimp only at isVerified
      rw [entering_self] at isVerified
      cases isVerified
    · dsimp only at isVerified
      rw [entering_other same] at isVerified
      exact exclusive.verified other since isVerified
  · by_cases same : other = execution
    · subst same
      dsimp only at isServed
      rw [entering_self] at isServed
      cases isServed
    · dsimp only at isServed
      rw [entering_other same] at isServed
      exact exclusive.served other size isServed

/-- The lock file has only become younger. -/
theorem Exclusive.touched (exclusive : Exclusive settings world) (later : world.clock ≤ now) {since : Int}
    (isCreated : world.phase execution = .created since) :
    Exclusive settings (writePid world execution now since) := by
  have phase_of {other : Nat} : ((writePid world execution now since).phase other).working =
      (world.phase other).working ∧ ((writePid world execution now since).phase other).holds = (world.phase other).holds ∧
      ((writePid world execution now since).phase other).ended = (world.phase other).ended := by
    by_cases same : other = execution
    · subst same
      rw [isCreated]
      unfold writePid
      dsimp only
      rw [entering_self]
      exact ⟨rfl, rfl, rfl⟩
    · unfold writePid
      dsimp only
      rw [entering_other same]
      exact ⟨rfl, rfl, rfl⟩
  have old_phase {other : Nat} (differs : other ≠ execution) :
      (writePid world execution now since).phase other = world.phase other := Function.update_of_ne differs _ _
  have new_phase : (writePid world execution now since).phase execution = .looking since := Function.update_self _ _ _
  refine ⟨fun other holds => ?_, fun other began working => ?_, fun lock began isLock working => ?_,
    fun lock isLock => ?_, fun other creator isStale => ?_, fun other began isVerified => ?_,
    fun other size isServed => ?_⟩
  · rw [phase_of.2.1] at holds
    obtain ⟨lock, isLock, isCreator⟩ := exclusive.own other holds
    refine ⟨if lock.creator = execution then { lock with modifiedAt := now } else lock, ?_, ?_⟩
    · unfold writePid
      dsimp only
      rw [isLock]
      rfl
    · split <;> exact isCreator
  · rw [phase_of.1] at working
    exact (exclusive.begun other began working).trans later
  · obtain ⟨old, isOld, rfl⟩ := Option.map_eq_some_iff.mp isLock
    rw [phase_of.1] at working
    split at working
    next isCreator =>
      rw [if_pos isCreator]
      exact (exclusive.begun _ began working).trans later
    next differs =>
      rw [if_neg differs]
      exact exclusive.age old began isOld working
  · obtain ⟨old, isOld, rfl⟩ := Option.map_eq_some_iff.mp isLock
    have sameCreator : (if old.creator = execution then { old with modifiedAt := now } else old).creator = old.creator := by
      split <;> rfl
    rw [sameCreator, phase_of.2.1, phase_of.2.2]
    exact exclusive.creator old isOld
  · rw [phase_of.2.2]
    by_cases same : other = execution
    · subst same
      rw [new_phase] at isStale
      cases isStale
    · rw [old_phase same] at isStale
      exact exclusive.stale other creator isStale
  · by_cases same : other = execution
    · subst same
      rw [new_phase] at isVerified
      cases isVerified
    · rw [old_phase same] at isVerified
      exact exclusive.verified other began isVerified
  · by_cases same : other = execution
    · subst same
      rw [new_phase] at isServed
      cases isServed
    · rw [old_phase same] at isServed
      exact exclusive.served other size isServed

/-- The lock file goes, when nobody else holds it. -/
theorem Exclusive.freed (exclusive : Exclusive settings world) {phase' : RestorePhase}
    (alone : ∀ other, other ≠ execution → (world.phase other).holds = false) (released : phase'.holds = false)
    (unended : (world.phase execution).ended = true → phase'.ended = true) (notStale : ∀ creator, phase' ≠ .stale creator)
    (isServed : ∀ size, RestoreLock.served phase' = some size → size = settings.expectedSize) :
    Exclusive settings { entering world execution now phase' with lock := none } := by
  have nobody (other : Nat) : ((entering world execution now phase').phase other).holds = false := by
    by_cases same : other = execution
    · subst same
      rw [entering_self]
      exact released
    · rw [entering_other same]
      exact alone other same
  refine ⟨fun other holds => ?_, fun other since working => ?_, fun lock since isLock => ?_,
    fun lock isLock => ?_, fun other creator isStale => ?_, fun other since isVerified => ?_,
    fun other size serves => ?_⟩
  · dsimp only at holds
    rw [nobody] at holds
    cases holds
  · have holds := holds_of_working working
    dsimp only at holds
    rw [nobody] at holds
    cases holds
  · cases isLock
  · cases isLock
  · by_cases same : other = execution
    · subst same
      dsimp only at isStale
      rw [entering_self] at isStale
      exact absurd isStale (notStale creator)
    · dsimp only at isStale ⊢
      rw [entering_other same] at isStale
      have ended := exclusive.stale other creator isStale
      by_cases itself : creator = execution
      · subst itself
        rw [entering_self]
        exact unended ended
      · rw [entering_other itself]
        exact ended
  · have holds : ((entering world execution now phase').phase other).holds = true := by
      dsimp only at isVerified
      rw [isVerified]
      rfl
    rw [nobody] at holds
    cases holds
  · by_cases same : other = execution
    · subst same
      dsimp only at serves
      rw [entering_self] at serves
      exact isServed size serves
    · dsimp only at serves
      rw [entering_other same] at serves
      exact exclusive.served other size serves

theorem Exclusive.step {action : RestoreAction} (exclusive : Exclusive settings world)
    (step : MeetingStep settings world action world') : Exclusive settings world' := by
  obtain ⟨step, timely, meets⟩ := step
  cases step with
  | evict later =>
    exact ⟨exclusive.own, fun other since working => (exclusive.begun other since working).trans later, exclusive.age,
      exclusive.creator, exclusive.stale, exclusive.verified, exclusive.served⟩
  | @perform _ execution operation now later done =>
    have meets := meets execution operation rfl
    cases perform_cases done with
    | moves phase' moves =>
      exact exclusive.moves moves (later.trans (le_of_eq moves.clock.symm)) timely meets
    | created free _ unended isWorld =>
      rw [isWorld]
      exact exclusive.created free unended
    | touched since isCreated isWorld =>
      rw [isWorld]
      exact exclusive.touched later isCreated
    | unlinked creator isStale isWorld =>
      rw [isWorld]
      refine exclusive.freed (fun other differs => ?_) rfl (fun ended => ?_) (fun _ => nofun) fun _ => nofun
      · by_contra holds
        obtain ⟨lock, isLock, rfl⟩ := exclusive.own other (Bool.not_eq_false _ ▸ holds)
        have isChecked := meets.same creator lock isStale isLock
        have ended := holds_false_of_ended (exclusive.stale execution creator isStale)
        rw [← isChecked] at ended
        exact holds ended
      · rw [isStale] at ended
        cases ended
    | released result isClosing isWorld =>
      rw [isWorld]
      have held : (world.phase execution).holds = true := by
        rw [isClosing]
        rfl
      refine exclusive.freed (fun other differs => ?_) rfl (fun _ => rfl) (fun _ => nofun) fun size serves => ?_
      · by_contra holds
        exact differs (exclusive.unique (Bool.not_eq_false _ ▸ holds) held)
      · refine exclusive.served execution size ?_
        rw [isClosing]
        cases result with
        | none => cases serves
        | some result => exact serves

end Steps

theorem exclusive_idle (idle : ∀ execution, world.phase execution = .idle) (free : world.lock = none) :
    Exclusive settings world := by
  refine ⟨fun execution holds => ?_, fun execution since working => ?_, fun lock since isLock => ?_,
    fun lock isLock => ?_, fun execution creator isStale => ?_, fun execution since isVerified => ?_,
    fun execution size isServed => ?_⟩
  · rw [idle] at holds
    cases holds
  · rw [idle] at working
    cases working
  · rw [free] at isLock
    cases isLock
  · rw [free] at isLock
    cases isLock
  · rw [idle] at isStale
    cases isStale
  · rw [idle] at isVerified
    cases isVerified
  · rw [idle] at isServed
    cases isServed

/-- Where a lock file taken over is the one that was found stale, and its creator is not about to release it, no
    two executions hold the lock, an execution releases its own lock file, and a file served has the size asked for. -/
theorem restore_exclusive {start world : RestoreWorld} {actions : List RestoreAction}
    (idle : ∀ execution, start.phase execution = .idle) (free : start.lock = none)
    (run : Run (MeetingStep settings) start actions world) :
    (∀ one other, (world.phase one).holds = true → (world.phase other).holds = true → one = other) ∧
    (∀ execution world', RestoreStep settings world (.perform execution .release) world' →
      ∃ lock, world.lock = some lock ∧ lock.creator = execution) ∧
    ∀ execution size, served (world.phase execution) = some size → size = settings.expectedSize := by
  have exclusive : Exclusive settings world :=
    run.invariant (fun _ _ _ exclusive step => exclusive.step step) (exclusive_idle idle free)
  refine ⟨fun one other => exclusive.unique, fun execution world' step => ?_, exclusive.served⟩
  cases step with
  | perform _ done =>
    refine exclusive.own execution ?_
    cases isPhase : world.phase execution with
    | closing => rfl
    | idle | contended | stale | retaking | created | looking | discarding | copying | copied | verified | finished |
      dead =>
      rw [isPhase] at done
      cases done

/-! Two executions find the lock file of a third one stale, and each takes it over. -/

/-- Steps in which every copy is in time. -/
def TimelyStep (settings : RestoreSettings) (world : RestoreWorld) (action : RestoreAction) (world' : RestoreWorld) :
    Prop :=
  RestoreStep settings world action world' ∧ Timely settings world'

/-- The operations of some executions, one after the other; the others stay idle. -/
def play (settings : RestoreSettings) (executions : Nat) :
    List (Nat × RestoreOperation × Int) → RestoreWorld → Option RestoreWorld
  | [], world => some world
  | (execution, operation, now) :: rest, world =>
    match perform settings world execution now operation (world.phase execution) with
    | none => none
    | some world' =>
      if world.clock ≤ now ∧ (∀ other < executions, ∀ since ∈ (world'.phase other).working,
          world'.clock ≤ since + seconds settings.lockTtlSeconds) ∧ execution < executions then
        play settings executions rest world'
      else none

theorem perform_others {operation : RestoreOperation} {other : Nat} (differs : other ≠ execution)
    (done : perform settings world execution now operation (world.phase execution) = some world') :
    world'.phase other = world.phase other := by
  cases perform_cases done with
  | moves phase' moves => exact moves.phase_other differs
  | created _ _ _ isWorld | touched _ _ isWorld | unlinked _ _ isWorld | released _ _ isWorld =>
    rw [isWorld]
    exact Function.update_of_ne differs _ _

theorem play_run {executions : Nat} {script : List (Nat × RestoreOperation × Int)}
    (others : ∀ other, executions ≤ other → world.phase other = .idle)
    (played : play settings executions script world = some world') :
    ∃ actions, Run (TimelyStep settings) world actions world' := by
  induction script generalizing world with
  | nil =>
    cases played
    exact ⟨[], .done _⟩
  | cons head rest ih =>
    obtain ⟨execution, operation, now⟩ := head
    unfold play at played
    split at played
    next => cases played
    next middle done =>
      split at played
      next conditions =>
        obtain ⟨later, inTime, isOne⟩ := conditions
        have idle : ∀ other, executions ≤ other → middle.phase other = .idle := by
          intro other beyond
          rw [perform_others (fun same => absurd beyond (not_le.mpr (by rw [same]; exact isOne))) done]
          exact others other beyond
        have timely : Timely settings middle := by
          intro other since working
          by_cases known : other < executions
          · exact inTime other known since working
          · rw [idle other (not_lt.mp known)] at working
            cases working
        obtain ⟨actions, run⟩ := ih idle played
        exact ⟨_, .next ⟨.perform later done, timely⟩ run⟩
      next => cases played

def plainSettings : RestoreSettings := { expectedSize := 7, lockTtlSeconds := 10 }

/-- The first execution has copied the file in time, and has died before it released the lock. -/
def takeovers : List (Nat × RestoreOperation × Int) :=
  [(0, .create, 0), (0, .writePid, 0), (0, .look, 0), (0, .copy 7, 0), (0, .verify, 0), (0, .place, 0), (0, .die, 0),
    (1, .create, 20000000), (1, .readAge, 20000000), (2, .create, 20000000), (2, .readAge, 20000000),
    (1, .unlinkStale, 20000000), (1, .create, 20000000), (2, .unlinkStale, 20000000), (2, .create, 20000000)]

theorem takeover_shared : ∃ actions world, Run (TimelyStep plainSettings) { clock := 0 } actions world ∧
    (world.phase 1).holds = true ∧ (world.phase 2).holds = true := by
  have played : (play plainSettings 3 takeovers { clock := 0 }).isSome = true := by decide
  obtain ⟨world, isWorld⟩ := Option.isSome_iff_exists.mp played
  obtain ⟨actions, run⟩ := play_run (fun _ _ => rfl) isWorld
  have both : (play plainSettings 3 takeovers { clock := 0 }).all fun world =>
      (world.phase 1).holds && (world.phase 2).holds := by decide
  rw [isWorld] at both
  obtain ⟨first, second⟩ := Bool.and_eq_true_iff.mp both
  exact ⟨actions, world, run, first, second⟩

/-- A second execution finds the lock taken. -/
theorem restore_exclusive_contended : ∃ world,
    Run (MeetingStep plainSettings) { clock := 0 } [.perform 0 .create, .perform 1 .create] world ∧
      (world.phase 0).holds = true ∧ ∀ other, (world.phase other).holds = true → 0 = other := by
  let first : RestoreWorld := create { clock := 0 } 0 0 false
  let second : RestoreWorld := create first 1 0 false
  have timely (world : RestoreWorld) (others : ∀ other ≠ 0, (world.phase other).working = none)
      (isCreated : world.phase 0 = .created 0) (isNow : world.clock = 0) : Timely plainSettings world := by
    intro other since working
    by_cases isFirst : other = 0
    · rw [isFirst, isCreated] at working
      cases working
      rw [isNow]
      decide
    · rw [others other isFirst] at working
      cases working
  have created : MeetingStep plainSettings { clock := 0 } (.perform 0 .create) first := by
    refine ⟨.perform (le_refl _) rfl, timely _ (fun other differs => ?_) rfl rfl, ?_⟩
    · have idle : first.phase other = .idle := Function.update_of_ne differs _ _
      rw [idle]
      rfl
    · rintro execution operation ⟨⟩
      exact ⟨fun _ _ => nofun, fun _ _ => nofun⟩
  have contended : MeetingStep plainSettings first (.perform 1 .create) second := by
    refine ⟨.perform (le_refl _) rfl, timely _ (fun other differs => ?_) rfl rfl, ?_⟩
    · by_cases isSecond : other = 1
      · rw [isSecond]
        rfl
      · have same : second.phase other = first.phase other := Function.update_of_ne isSecond _ _
        have idle : first.phase other = .idle := Function.update_of_ne differs _ _
        rw [same, idle]
        rfl
    · rintro execution operation ⟨⟩
      exact ⟨fun _ _ => nofun, fun _ _ => nofun⟩
  have run : Run (MeetingStep plainSettings) { clock := 0 } [.perform 0 .create, .perform 1 .create] second :=
    .next created (.next contended (.done _))
  obtain ⟨unique, _⟩ := restore_exclusive (fun _ => rfl) rfl run
  exact ⟨second, run, rfl, fun other holds => unique 0 other rfl holds⟩

end ZeroNvr.RestoreLock
