import ZeroNvr.Models

/-! # Stream continuity

The tracker remembers, for each stream, the generation that is registered and the
one that was closed last, each with its latest segment.  A generation is a runtime
proof that nothing interrupted the stream; it is not persisted.
-/

namespace ZeroNvr

open Lib

structure ZlmStreamIdentity where
  vhost : String
  app : String
  stream : String
  deriving DecidableEq

structure ZlmContinuityResolution where
  continuityId : Uuid
  previousSegmentId : Option Uuid := none
  openedAt : Option Int := none
  closedAt : Option Int := none
  deriving DecidableEq

structure ContinuityState where
  continuityId : Uuid
  registeredAt : Int
  lastSegmentId : Option Uuid := none
  lastSegmentStartedAt : Option Int := none
  closedAt : Option Int := none
  deriving DecidableEq

/-- The state of a generation after a segment has become its latest. -/
def ContinuityState.remembering (state : ContinuityState) (segmentId : Uuid) (startedAt : Int) : ContinuityState :=
  { state with lastSegmentId := some segmentId, lastSegmentStartedAt := some startedAt }

structure ZlmContinuityTracker where
  active : ZlmStreamIdentity → Option ContinuityState := fun _ => none
  closed : ZlmStreamIdentity → Option ContinuityState := fun _ => none

namespace ZlmContinuityTracker

variable (tracker : ZlmContinuityTracker) (identity : ZlmStreamIdentity)

/-- The stream is registered; the new id is used unless it already was. -/
def registered (at_ : Int) (uuid4 : Uuid) : ZlmContinuityTracker × Uuid :=
  match tracker.active identity with
  | some state => (tracker, state.continuityId)
  | none =>
    ({ tracker with
        active := Function.update tracker.active identity (some { continuityId := uuid4, registeredAt := at_ }) },
      uuid4)

def unregistered (at_ : Int) : ZlmContinuityTracker × Option Uuid :=
  match tracker.active identity with
  | none => (tracker, none)
  | some state =>
    ({ active := Function.update tracker.active identity none
       closed := Function.update tracker.closed identity (some { state with closedAt := some at_ }) },
      some state.continuityId)

/-- ZLM itself has restarted. -/
def reset : ZlmContinuityTracker := {}

/-- A late hook of the closed generation starts before its end and before a newer registration. -/
def resolvesClosed (startedAt : Int) (closed : ContinuityState) : Bool :=
  closed.closedAt.any fun closedAt => startedAt ≤ closedAt ∧
    (tracker.active identity).all fun active => startedAt < active.registeredAt

def resolution (state : ContinuityState) : ZlmContinuityResolution :=
  { continuityId := state.continuityId, previousSegmentId := state.lastSegmentId
    openedAt := some state.registeredAt, closedAt := state.closedAt }

def resolveRecord (startedAt : Int) : Option ZlmContinuityResolution :=
  match (tracker.closed identity).filter (tracker.resolvesClosed identity startedAt) with
  | some closed => some (resolution closed)
  | none =>
    match (tracker.active identity).filter fun active => active.registeredAt ≤ startedAt with
    | some active => some (resolution active)
    | none => none

/-- The segment becomes the latest of the generation, unless a later one is remembered. -/
def remember (state : ContinuityState) (segmentId : Uuid) (startedAt : Int) : Option ContinuityState :=
  if state.lastSegmentStartedAt.any fun last => startedAt < last then none
  else some (state.remembering segmentId startedAt)

def rememberSegment (continuityId segmentId : Uuid) (startedAt : Int) : ZlmContinuityTracker × Bool :=
  let generation (state : ContinuityState) : Bool := state.continuityId = continuityId
  match (tracker.active identity).filter generation with
  | some active =>
    match remember active segmentId startedAt with
    | none => (tracker, false)
    | some state => ({ tracker with active := Function.update tracker.active identity (some state) }, true)
  | none =>
    match (tracker.closed identity).filter generation with
    | some closed =>
      match remember closed segmentId startedAt with
      | none => (tracker, false)
      | some state => ({ tracker with closed := Function.update tracker.closed identity (some state) }, true)
    | none => (tracker, false)

/-! ## What the operations do -/

variable {tracker identity}

theorem resolveRecord_cases {startedAt : Int} {resolved : ZlmContinuityResolution}
    (isResolved : tracker.resolveRecord identity startedAt = some resolved) :
    (∃ closed, tracker.closed identity = some closed ∧ tracker.resolvesClosed identity startedAt closed = true ∧
        resolved = resolution closed) ∨
      ∃ active, tracker.active identity = some active ∧ active.registeredAt ≤ startedAt ∧
        resolved = resolution active := by
  unfold resolveRecord at isResolved
  split at isResolved
  next closed isClosed =>
    cases isResolved
    obtain ⟨found, resolves⟩ := Option.filter_eq_some_iff.mp isClosed
    exact .inl ⟨closed, found, resolves, rfl⟩
  next =>
    split at isResolved
    next active isActive =>
      cases isResolved
      obtain ⟨found, registered⟩ := Option.filter_eq_some_iff.mp isActive
      exact .inr ⟨active, found, of_decide_eq_true registered, rfl⟩
    next => cases isResolved

theorem resolvesClosed_iff {startedAt : Int} {closed : ContinuityState} :
    tracker.resolvesClosed identity startedAt closed = true ↔
      ∃ closedAt, closed.closedAt = some closedAt ∧ startedAt ≤ closedAt ∧
        ∀ active, tracker.active identity = some active → startedAt < active.registeredAt := by
  unfold resolvesClosed
  rw [Option.any_eq_true]
  refine exists_congr fun closedAt => and_congr_right fun _ => ?_
  rw [decide_eq_true_eq, Option.all_eq_true]
  simp only [decide_eq_true_eq]

theorem remember_eq_some {state next : ContinuityState} {segmentId : Uuid} {startedAt : Int}
    (isNext : remember state segmentId startedAt = some next) :
    next = state.remembering segmentId startedAt := by
  unfold remember at isNext
  split at isNext
  · cases isNext
  · cases isNext
    rfl

def withActive (tracker : ZlmContinuityTracker) (identity : ZlmStreamIdentity) (state : ContinuityState) :
    ZlmContinuityTracker :=
  { tracker with active := Function.update tracker.active identity (some state) }

def withClosed (tracker : ZlmContinuityTracker) (identity : ZlmStreamIdentity) (state : ContinuityState) :
    ZlmContinuityTracker :=
  { tracker with closed := Function.update tracker.closed identity (some state) }

@[simp] theorem withActive_active (state : ContinuityState) (other : ZlmStreamIdentity) :
    (tracker.withActive identity state).active other = if other = identity then some state else tracker.active other :=
  Function.update_apply _ _ _ _

@[simp] theorem withActive_closed (state : ContinuityState) : (tracker.withActive identity state).closed = tracker.closed :=
  rfl

@[simp] theorem withClosed_closed (state : ContinuityState) (other : ZlmStreamIdentity) :
    (tracker.withClosed identity state).closed other = if other = identity then some state else tracker.closed other :=
  Function.update_apply _ _ _ _

@[simp] theorem withClosed_active (state : ContinuityState) : (tracker.withClosed identity state).active = tracker.active :=
  rfl

theorem registered_cases {at_ : Int} {uuid4 : Uuid} :
    (tracker.registered identity at_ uuid4).1 = tracker ∨
      (tracker.active identity = none ∧ (tracker.registered identity at_ uuid4).1 =
        tracker.withActive identity { continuityId := uuid4, registeredAt := at_ }) := by
  unfold registered
  cases found : tracker.active identity with
  | some state => exact .inl rfl
  | none => exact .inr ⟨rfl, rfl⟩

theorem unregistered_cases {at_ : Int} :
    (tracker.active identity = none ∧ (tracker.unregistered identity at_).1 = tracker) ∨
      ∃ state, tracker.active identity = some state ∧
        (∀ other, (tracker.unregistered identity at_).1.active other =
          if other = identity then none else tracker.active other) ∧
        ∀ other, (tracker.unregistered identity at_).1.closed other =
          if other = identity then some { state with closedAt := some at_ } else tracker.closed other := by
  unfold unregistered
  cases found : tracker.active identity with
  | none => exact .inl ⟨rfl, rfl⟩
  | some state =>
    exact .inr ⟨state, rfl, fun other => Function.update_apply _ _ _ _, fun other => Function.update_apply _ _ _ _⟩

/-- At most the generation with the given id remembers the segment. -/
theorem rememberSegment_cases {continuityId segmentId : Uuid} {startedAt : Int} {tracker' : ZlmContinuityTracker}
    {remembered : Bool}
    (done : tracker.rememberSegment identity continuityId segmentId startedAt = (tracker', remembered)) :
    (tracker' = tracker ∧ remembered = false) ∨
      remembered = true ∧
        ((∃ active, tracker.active identity = some active ∧ active.continuityId = continuityId ∧
            tracker' = tracker.withActive identity (active.remembering segmentId startedAt)) ∨
          ∃ closed, tracker.closed identity = some closed ∧ closed.continuityId = continuityId ∧
            (∀ active, tracker.active identity = some active → active.continuityId ≠ continuityId) ∧
            tracker' = tracker.withClosed identity (closed.remembering segmentId startedAt)) := by
  unfold rememberSegment at done
  dsimp only at done
  split at done
  next active isActive =>
    obtain ⟨found, same⟩ := Option.filter_eq_some_iff.mp isActive
    split at done
    next =>
      cases done
      exact .inl ⟨rfl, rfl⟩
    next state isState =>
      cases done
      rw [remember_eq_some isState]
      exact .inr ⟨rfl, .inl ⟨active, found, of_decide_eq_true same, rfl⟩⟩
  next notActive =>
    split at done
    next closed isClosed =>
      obtain ⟨found, same⟩ := Option.filter_eq_some_iff.mp isClosed
      split at done
      next =>
        cases done
        exact .inl ⟨rfl, rfl⟩
      next state isState =>
        cases done
        rw [remember_eq_some isState]
        refine .inr ⟨rfl, .inr ⟨closed, found, of_decide_eq_true same, fun active isActive other => ?_, rfl⟩⟩
        rw [Option.filter_eq_none_iff] at notActive
        exact notActive active isActive (decide_eq_true other)
    next =>
      cases done
      exact .inl ⟨rfl, rfl⟩

end ZlmContinuityTracker

end ZeroNvr
