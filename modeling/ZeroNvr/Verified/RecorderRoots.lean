import ZeroNvr.Lib.Run
import ZeroNvr.Recordings.Runtime

/-! # Where the recorders write

A call of the recorder runtime that returns leaves the recorder of its stream
under the desired root, unless it kept a recorder that was running under another
one: the tracker remembers a mode, not a root, and a switch of profiles takes a
running recorder as it is.
-/

namespace ZeroNvr.RecordingRuntimeService

open Lib Effect

variable {backend : RecordingBackend} {key previous : ZlmStreamReference} {state after : RuntimeState}

/-! ## What the calls of the adapter return -/

theorem isStreamOnline_returns {online : Bool} (done : Returns (backend.isStreamOnline key) state online after) :
    (state.zlm key).online = online ∧ state = after := by
  unfold RecordingBackend.isStreamOnline at done
  split at done
  · exact absurd done not_returns_throw
  · obtain ⟨_, _, isState, isOnline⟩ := returns_bind.mp done
    obtain ⟨rfl, rfl⟩ := returns_get.mp isState
    obtain ⟨rfl, rfl⟩ := returns_pure.mp isOnline
    exact ⟨rfl, rfl⟩

theorem isRecording_returns {recording : Bool} (done : Returns (backend.isRecording key) state recording after) :
    (state.zlm key).recorder.isSome = recording ∧ state = after := by
  unfold RecordingBackend.isRecording at done
  split at done
  · exact absurd done not_returns_throw
  · obtain ⟨_, _, isState, isRecording⟩ := returns_bind.mp done
    obtain ⟨rfl, rfl⟩ := returns_get.mp isState
    obtain ⟨rfl, rfl⟩ := returns_pure.mp isRecording
    exact ⟨rfl, rfl⟩

/-- A confirmed command was carried out. -/
theorem command_returns {outcome : CommandOutcome} {recorder : Option NativeRecorder}
    (done : Returns (RecordingBackend.command key outcome recorder) state true after) :
    after = state.withRecorder key recorder := by
  unfold RecordingBackend.command at done
  obtain ⟨_, middle, applied, answered⟩ := returns_bind.mp done
  split at answered
  next confirmed answer =>
    obtain ⟨rfl, rfl⟩ := returns_pure.mp answered
    rcases returns_when.mp applied with ⟨_, modified⟩ | ⟨ignored, _⟩
    · exact returns_modify.mp modified
    · rw [outcome.confirmed answer] at ignored
      cases ignored
  next => exact absurd answered not_returns_throw

theorem set_returns {mode : RecorderMode} {done : PUnit} (set : Returns (RecorderModeTracker.set key mode) state done after) :
    after = state.withMode key mode := returns_modify.mp set

theorem get_returns {known : Option RecorderMode} (got : Returns (RecorderModeTracker.get key) state known after) :
    state.modes key = known ∧ state = after := by
  unfold RecorderModeTracker.get at got
  obtain ⟨_, _, isState, isMode⟩ := returns_bind.mp got
  obtain ⟨rfl, rfl⟩ := returns_get.mp isState
  obtain ⟨rfl, rfl⟩ := returns_pure.mp isMode
  exact ⟨rfl, rfl⟩

theorem stopped_returns {message : String} {done : PUnit}
    (returned : Returns (stopped backend key message) state done after) : after = state.withRecorder key none := by
  unfold stopped at returned
  obtain ⟨confirmed, middle, isStopped, isConfirmed⟩ := returns_bind.mp returned
  cases confirmed with
  | false => exact absurd isConfirmed not_returns_throw
  | true =>
    obtain ⟨_, rfl⟩ := returns_pure.mp isConfirmed
    exact command_returns isStopped

theorem started_returns {desired : DesiredRecorder} {root message : String} {done : PUnit}
    (returned : Returns (started backend desired root message) state done after) :
    after = state.withRecorder desired.key (some ⟨root, desired.maxSecond⟩) := by
  unfold started at returned
  obtain ⟨confirmed, middle, isStarted, isConfirmed⟩ := returns_bind.mp returned
  cases confirmed with
  | false => exact absurd isConfirmed not_returns_throw
  | true =>
    obtain ⟨_, rfl⟩ := returns_pure.mp isConfirmed
    exact command_returns isStarted

/-! ## What a call that returns leaves -/

/-- Some recorder of the stream is running. -/
def Recording (state : RuntimeState) (key : ZlmStreamReference) : Prop := (state.zlm key).recorder.isSome = true

def WritesUnder (state : RuntimeState) (key : ZlmStreamReference) (root : String) : Prop :=
  ∃ recorder, (state.zlm key).recorder = some recorder ∧ recorder.customizedPath = root

theorem reconcileOff_returns {current : Bool} {result : RecorderReconcileResult}
    (returned : Returns (reconcileOff backend key current) state result after)
    (isCurrent : (state.zlm key).recorder.isSome = current) (other : ZlmStreamReference) :
    (after.zlm other).recorder = if other = key then none else (state.zlm other).recorder := by
  unfold reconcileOff at returned
  obtain ⟨_, middle, isStopped, rest⟩ := returns_bind.mp returned
  obtain ⟨_, last, isSet, isResult⟩ := returns_bind.mp rest
  obtain ⟨rfl, rfl⟩ := returns_pure.mp isResult
  rw [set_returns isSet, RuntimeState.withMode_zlm]
  rcases returns_when.mp isStopped with ⟨_, stops⟩ | ⟨idle, rfl⟩
  · rw [stopped_returns stops, RuntimeState.withRecorder_recorder]
  · split
    next same =>
      rw [same]
      exact Option.not_isSome_iff_eq_none.mp (by rw [isCurrent, idle]; exact Bool.false_ne_true)
    next => rfl

/-- A recorder is kept as it is, or started under the root. -/
theorem reconcileOn_returns {desired : DesiredRecorder} {root : String} {forceReconfigure current : Bool}
    {known : Option RecorderMode} {result : RecorderReconcileResult}
    (returned : Returns (reconcileOn backend desired root forceReconfigure known current) state result after) :
    (current = true ∧ known = some desired.mode ∧ forceReconfigure = false ∧ result.assumedExistingMode = false ∧
        after = state) ∨
      (current = true ∧ known = none ∧ forceReconfigure = false ∧ result.assumedExistingMode = true ∧ after = state) ∨
      (¬ (current = true ∧ known = some desired.mode ∧ forceReconfigure = false) ∧
        result.assumedExistingMode = false ∧ ∀ other, (after.zlm other).recorder =
          if other = desired.key then some ⟨root, desired.maxSecond⟩ else (state.zlm other).recorder) := by
  unfold reconcileOn at returned
  dsimp only at returned
  split at returned
  next kept =>
    obtain ⟨rfl, rfl⟩ := returns_pure.mp returned
    exact .inl ⟨kept.1, kept.2.1, Bool.eq_false_iff.mpr kept.2.2, rfl, rfl⟩
  next notKept =>
    rw [Bool.not_eq_true] at notKept
    split at returned
    next assumed =>
      obtain ⟨rfl, rfl⟩ := returns_pure.mp returned
      exact .inr (.inl ⟨assumed.1, assumed.2.1, Bool.eq_false_iff.mpr assumed.2.2, rfl, rfl⟩)
    next =>
      obtain ⟨_, first, isStopped, rest⟩ := returns_bind.mp returned
      obtain ⟨_, second, isStarted, rest⟩ := returns_bind.mp rest
      obtain ⟨_, last, isSet, isResult⟩ := returns_bind.mp rest
      obtain ⟨rfl, rfl⟩ := returns_pure.mp isResult
      refine .inr (.inr ⟨notKept, rfl, fun other => ?_⟩)
      rw [set_returns isSet, RuntimeState.withMode_zlm, started_returns isStarted,
        RuntimeState.withRecorder_recorder]
      rcases returns_when.mp isStopped with ⟨_, stops⟩ | ⟨_, rfl⟩
      · rw [stopped_returns stops, RuntimeState.withRecorder_recorder]
        split <;> rfl
      · rfl

theorem reconcile_off_returns {desired : DesiredRecorder} (off : desired.mode = .off) {forceReconfigure : Bool}
    {result : RecorderReconcileResult}
    (returned : Returns (reconcile backend (some desired) forceReconfigure) state result after)
    (other : ZlmStreamReference) :
    (after.zlm other).recorder =
      if other = desired.key ∧ (state.zlm desired.key).online = true then none else (state.zlm other).recorder := by
  unfold reconcile at returned
  obtain ⟨known, _, isKnown, rest⟩ := returns_bind.mp returned
  obtain ⟨_, rfl⟩ := get_returns isKnown
  obtain ⟨online, _, isOnline, rest⟩ := returns_bind.mp rest
  obtain ⟨rfl, rfl⟩ := isStreamOnline_returns isOnline
  split at rest
  next offline =>
    obtain ⟨_, last, isSet, isResult⟩ := returns_bind.mp rest
    obtain ⟨rfl, rfl⟩ := returns_pure.mp isResult
    rw [set_returns isSet, RuntimeState.withMode_zlm, if_neg fun both => offline.2 both.2]
  next notOffline =>
    split at rest
    · exact absurd rest not_returns_throw
    next online =>
      rw [not_not] at online
      obtain ⟨current, _, isCurrent, answered⟩ := returns_bind.mp rest
      obtain ⟨current_eq, rfl⟩ := isRecording_returns isCurrent
      rw [reconcileOff_returns answered current_eq]
      simp only [online, and_true]

/-- What an answer of the wanted recorder's stream leaves: kept, kept without proof, or started. -/
theorem reconcile_wanted_returns {desired : DesiredRecorder} (wanted : desired.mode ≠ .off) {forceReconfigure : Bool}
    {result : RecorderReconcileResult}
    (returned : Returns (reconcile backend (some desired) forceReconfigure) state result after) :
    ∃ root, desired.targetRoot = some root ∧ (state.zlm desired.key).online = true ∧
      ((Recording state desired.key ∧ state.modes desired.key = some desired.mode ∧ forceReconfigure = false ∧
          result.assumedExistingMode = false ∧ after = state) ∨
        (Recording state desired.key ∧ state.modes desired.key = none ∧ forceReconfigure = false ∧
          result.assumedExistingMode = true ∧ after = state) ∨
        (¬ (Recording state desired.key ∧ state.modes desired.key = some desired.mode ∧ forceReconfigure = false) ∧
          result.assumedExistingMode = false ∧ ∀ other, (after.zlm other).recorder =
            if other = desired.key then some ⟨root, desired.maxSecond⟩ else (state.zlm other).recorder)) := by
  unfold reconcile at returned
  obtain ⟨known, _, isKnown, rest⟩ := returns_bind.mp returned
  obtain ⟨rfl, rfl⟩ := get_returns isKnown
  obtain ⟨online, _, isOnline, rest⟩ := returns_bind.mp rest
  obtain ⟨rfl, rfl⟩ := isStreamOnline_returns isOnline
  rw [if_neg fun offline => wanted offline.1] at rest
  split at rest
  · exact absurd rest not_returns_throw
  next online =>
    obtain ⟨current, _, isCurrent, rest⟩ := returns_bind.mp rest
    obtain ⟨rfl, rfl⟩ := isRecording_returns isCurrent
    split at rest
    · exact absurd rest not_returns_throw
    next root isRoot => exact ⟨root, isRoot, not_not.mp online, reconcileOn_returns rest⟩

/-! ## A switch -/

/-- The recorders once the previous one, if its stream is online, is stopped. -/
def released (state : RuntimeState) (previous key : ZlmStreamReference) : Option NativeRecorder :=
  if key = previous ∧ (state.zlm previous).online = true then none else (state.zlm key).recorder

theorem releasePrevious_returns {changed : Bool} (returned : Returns (releasePrevious backend previous) state changed after)
    (other : ZlmStreamReference) :
    (after.zlm other).recorder = released state previous other ∧ (after.zlm other).online = (state.zlm other).online := by
  unfold releasePrevious at returned
  obtain ⟨online, _, isOnline, rest⟩ := returns_bind.mp returned
  obtain ⟨rfl, rfl⟩ := isStreamOnline_returns isOnline
  obtain ⟨recording, middle, isRecorded, rest⟩ := returns_bind.mp rest
  have recorded : state = middle ∧
      recording = ((state.zlm previous).online && (state.zlm previous).recorder.isSome) := by
    unfold andAlso at isRecorded
    split at isRecorded
    next online =>
      obtain ⟨rfl, rfl⟩ := isRecording_returns isRecorded
      exact ⟨rfl, by rw [online, Bool.true_and]⟩
    next offline =>
      obtain ⟨rfl, rfl⟩ := returns_pure.mp isRecorded
      exact ⟨rfl, by rw [Bool.not_eq_true] at offline; rw [offline, Bool.false_and]⟩
  obtain ⟨rfl, isRecording⟩ := recorded
  obtain ⟨_, stoppedState, isStopped, rest⟩ := returns_bind.mp rest
  obtain ⟨_, last, isSet, isResult⟩ := returns_bind.mp rest
  obtain ⟨rfl, rfl⟩ := returns_pure.mp isResult
  rw [set_returns isSet, RuntimeState.withMode_zlm]
  unfold released
  rcases returns_when.mp isStopped with ⟨running, stops⟩ | ⟨idle, rfl⟩
  · rw [running, eq_comm, Bool.and_eq_true] at isRecording
    rw [stopped_returns stops, RuntimeState.withRecorder_recorder, RuntimeState.withRecorder_online]
    simp only [isRecording.1, and_true]
  · refine ⟨?_, rfl⟩
    split
    next both =>
      obtain ⟨rfl, online⟩ := both
      rw [idle, online, Bool.true_and] at isRecording
      exact Option.not_isSome_iff_eq_none.mp (by rw [← isRecording]; exact Bool.false_ne_true)
    next => rfl

theorem checkTarget_returns {desired : DesiredRecorder} {root : String}
    (returned : Returns (checkTarget backend desired) state root after) :
    desired.targetRoot = some root ∧ state = after := by
  unfold checkTarget at returned
  split at returned
  · exact absurd returned not_returns_throw
  next isRoot =>
    obtain ⟨online, _, isOnline, rest⟩ := returns_bind.mp returned
    obtain ⟨_, rfl⟩ := isStreamOnline_returns isOnline
    split at rest
    · exact absurd rest not_returns_throw
    · obtain ⟨rfl, rfl⟩ := returns_pure.mp rest
      exact ⟨isRoot, rfl⟩

/-- A running recorder is taken as it is. -/
theorem takeOver_returns {desired : DesiredRecorder} {root : String} {changed : Bool} {result : RecorderReconcileResult}
    (returned : Returns (takeOver backend desired root changed) state result after) :
    result.assumedExistingMode = false ∧ ∀ other, (after.zlm other).recorder =
      if other = desired.key then some ((state.zlm other).recorder.getD ⟨root, desired.maxSecond⟩)
      else (state.zlm other).recorder := by
  unfold takeOver at returned
  obtain ⟨current, _, isCurrent, rest⟩ := returns_bind.mp returned
  obtain ⟨rfl, rfl⟩ := isRecording_returns isCurrent
  obtain ⟨_, middle, isStarted, rest⟩ := returns_bind.mp rest
  obtain ⟨_, last, isSet, isResult⟩ := returns_bind.mp rest
  obtain ⟨rfl, rfl⟩ := returns_pure.mp isResult
  refine ⟨rfl, fun other => ?_⟩
  rw [set_returns isSet, RuntimeState.withMode_zlm]
  rcases returns_when.mp isStarted with ⟨idle, starts⟩ | ⟨running, rfl⟩
  · rw [Bool.not_eq_true', Option.isSome_eq_false_iff, Option.isNone_iff_eq_none] at idle
    rw [started_returns starts, RuntimeState.withRecorder_recorder]
    split
    next same =>
      rw [same, idle]
      rfl
    next => rfl
  · rw [Bool.not_eq_false'] at running
    obtain ⟨recorder, isRecorder⟩ := Option.isSome_iff_exists.mp running
    split
    next same =>
      rw [same, isRecorder]
      rfl
    next => rfl

theorem wanted_eq_some {desired : Option DesiredRecorder} {item : DesiredRecorder} :
    wanted desired = some item ↔ desired = some item ∧ item.mode ≠ .off := by
  unfold wanted
  rw [Option.filter_eq_some_iff, decide_eq_true_eq]

theorem wanted_eq_none {desired : Option DesiredRecorder} {item : DesiredRecorder} (unwanted : wanted desired = none)
    (isItem : desired = some item) : item.mode = .off := by
  by_contra on
  rw [wanted_eq_some.mpr ⟨isItem, on⟩] at unwanted
  cases unwanted

/-- Nothing is wanted: the previous recorder is stopped. -/
theorem switch_off_returns {desired : Option DesiredRecorder} (unwanted : wanted desired = none)
    {result : RecorderReconcileResult} (returned : Returns (switchProfile backend previous desired) state result after)
    (other : ZlmStreamReference) : (after.zlm other).recorder = released state previous other := by
  unfold switchProfile at returned
  split at returned
  next same =>
    cases desired with
    | none => cases same
    | some item =>
      have isPrevious : item.key = previous := of_decide_eq_true same
      rw [reconcile_off_returns (wanted_eq_none unwanted rfl) returned other, isPrevious, released]
  next =>
    rw [unwanted] at returned
    obtain ⟨changed, middle, isReleased, isResult⟩ := returns_bind.mp returned
    obtain ⟨rfl, rfl⟩ := returns_pure.mp isResult
    exact (releasePrevious_returns isReleased other).1

/-- The wanted recorder runs, and the previous one does not. -/
theorem switch_wanted_returns {desired : Option DesiredRecorder} {item : DesiredRecorder}
    (isWanted : wanted desired = some item) {result : RecorderReconcileResult}
    (returned : Returns (switchProfile backend previous desired) state result after) :
    result.assumedExistingMode = false ∧ (item.key = previous → (state.zlm previous).online = true) ∧
      ∃ root, item.targetRoot = some root ∧ ∀ other, (after.zlm other).recorder =
        if other = item.key then some ((released state previous other).getD ⟨root, item.maxSecond⟩)
        else released state previous other := by
  obtain ⟨rfl, on⟩ := wanted_eq_some.mp isWanted
  unfold switchProfile at returned
  split at returned
  next same =>
    have isPrevious : item.key = previous := of_decide_eq_true same
    obtain ⟨root, isRoot, online, outcome⟩ := reconcile_wanted_returns on returned
    rw [isPrevious] at online
    have stops (other : ZlmStreamReference) : released state previous other =
        if other = item.key then none else (state.zlm other).recorder := by
      rw [released, isPrevious]
      simp only [online, and_true]
    rcases outcome with ⟨_, _, forced, _⟩ | ⟨_, _, forced, _⟩ | ⟨_, known, recorders⟩
    · cases forced
    · cases forced
    · refine ⟨known, fun _ => online, root, isRoot, fun other => ?_⟩
      rw [recorders, stops]
      split <;> rfl
  next differs =>
    rw [isWanted] at returned
    obtain ⟨root, _, isRoot, rest⟩ := returns_bind.mp returned
    obtain ⟨rooted, rfl⟩ := checkTarget_returns isRoot
    obtain ⟨changed, middle, isReleased, rest⟩ := returns_bind.mp rest
    obtain ⟨known, recorders⟩ := takeOver_returns rest
    refine ⟨known, fun same => absurd (decide_eq_true same) differs, root, rooted, fun other => ?_⟩
    rw [recorders, (releasePrevious_returns isReleased other).1]

/-! ## Runs -/

/-- The processes of the control plane; each has a tracker of its own. -/
inductive ControlProcess where
  | api | worker
  deriving DecidableEq

structure RuntimeWorld where
  zlm : ZlmStreamReference → ZlmStream
  modes : ControlProcess → ZlmStreamReference → Option RecorderMode

def RuntimeWorld.view (world : RuntimeWorld) (process : ControlProcess) : RuntimeState :=
  { zlm := world.zlm, modes := world.modes process }

def RuntimeWorld.absorb (world : RuntimeWorld) (process : ControlProcess) (state : RuntimeState) : RuntimeWorld :=
  { zlm := state.zlm, modes := Function.update world.modes process state.modes }

inductive RuntimeCall where
  | reconcile (desired : Option DesiredRecorder) (forceReconfigure : Bool)
  | switchProfile (previous : ZlmStreamReference) (desired : Option DesiredRecorder)

def RuntimeCall.perform (backend : RecordingBackend) : RuntimeCall → Control RecorderReconcileResult
  | .reconcile desired forceReconfigure => RecordingRuntimeService.reconcile backend desired forceReconfigure
  | .switchProfile previous desired => RecordingRuntimeService.switchProfile backend previous desired

def RuntimeCall.desired : RuntimeCall → Option DesiredRecorder
  | .reconcile desired _ => desired
  | .switchProfile _ desired => desired

inductive RuntimeAction where
  | called (process : ControlProcess) (call : RuntimeCall) (answer : Result RecorderReconcileResult)
  | wentOffline (key : ZlmStreamReference)
  | cameOnline (key : ZlmStreamReference)
  | restarted (process : ControlProcess)

/-- Calls come in any order from both processes, and the adapter may fail at each of them.  A stream
    may lose its recorder when it goes offline, and a process its tracker when it restarts. -/
inductive RuntimeStep : RuntimeWorld → RuntimeAction → RuntimeWorld → Prop
  | called {world : RuntimeWorld} {process : ControlProcess} {call : RuntimeCall} (backend : RecordingBackend)
      {answer : Result RecorderReconcileResult} {after : RuntimeState} :
      (call.perform backend).outcome (world.view process) = (answer, after) →
      RuntimeStep world (.called process call answer) (world.absorb process after)
  | wentOffline {world : RuntimeWorld} {key : ZlmStreamReference} {recorder : Option NativeRecorder} :
      recorder = none ∨ recorder = (world.zlm key).recorder →
      RuntimeStep world (.wentOffline key) { world with zlm := Function.update world.zlm key ⟨false, recorder⟩ }
  | cameOnline {world : RuntimeWorld} {key : ZlmStreamReference} :
      RuntimeStep world (.cameOnline key)
        { world with zlm := Function.update world.zlm key { world.zlm key with online := true } }
  | restarted {world : RuntimeWorld} {process : ControlProcess} :
      RuntimeStep world (.restarted process)
        { world with modes := Function.update world.modes process fun _ => none }

/-- The wanted recorder of a call that claims to know it writes under the desired root. -/
def Directed (desired : Option DesiredRecorder) (result : RecorderReconcileResult) (after : RuntimeState) : Prop :=
  ∀ item, wanted desired = some item → result.assumedExistingMode = false →
    ∃ root, item.targetRoot = some root ∧ WritesUnder after item.key root

def AtMostOneRecording (profiles : Set ZlmStreamReference) (state : RuntimeState) : Prop :=
  ∀ one ∈ profiles, ∀ other ∈ profiles, Recording state one → Recording state other → one = other

/-- The call is a switch between profiles of the camera. -/
def SwitchOf (profiles : Set ZlmStreamReference) : RuntimeCall → Prop
  | .reconcile _ _ => False
  | .switchProfile previous desired => previous ∈ profiles ∧ ∀ item, desired = some item → item.key ∈ profiles

/-- What is promised of a call that returns. -/
def SoundCall (profiles : Set ZlmStreamReference) (call : RuntimeCall) (result : RecorderReconcileResult)
    (after : RuntimeState) : Prop :=
  Directed call.desired result after ∧ (SwitchOf profiles call → AtMostOneRecording profiles after)

/-- The recorder of the stream runs under another root than the desired one. -/
def Misdirected (state : RuntimeState) (desired : DesiredRecorder) : Prop :=
  Recording state desired.key ∧ ∀ root, desired.targetRoot = some root → ¬ WritesUnder state desired.key root

/-- The profiles of the camera that a switch does not stop. -/
def Remaining (profiles : Set ZlmStreamReference) (state : RuntimeState) (previous key : ZlmStreamReference) : Prop :=
  key ∈ profiles ∧ Recording state key ∧ ¬ (key = previous ∧ (state.zlm previous).online = true)

/-- A call meets the state it finds: no recorder under another root is there for it to keep, and a
    switch finds no profile recording but its own. -/
def Meets (profiles : Set ZlmStreamReference) (state : RuntimeState) : RuntimeCall → Prop
  | .reconcile desired forceReconfigure => ∀ item, wanted desired = some item → forceReconfigure = false →
      state.modes item.key = some item.mode → ¬ Misdirected state item
  | .switchProfile previous desired =>
    (∀ item, wanted desired = some item → item.key ≠ previous → ¬ Misdirected state item) ∧
    (SwitchOf profiles (.switchProfile previous desired) →
      (∀ item, wanted desired = some item → ∀ key, Remaining profiles state previous key → key = item.key) ∧
      (wanted desired = none → ∀ one other, Remaining profiles state previous one →
        Remaining profiles state previous other → one = other))

theorem released_isSome {profiles : Set ZlmStreamReference} (member : key ∈ profiles) :
    (released state previous key).isSome = true ↔ Remaining profiles state previous key := by
  unfold released Remaining Recording
  split
  next stops => simp [stops]
  next runs => simp [runs, member]

/-- A recorder that runs is directed unless it is misdirected. -/
theorem writesUnder_iff {item : DesiredRecorder} {root : String} (recording : Recording state item.key)
    (isRoot : item.targetRoot = some root) : WritesUnder state item.key root ↔ ¬ Misdirected state item := by
  constructor
  · rintro writes ⟨_, otherRoot⟩
    exact otherRoot root isRoot writes
  · intro directed
    by_contra notUnder
    refine directed ⟨recording, fun other isOther => ?_⟩
    rw [isRoot] at isOther
    cases isOther
    exact notUnder

theorem reconcile_sound_iff {profiles : Set ZlmStreamReference} {desired : Option DesiredRecorder}
    {forceReconfigure : Bool} {result : RecorderReconcileResult}
    (returned : Returns (reconcile backend desired forceReconfigure) state result after) :
    SoundCall profiles (.reconcile desired forceReconfigure) result after ↔
      Meets profiles state (.reconcile desired forceReconfigure) := by
  have direct : SoundCall profiles (.reconcile desired forceReconfigure) result after ↔
      Directed desired result after := ⟨And.left, fun directed => ⟨directed, False.elim⟩⟩
  rw [direct]
  simp only [Meets, Directed]
  cases isWanted : wanted desired with
  | none => simp
  | some item =>
    obtain ⟨rfl, on⟩ := wanted_eq_some.mp isWanted
    obtain ⟨root, isRoot, _, outcome⟩ := reconcile_wanted_returns on returned
    simp only [Option.some.injEq, forall_eq', isRoot, exists_eq_left']
    rcases outcome with ⟨recording, known, unforced, proved, rfl⟩ | ⟨_, unknown, _, assumed, _⟩ |
      ⟨notKept, proved, recorders⟩
    · have kept := writesUnder_iff recording isRoot
      exact ⟨fun directed _ _ => kept.mp (directed proved), fun meets _ => kept.mpr (meets unforced known)⟩
    · refine ⟨fun _ _ known => ?_, fun _ proved => ?_⟩
      · rw [unknown] at known
        cases known
      · rw [assumed] at proved
        cases proved
    · refine ⟨fun _ unforced known misdirected => notKept ⟨misdirected.1, known, unforced⟩, fun _ _ => ?_⟩
      exact ⟨⟨root, item.maxSecond⟩, by rw [recorders, if_pos rfl], rfl⟩

theorem switch_directed_iff {desired : Option DesiredRecorder} {result : RecorderReconcileResult}
    (returned : Returns (switchProfile backend previous desired) state result after) :
    Directed desired result after ↔
      ∀ item, wanted desired = some item → item.key ≠ previous → ¬ Misdirected state item := by
  refine forall_congr' fun item => imp_congr_right fun isWanted => ?_
  obtain ⟨proved, online, root, isRoot, recorders⟩ := switch_wanted_returns isWanted returned
  simp only [proved, true_imp_iff, isRoot, Option.some.injEq, exists_eq_left']
  have here := recorders item.key
  rw [if_pos rfl] at here
  by_cases same : item.key = previous
  · have stops : released state previous item.key = none := if_pos ⟨same, online same⟩
    rw [stops, Option.getD_none] at here
    exact ⟨fun _ differs => absurd same differs, fun _ => ⟨_, here, rfl⟩⟩
  · have keeps : released state previous item.key = (state.zlm item.key).recorder := if_neg fun both => same both.1
    rw [keeps] at here
    cases running : (state.zlm item.key).recorder with
    | none =>
      rw [running, Option.getD_none] at here
      refine ⟨fun _ _ misdirected => ?_, fun _ => ⟨_, here, rfl⟩⟩
      have recording := misdirected.1
      rw [Recording, running] at recording
      cases recording
    | some recorder =>
      rw [running, Option.getD_some] at here
      have recording : Recording state item.key := by rw [Recording, running]; rfl
      have unchanged : WritesUnder after item.key root ↔ WritesUnder state item.key root := by
        rw [WritesUnder, WritesUnder, here, running]
      rw [unchanged, writesUnder_iff recording isRoot]
      exact ⟨fun directed _ => directed, fun directed => directed same⟩

theorem switch_off_single_iff {profiles : Set ZlmStreamReference} {desired : Option DesiredRecorder}
    (unwanted : wanted desired = none) {result : RecorderReconcileResult}
    (returned : Returns (switchProfile backend previous desired) state result after) :
    AtMostOneRecording profiles after ↔ ∀ one other, Remaining profiles state previous one →
      Remaining profiles state previous other → one = other := by
  have remains : ∀ key ∈ profiles, Recording after key ↔ Remaining profiles state previous key := fun key member => by
    rw [Recording, switch_off_returns unwanted returned, released_isSome member]
  constructor
  · intro single one other oneRemains otherRemains
    exact single one oneRemains.1 other otherRemains.1 ((remains one oneRemains.1).mpr oneRemains)
      ((remains other otherRemains.1).mpr otherRemains)
  · intro single one oneMember other otherMember oneRecords otherRecords
    exact single one other ((remains one oneMember).mp oneRecords) ((remains other otherMember).mp otherRecords)

theorem switch_wanted_single_iff {profiles : Set ZlmStreamReference} {desired : Option DesiredRecorder}
    {item : DesiredRecorder} (isWanted : wanted desired = some item) (ofCamera : item.key ∈ profiles)
    {result : RecorderReconcileResult}
    (returned : Returns (switchProfile backend previous desired) state result after) :
    AtMostOneRecording profiles after ↔ ∀ key, Remaining profiles state previous key → key = item.key := by
  obtain ⟨_, _, root, _, recorders⟩ := switch_wanted_returns isWanted returned
  have wantedRecords : Recording after item.key := by
    rw [Recording, recorders, if_pos rfl]
    rfl
  have remains : ∀ key ∈ profiles, key ≠ item.key → (Recording after key ↔ Remaining profiles state previous key) :=
    fun key member differs => by rw [Recording, recorders, if_neg differs, released_isSome member]
  have records_only (single : ∀ key, Remaining profiles state previous key → key = item.key) :
      ∀ key ∈ profiles, Recording after key → key = item.key := by
    intro key member records
    by_contra differs
    exact differs (single key ((remains key member differs).mp records))
  constructor
  · intro single key remaining
    by_contra differs
    exact differs (single key remaining.1 item.key ofCamera ((remains key remaining.1 differs).mpr remaining)
      wantedRecords)
  · intro single one oneMember other otherMember oneRecords otherRecords
    rw [records_only single one oneMember oneRecords, records_only single other otherMember otherRecords]

theorem switch_sound_iff {profiles : Set ZlmStreamReference} {desired : Option DesiredRecorder}
    {result : RecorderReconcileResult}
    (returned : Returns (switchProfile backend previous desired) state result after) :
    SoundCall profiles (.switchProfile previous desired) result after ↔
      Meets profiles state (.switchProfile previous desired) := by
  refine and_congr (switch_directed_iff returned) (imp_congr_right fun switch => ?_)
  cases isWanted : wanted desired with
  | none =>
    rw [switch_off_single_iff isWanted returned]
    exact ⟨fun single => ⟨fun _ isItem => (Option.some_ne_none _ isItem.symm).elim, fun _ => single⟩,
      fun meets => meets.2 rfl⟩
  | some item =>
    have ofCamera := switch.2 item (wanted_eq_some.mp isWanted).1
    rw [switch_wanted_single_iff isWanted ofCamera returned]
    refine ⟨fun single => ⟨?_, fun none => (Option.some_ne_none _ none).elim⟩, fun meets => meets.1 item rfl⟩
    rintro other isOther
    cases isOther
    exact single

/-- A call that returns is sound exactly where it meets the state it finds. -/
theorem sound_iff_meets {profiles : Set ZlmStreamReference} {call : RuntimeCall} {result : RecorderReconcileResult}
    (returned : Returns (call.perform backend) state result after) :
    SoundCall profiles call result after ↔ Meets profiles state call := by
  cases call with
  | reconcile desired forceReconfigure => exact reconcile_sound_iff returned
  | switchProfile previous desired => exact switch_sound_iff returned

/-! ## The claim over runs -/

/-- The step is a call that returns and keeps its promise, or no call that returns. -/
def SoundStep (profiles : Set ZlmStreamReference) (world : RuntimeWorld) (action : RuntimeAction)
    (after : RuntimeWorld) : Prop :=
  RuntimeStep world action after ∧ ∀ process call result, action = .called process call (.ok result) →
    SoundCall profiles call result (after.view process)

def MeetingStep (profiles : Set ZlmStreamReference) (world : RuntimeWorld) (action : RuntimeAction)
    (after : RuntimeWorld) : Prop :=
  RuntimeStep world action after ∧ ∀ process call result, action = .called process call (.ok result) →
    Meets profiles (world.view process) call

theorem view_absorb (world : RuntimeWorld) (process : ControlProcess) (state : RuntimeState) :
    (world.absorb process state).view process = state := by
  simp [RuntimeWorld.absorb, RuntimeWorld.view]

theorem soundStep_iff {profiles : Set ZlmStreamReference} {world final : RuntimeWorld} {action : RuntimeAction} :
    SoundStep profiles world action final ↔ MeetingStep profiles world action final := by
  refine and_congr_right fun step => forall_congr' fun process => forall_congr' fun call => forall_congr' fun result =>
    imp_congr_right fun isCall => ?_
  subst isCall
  cases step with
  | called backend done =>
    rw [view_absorb]
    exact sound_iff_meets done

/-- A run keeps its promises exactly where each of its calls that returns meets the state it finds. -/
theorem run_sound_iff (profiles : Set ZlmStreamReference) {world final : RuntimeWorld} {actions : List RuntimeAction} :
    Run (SoundStep profiles) world actions final ↔ Run (MeetingStep profiles) world actions final :=
  ⟨Run.mono fun _ _ _ => soundStep_iff.mp, Run.mono fun _ _ _ => soundStep_iff.mpr⟩

/-! Without any failure, the two processes mislead each other. -/

def willing : RecordingBackend where
  onlineFault _ := none
  recordingFault _ := none
  stop _ := .done
  start _ := .done

def onlineWorld : RuntimeWorld := { zlm := fun _ => { online := true }, modes := fun _ _ => none }

def profileRecorder (stream : String) (mode : RecorderMode) (root : String) : DesiredRecorder :=
  { cameraId := 1, profileId := 1, app := "camera", stream, mode, targetRoot := some root, maxSecond := 5 }

def performed (world : RuntimeWorld) (process : ControlProcess) (call : RuntimeCall) : RuntimeWorld :=
  world.absorb process ((call.perform willing).outcome (world.view process)).2

def reported (desiredMode : RecorderMode) (changed : Bool) : RecorderReconcileResult :=
  { desiredMode, observedRecording := true, changed, assumedExistingMode := false, streamOnline := some true }

def toDisk : RuntimeCall := .reconcile (some (profileRecorder "a" .persistent "/recordings")) false
def toPrebuffer : RuntimeCall := .reconcile (some (profileRecorder "a" .prebuffer "/prebuffer")) true
def toOtherProfile : RuntimeCall := .switchProfile ⟨"camera", "b"⟩ (some (profileRecorder "c" .persistent "/recordings"))

/-- The API moves the recorder to the prebuffer; the worker still knows it as persistent, and reports the
    recording it asked for.  And a switch from a profile that does not record leaves the one that does. -/
theorem recorder_misdirected :
    (∃ world, Run RuntimeStep onlineWorld
      [.called .worker toDisk (.ok (reported .persistent true)), .called .api toPrebuffer (.ok (reported .prebuffer true)),
        .called .worker toDisk (.ok (reported .persistent false))] world ∧
      (world.zlm ⟨"camera", "a"⟩).recorder = some ⟨"/prebuffer", 5⟩) ∧
    (∃ world, Run RuntimeStep onlineWorld
      [.called .worker toDisk (.ok (reported .persistent true)),
        .called .worker toOtherProfile (.ok (reported .persistent true))] world ∧
      Recording (world.view .worker) ⟨"camera", "a"⟩ ∧ Recording (world.view .worker) ⟨"camera", "c"⟩) := by
  have first : RuntimeStep onlineWorld (.called .worker toDisk (.ok (reported .persistent true)))
      (performed onlineWorld .worker toDisk) := .called willing rfl
  refine ⟨⟨performed (performed (performed onlineWorld .worker toDisk) .api toPrebuffer) .worker toDisk, ?_, rfl⟩,
    ⟨performed (performed onlineWorld .worker toDisk) .worker toOtherProfile, ?_, rfl, rfl⟩⟩
  · exact .next first (.next (.called willing rfl) (.next (.called willing rfl) (.done _)))
  · exact .next first (.next (.called willing rfl) (.done _))

end ZeroNvr.RecordingRuntimeService
