import ZeroNvr.Core.Errors
import ZeroNvr.Lib.Effect
import ZeroNvr.Models

/-! # The recorder runtime

One native recorder runs in ZLMediaKit for a stream.  A process of the control
plane remembers the mode it last configured a stream for; it drives the recorder
through the adapter, any call of which may fail.
-/

namespace ZeroNvr

open Lib

/-! ## ZLMediaKit -/

structure ZlmStreamReference where
  app : String
  stream : String
  deriving DecidableEq

structure NativeRecorder where
  customizedPath : String
  maxSecond : Int

structure ZlmStream where
  online : Bool := false
  recorder : Option NativeRecorder := none

/-- What ZLM makes of a command: whether it carries it out, and what the adapter says.  The adapter
    never confirms a command that was not carried out. -/
structure CommandOutcome where
  applied : Bool
  answer : Result Bool
  confirmed : answer = .ok true → applied = true

def CommandOutcome.done : CommandOutcome := ⟨true, .ok true, fun _ => rfl⟩

/-- What the calls of the adapter come to: a query answers or raises. -/
structure RecordingBackend where
  onlineFault : ZlmStreamReference → Option PyError
  recordingFault : ZlmStreamReference → Option PyError
  stop : ZlmStreamReference → CommandOutcome
  start : ZlmStreamReference → CommandOutcome

inductive RecorderMode where
  | persistent | prebuffer | off
  deriving DecidableEq

/-- What a call sees: the streams of ZLM, and the modes its process remembers. -/
structure RuntimeState where
  zlm : ZlmStreamReference → ZlmStream
  modes : ZlmStreamReference → Option RecorderMode

namespace RuntimeState

/-- The recorder of one stream is replaced. -/
def withRecorder (state : RuntimeState) (key : ZlmStreamReference) (recorder : Option NativeRecorder) : RuntimeState :=
  { state with zlm := Function.update state.zlm key { state.zlm key with recorder } }

def withMode (state : RuntimeState) (key : ZlmStreamReference) (mode : RecorderMode) : RuntimeState :=
  { state with modes := Function.update state.modes key (if mode = .off then none else some mode) }

@[simp] theorem withMode_zlm (state : RuntimeState) (key : ZlmStreamReference) (mode : RecorderMode) :
    (state.withMode key mode).zlm = state.zlm := rfl

@[simp] theorem withRecorder_online (state : RuntimeState) (key other : ZlmStreamReference)
    (recorder : Option NativeRecorder) :
    ((state.withRecorder key recorder).zlm other).online = (state.zlm other).online := by
  by_cases same : other = key
  · subst same
    simp [withRecorder]
  · simp [withRecorder, same]

@[simp] theorem withRecorder_recorder (state : RuntimeState) (key other : ZlmStreamReference)
    (recorder : Option NativeRecorder) :
    ((state.withRecorder key recorder).zlm other).recorder =
      if other = key then recorder else (state.zlm other).recorder := by
  by_cases same : other = key
  · subst same
    simp [withRecorder]
  · simp [withRecorder, same]

end RuntimeState

abbrev Control := Effect PyError RuntimeState

/-! ## The mode tracker -/

namespace RecorderModeTracker

def get (key : ZlmStreamReference) : Control (Option RecorderMode) := do
  let state ← MonadState.get
  pure (state.modes key)

def set (key : ZlmStreamReference) (mode : RecorderMode) : Control PUnit :=
  modify fun state => state.withMode key mode

end RecorderModeTracker

/-! ## The adapter -/

namespace RecordingBackend

variable (zlm : RecordingBackend) (key : ZlmStreamReference)

def isStreamOnline : Control Bool :=
  match zlm.onlineFault key with
  | some fault => throw fault
  | none => do
    let state ← get
    pure (state.zlm key).online

def isRecording : Control Bool :=
  match zlm.recordingFault key with
  | some fault => throw fault
  | none => do
    let state ← get
    pure (state.zlm key).recorder.isSome

/-- The command takes effect if it is carried out, whatever the adapter then says. -/
def command (outcome : CommandOutcome) (recorder : Option NativeRecorder) : Control Bool := do
  Effect.when outcome.applied (modify fun state => state.withRecorder key recorder)
  match outcome.answer with
  | .ok confirmed => pure confirmed
  | .error fault => throw fault

def stopRecorder : Control Bool := command key (zlm.stop key) none

def startRecorder (customizedPath : String) (maxSecond : Int) : Control Bool :=
  command key (zlm.start key) (some { customizedPath, maxSecond })

end RecordingBackend

structure DesiredRecorder where
  cameraId : Uuid
  profileId : Uuid
  app : String
  stream : String
  mode : RecorderMode
  targetRoot : Option String
  maxSecond : Int
  reasons : List String := []

def DesiredRecorder.key (desired : DesiredRecorder) : ZlmStreamReference := ⟨desired.app, desired.stream⟩

structure RecorderReconcileResult where
  desiredMode : RecorderMode
  observedRecording : Bool
  changed : Bool
  assumedExistingMode : Bool
  streamOnline : Option Bool := none

namespace RecordingRuntimeService

variable (zlm : RecordingBackend)

def streamOffline (message : String) : PyError := apiError 503 "recording_stream_offline" message

def runtimeInvalid : PyError :=
  apiError 500 "recording_runtime_invalid" "Recording runtime target is unavailable."

/-- Stop the recorder; the text names what did not stop. -/
def stopped (key : ZlmStreamReference) (message : String) : Control PUnit := do
  let confirmed ← zlm.stopRecorder key
  if ¬ confirmed then throw (apiError 503 "recording_stop_failed" message)

/-- Start the recorder the policy wants. -/
def started (desired : DesiredRecorder) (root message : String) : Control PUnit := do
  let confirmed ← zlm.startRecorder desired.key root desired.maxSecond
  if ¬ confirmed then throw (apiError 503 "recording_start_failed" message)

def offResult (changed : Bool) (streamOnline : Option Bool) : RecorderReconcileResult :=
  { desiredMode := .off, observedRecording := false, changed, assumedExistingMode := false, streamOnline }

/-- The stream is online and no recorder is wanted. -/
def reconcileOff (key : ZlmStreamReference) (current : Bool) : Control RecorderReconcileResult := do
  Effect.when current (stopped zlm key "ZLMediaKit did not stop recording.")
  RecorderModeTracker.set key .off
  pure (offResult current (some true))

/-- The stream is online and a recorder under the given root is wanted. -/
def reconcileOn (desired : DesiredRecorder) (root : String) (forceReconfigure : Bool)
    (knownMode : Option RecorderMode) (current : Bool) : Control RecorderReconcileResult :=
  let kept : RecorderReconcileResult :=
    { desiredMode := desired.mode, observedRecording := true, changed := false, assumedExistingMode := false
      streamOnline := some true }
  if current ∧ knownMode = some desired.mode ∧ ¬ forceReconfigure then pure kept
  -- A recorder that survived a restart of the process is not interrupted to learn its path.
  else if current ∧ knownMode = none ∧ ¬ forceReconfigure then pure { kept with assumedExistingMode := true }
  else do
    Effect.when current (stopped zlm desired.key "ZLMediaKit did not stop the previous recorder mode.")
    started zlm desired root "ZLMediaKit did not start recording."
    RecorderModeTracker.set desired.key desired.mode
    pure { kept with changed := true }

def reconcile (desired : Option DesiredRecorder) (forceReconfigure : Bool) : Control RecorderReconcileResult :=
  match desired with
  | none => pure (offResult false none)
  | some desired => do
    let knownMode ← RecorderModeTracker.get desired.key
    let online ← zlm.isStreamOnline desired.key
    if desired.mode = .off ∧ ¬ online then do
      RecorderModeTracker.set desired.key .off
      pure (offResult false (some false))
    else if ¬ online then
      throw (streamOffline "Camera recording stream is not available in ZLMediaKit.")
    else do
      let current ← zlm.isRecording desired.key
      if desired.mode = .off then reconcileOff zlm desired.key current
      else match desired.targetRoot with
        | none => throw runtimeInvalid
        | some root => reconcileOn zlm desired root forceReconfigure knownMode current

/-- The recorder that is wanted, when one is: its root is known, and its stream is online. -/
def checkTarget (desired : DesiredRecorder) : Control String :=
  match desired.targetRoot with
  | none => throw runtimeInvalid
  | some root => do
    let online ← zlm.isStreamOnline desired.key
    if ¬ online then
      throw (streamOffline ("New camera recording stream is not available in ZLMediaKit; the previous recorder " ++
        "was left running."))
    else pure root

/-- `and` of a value and a call that is made only where the value holds. -/
def andAlso (condition : Bool) (call : Control Bool) : Control Bool := if condition then call else pure false

/-- The previous recorder is stopped, so that its file is finalized. -/
def releasePrevious (previous : ZlmStreamReference) : Control Bool := do
  let online ← zlm.isStreamOnline previous
  let recording ← andAlso online (zlm.isRecording previous)
  Effect.when recording (stopped zlm previous "ZLMediaKit did not finalize the previous recording profile.")
  RecorderModeTracker.set previous .off
  pure recording

/-- The recorder of the new stream; one that runs is taken as it is. -/
def takeOver (desired : DesiredRecorder) (root : String) (changed : Bool) : Control RecorderReconcileResult := do
  let current ← zlm.isRecording desired.key
  Effect.when (!current) (started zlm desired root "ZLMediaKit did not start recording on the new profile.")
  RecorderModeTracker.set desired.key desired.mode
  pure { desiredMode := desired.mode, observedRecording := true, changed := changed || !current
         assumedExistingMode := false, streamOnline := some true }

/-- The recorder a call is to leave running, if any. -/
def wanted (desired : Option DesiredRecorder) : Option DesiredRecorder := desired.filter fun item => item.mode ≠ .off

def switchProfile (previous : ZlmStreamReference) (desired : Option DesiredRecorder) :
    Control RecorderReconcileResult :=
  if desired.any fun item => item.key = previous then reconcile zlm desired true
  else match wanted desired with
    | none => do
      let changed ← releasePrevious zlm previous
      pure (offResult changed none)
    | some desired => do
      let root ← checkTarget zlm desired
      let changed ← releasePrevious zlm previous
      takeOver zlm desired root changed

end RecordingRuntimeService

end ZeroNvr
