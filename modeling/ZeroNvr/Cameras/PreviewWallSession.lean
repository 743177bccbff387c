import ZeroNvr.Lib.OrderedDict
import ZeroNvr.Core.JsonWrite
import ZeroNvr.Cameras.PreviewWallProtocol

/-! # The session of a preview wall

`PreviewWallSession`: one task for each slot reads the frames of a camera, syncs
start and stop the tasks, and a sender takes the messages.  The coroutines
interleave where they await; what runs between two awaits is one step.
-/

namespace ZeroNvr.PreviewWall

open JsonText (Value write ascii)
open Lib

/-! ## Messages -/

inductive WallEvent where
  | synced
  | ready (slot subscriptionId : Nat)
  | error (slot subscriptionId : Nat) (code message : String)
  deriving DecidableEq

/-- The keys of `_control`. -/
inductive ControlKey where
  | slot (slot : Nat)
  | event (type : String)
  deriving DecidableEq

namespace WallEvent

def payload : WallEvent → Value
  | .synced => .obj [("type", .str "synced"), ("version", .int protocolVersion)]
  | .ready slot subscriptionId =>
    .obj [("type", .str "ready"), ("slot", .int slot), ("subscription_id", .int subscriptionId)]
  | .error slot subscriptionId code message =>
    .obj [("type", .str "error"), ("slot", .int slot), ("subscription_id", .int subscriptionId), ("code", .str code),
      ("message", .str message)]

/-- The slot and the subscription that an event names. -/
def about? : WallEvent → Option (Nat × Nat)
  | .synced => none
  | .ready slot subscriptionId => some (slot, subscriptionId)
  | .error slot subscriptionId _ _ => some (slot, subscriptionId)

def key : WallEvent → ControlKey
  | .synced => .event "synced"
  | .ready slot _ => .slot slot
  | .error slot _ _ _ => .slot slot

def text (event : WallEvent) : List Char := write ascii event.payload

end WallEvent

/-- What `next_message` returns; of a frame only the bytes are sent. -/
inductive WallMessage where
  | text (text : List Char)
  | frame (subscription : PreviewWallSubscription) (encoded : Bytes)
  deriving DecidableEq

/-! ## Entries -/

/-- Where the task of an entry stands. -/
inductive SourcePhase where
  /-- It has not run yet. -/
  | scheduled
  /-- It awaits `_open_source`. -/
  | opening
  /-- It awaits a frame. -/
  | streaming
  /-- It awaits `preview.close()` in `_cleanup_entry`. -/
  | closing
  | done
  deriving DecidableEq

/-- `_ActivePreview` and its task, with how often its preview was closed and released. -/
structure ActivePreview where
  subscription : PreviewWallSubscription
  profile : PreviewWallProfile
  phase : SourcePhase
  cancelRequested : Bool
  opened : Bool
  cleaned : Bool
  readySent : Bool
  closes : Nat
  releases : Nat
  deriving DecidableEq

namespace ActivePreview

def new (subscription : PreviewWallSubscription) (profile : PreviewWallProfile) : ActivePreview :=
  { subscription, profile, phase := .scheduled, cancelRequested := false, opened := false, cleaned := false,
    readySent := false, closes := 0, releases := 0 }

/-- `_cleanup_entry` at the end of the task. -/
def cleanup (entry : ActivePreview) : ActivePreview :=
  if entry.cleaned then { entry with phase := .done }
  else if entry.opened then { entry with cleaned := true, closes := entry.closes + 1, phase := .closing }
  else { entry with cleaned := true, phase := .done }

/-- `_cleanup_entry` of whoever stopped the task. -/
def cleanupStopped (entry : ActivePreview) : ActivePreview :=
  if entry.cleaned then entry
  else if entry.opened then
    { entry with cleaned := true, closes := entry.closes + 1, releases := entry.releases + 1 }
  else { entry with cleaned := true }

def cancel (entry : ActivePreview) : ActivePreview := { entry with cancelRequested := true }

/-- The cancellation is raised in the task. -/
def interrupted (entry : ActivePreview) : ActivePreview := { entry with cancelRequested := false }

end ActivePreview

/-! ## The session -/

/-- The entries created so far, and the fields of the session; `entries` holds their places among them. -/
structure PreviewWallSession where
  previews : List ActivePreview
  entries : OrderedDict Nat Nat
  desired : OrderedDict Nat PreviewWallSubscription
  control : OrderedDict ControlKey (List Char)
  latestFrames : OrderedDict Nat (PreviewWallSubscription × Bytes)
  readySlots : List Nat
  readySet : Finset Nat
  wake : Bool
  closed : Bool
  lastMessageWasControl : Bool

namespace PreviewWallSession

def new : PreviewWallSession :=
  { previews := [], entries := .empty, desired := .empty, control := .empty, latestFrames := .empty, readySlots := [],
    readySet := ∅, wake := false, closed := false, lastMessageWasControl := false }

def modify (session : PreviewWallSession) (id : Nat) (change : ActivePreview → ActivePreview) : PreviewWallSession :=
  { session with previews := session.previews.modify id change }

/-- `self._entries.get(slot) is entry`. -/
def isCurrent (session : PreviewWallSession) (id : Nat) (entry : ActivePreview) : Bool :=
  session.entries.get? entry.subscription.slot = some id

def taskDone (session : PreviewWallSession) (id : Nat) : Bool :=
  session.previews[id]?.all fun entry => entry.phase = .done

/-- The event names a subscription that is not the one its slot should show. -/
def isStale (session : PreviewWallSession) (event : WallEvent) : Bool :=
  event.about?.any fun about =>
    (session.desired.get? about.1).all fun desired => desired.subscriptionId ≠ about.2

def queueEvent (session : PreviewWallSession) (event : WallEvent) : PreviewWallSession :=
  if session.isStale event then session
  else { session with control := (session.control.pop event.key).set event.key event.text, wake := true }

def discardPending (session : PreviewWallSession) (slot : Nat) : PreviewWallSession :=
  let session := { session with latestFrames := session.latestFrames.pop slot }
  if slot ∈ session.readySet then
    { session with readySet := session.readySet.erase slot, readySlots := session.readySlots.filter (· ≠ slot) }
  else session

/-- `self._entries.pop(slot, None)` with the frame that waits. -/
def popEntry (session : PreviewWallSession) (slot : Nat) : PreviewWallSession :=
  { session with entries := session.entries.pop slot }.discardPending slot

/-! ### The task of an entry -/

def endedEvent (subscription : PreviewWallSubscription) : WallEvent :=
  .error subscription.slot subscription.subscriptionId "live_preview_ended" "Fast live preview ended."

/-- The `finally` of `_run_source`. -/
def finish (session : PreviewWallSession) (id : Nat) (entry : ActivePreview) (endedNormally : Bool) : PreviewWallSession :=
  let session :=
    if endedNormally && session.isCurrent id entry then session.queueEvent (endedEvent entry.subscription) else session
  let session := if session.isCurrent id entry then session.popEntry entry.subscription.slot else session
  session.modify id ActivePreview.cleanup

/-- `except Exception`. -/
def sourceFailed (session : PreviewWallSession) (id : Nat) (entry : ActivePreview) (code message : String) :
    PreviewWallSession :=
  let session :=
    if session.isCurrent id entry then
      session.queueEvent (.error entry.subscription.slot entry.subscription.subscriptionId code message)
    else session
  session.finish id entry false

/-- `_open_source` returned. -/
def sourceOpened (session : PreviewWallSession) (id : Nat) (entry : ActivePreview) : PreviewWallSession :=
  let session := session.modify id fun entry => { entry with opened := true }
  if session.isCurrent id entry then session.modify id fun entry => { entry with phase := .streaming }
  else session.finish id entry false

/-- A frame that waits for the sender. -/
def store (session : PreviewWallSession) (subscription : PreviewWallSubscription) (encoded : Bytes) : PreviewWallSession :=
  let session := { session with latestFrames := session.latestFrames.set subscription.slot (subscription, encoded) }
  let session :=
    if subscription.slot ∈ session.readySet then session
    else
      { session with
        readySet := insert subscription.slot session.readySet, readySlots := session.readySlots ++ [subscription.slot] }
  { session with wake := true }

/-- The first frame of an entry is announced. -/
def announce (session : PreviewWallSession) (id : Nat) (entry : ActivePreview) : PreviewWallSession :=
  if entry.readySent then session
  else
    (session.modify id fun entry => { entry with readySent := true }).queueEvent
      (.ready entry.subscription.slot entry.subscription.subscriptionId)

/-- One turn of the loop over the frames. -/
def frameRead (session : PreviewWallSession) (id : Nat) (entry : ActivePreview) (jpeg : Bytes) : PreviewWallSession :=
  match encodePreviewWallFrame entry.subscription jpeg with
  | .error e => session.sourceFailed id entry e.code e.message
  | .ok encoded =>
    if session.isCurrent id entry then (session.announce id entry).store entry.subscription encoded
    else session.finish id entry true

/-! ### The sender -/

/-- The frame of the first ready slot that has one of its current entry, and the slots after it. -/
def takeFrame (session : PreviewWallSession) : List Nat → PreviewWallSession × Option WallMessage
  | [] => ({ session with readySlots := [] }, none)
  | slot :: slots =>
    let pending := session.latestFrames.get? slot
    let session :=
      { session with readySet := session.readySet.erase slot, latestFrames := session.latestFrames.pop slot }
    match pending with
    | none => session.takeFrame slots
    | some (subscription, encoded) =>
      match (session.entries.get? slot).bind (session.previews[·]?) with
      | some entry =>
        if entry.subscription = subscription then
          ({ session with readySlots := slots, lastMessageWasControl := false }, some (.frame subscription encoded))
        else session.takeFrame slots
      | none => session.takeFrame slots

/-- `self._control.popitem(last=False)`. -/
def takeControl (session : PreviewWallSession) : PreviewWallSession × Option WallMessage :=
  match session.control.entries with
  | [] => (session, none)
  | (key, text) :: _ =>
    ({ session with control := session.control.pop key, lastMessageWasControl := true }, some (.text text))

/-- `next_message` up to the message it returns, or up to where it waits. -/
def nextMessage (session : PreviewWallSession) : PreviewWallSession × Option WallMessage :=
  if session.control.entries ≠ [] ∧ (session.readySlots = [] ∨ session.lastMessageWasControl = false) then
    session.takeControl
  else
    match session.takeFrame session.readySlots with
    | (session, some message) => (session, some message)
    | (session, none) =>
      let session := { session with wake := false }
      -- no slot is ready any more
      if session.control.entries ≠ [] then session.takeControl else (session, none)

end PreviewWallSession

/-! ## The coroutines -/

open PreviewWallSession

/-- Where `apply_sync` stands. -/
inductive Receiver where
  | idle
  /-- It awaits the task of an entry; these entries, with their slots, come after it. -/
  | stopping (sync : PreviewWallSync) (id : Nat) (rest : List (Nat × Nat))

/-- A `fail_subscription` that awaits the task of an entry. -/
structure Failing where
  id : Nat
  subscription : PreviewWallSubscription
  code : String
  message : String
  deriving DecidableEq

namespace PreviewWallSession

/-- `desired` of a sync. -/
def desiredOf (sync : PreviewWallSync) : OrderedDict Nat PreviewWallSubscription :=
  OrderedDict.ofPairs (sync.streams.map fun item => (item.slot, item))

/-- The entry shows what its slot should show. -/
def isKept (session : PreviewWallSession) (sync : PreviewWallSync) (slot id : Nat) : Bool :=
  session.previews[id]?.any fun entry =>
    (desiredOf sync).get? slot = some entry.subscription ∧ entry.profile = sync.layoutSlots.profile

def createEntry (profile : PreviewWallProfile) (session : PreviewWallSession)
    (wanted : Nat × PreviewWallSubscription) : PreviewWallSession :=
  if (session.entries.get? wanted.1).isSome then session
  else
    { session with
      entries := session.entries.set wanted.1 session.previews.length,
      previews := session.previews ++ [ActivePreview.new wanted.2 profile] }

/-- The end of `apply_sync`: an entry for each slot that has none. -/
def completeSync (session : PreviewWallSession) (sync : PreviewWallSync) : PreviewWallSession :=
  ((desiredOf sync).entries.foldl (createEntry sync.layoutSlots.profile) session).queueEvent .synced

/-- The loop of `apply_sync` up to the first task it awaits. -/
def continueSync (sync : PreviewWallSync) : List (Nat × Nat) → PreviewWallSession → PreviewWallSession × Receiver
  | [], session => (session.completeSync sync, .idle)
  | (slot, id) :: rest, session =>
    if session.isKept sync slot id then continueSync sync rest session
    else
      let session := session.popEntry slot
      if session.taskDone id then continueSync sync rest (session.modify id ActivePreview.cleanupStopped)
      else (session.modify id ActivePreview.cancel, .stopping sync id rest)

def applySync (session : PreviewWallSession) (sync : PreviewWallSync) : PreviewWallSession × Receiver :=
  continueSync sync session.entries.entries { session with desired := desiredOf sync }

/-- The loop of `close` up to the first task it awaits. -/
def continueClose : List Nat → PreviewWallSession → PreviewWallSession × Option (Nat × List Nat)
  | [], session => ({ session with wake := true }, none)
  | id :: rest, session =>
    if session.taskDone id then continueClose rest (session.modify id ActivePreview.cleanupStopped)
    else (session.modify id ActivePreview.cancel, some (id, rest))

def close (session : PreviewWallSession) : PreviewWallSession × Option (Nat × List Nat) :=
  continueClose (session.entries.entries.map Prod.snd)
    { session with
      closed := true, entries := .empty, desired := .empty, latestFrames := .empty, readySlots := [], readySet := ∅ }

end PreviewWallSession

/-- The session and its coroutines, with the frames its sources produced and the messages it sent. -/
structure WallWorld where
  session : PreviewWallSession
  receiver : Receiver
  failing : List Failing
  /-- The entry whose task `close` awaits, and the ones after it. -/
  closer : Option (Nat × List Nat)
  senderWaits : Bool
  produced : List (PreviewWallSubscription × Bytes)
  sent : List WallMessage

namespace WallWorld

def initial : WallWorld :=
  { session := .new, receiver := .idle, failing := [], closer := none, senderWaits := false, produced := [], sent := [] }

/-- Someone awaits the task of this entry. -/
def Awaited (world : WallWorld) (id : Nat) : Prop :=
  (∃ sync rest, world.receiver = .stopping sync id rest) ∨ (∃ failing ∈ world.failing, failing.id = id) ∨
    (∃ rest, world.closer = some (id, rest))

end WallWorld

inductive WallAction where
  | sync (sync : PreviewWallSync)
  | syncResumed
  | started (id : Nat)
  | opened (id : Nat)
  | frame (id : Nat) (jpeg : Bytes)
  | ended (id : Nat)
  | failed (id : Nat) (code message : String)
  | cancelled (id : Nat)
  | previewClosed (id : Nat)
  | cancelledAgain (id : Nat)
  | sent (message : WallMessage)
  | waits
  | fail (subscription : PreviewWallSubscription) (code message : String)
  | failResumed (failing : Failing)
  | close
  | closeResumed

open WallAction

/-- A frame of a current entry that could be encoded. -/
def producedBy (session : PreviewWallSession) (id : Nat) (entry : ActivePreview) (jpeg : Bytes) :
    List (PreviewWallSubscription × Bytes) :=
  match encodePreviewWallFrame entry.subscription jpeg with
  | .ok encoded => if session.isCurrent id entry then [(entry.subscription, encoded)] else []
  | .error _ => []

inductive WallStep : WallWorld → WallAction → WallWorld → Prop
  /-- The receiver awaits one `apply_sync` before the next. -/
  | sync {world : WallWorld} (sync : PreviewWallSync) (idle : world.receiver = .idle) (isOpen : world.session.closed = false) :
      WallStep world (.sync sync)
        { world with session := (world.session.applySync sync).1, receiver := (world.session.applySync sync).2 }
  | syncResumed {world : WallWorld} {sync : PreviewWallSync} {id : Nat} {rest : List (Nat × Nat)}
      (stopping : world.receiver = .stopping sync id rest) (stopped : world.session.taskDone id) :
      WallStep world .syncResumed
        { world with
          session := (continueSync sync rest (world.session.modify id ActivePreview.cleanupStopped)).1,
          receiver := (continueSync sync rest (world.session.modify id ActivePreview.cleanupStopped)).2 }
  | started {world : WallWorld} {id : Nat} {entry : ActivePreview} (known : world.session.previews[id]? = some entry)
      (phase : entry.phase = .scheduled) (goesOn : entry.cancelRequested = false) :
      WallStep world (.started id)
        { world with session := world.session.modify id fun entry => { entry with phase := .opening } }
  | opened {world : WallWorld} {id : Nat} {entry : ActivePreview} (known : world.session.previews[id]? = some entry)
      (phase : entry.phase = .opening) (goesOn : entry.cancelRequested = false) :
      WallStep world (.opened id) { world with session := world.session.sourceOpened id entry }
  | frame {world : WallWorld} {id : Nat} {entry : ActivePreview} (jpeg : Bytes)
      (known : world.session.previews[id]? = some entry) (phase : entry.phase = .streaming)
      (goesOn : entry.cancelRequested = false) :
      WallStep world (.frame id jpeg)
        { world with
          session := world.session.frameRead id entry jpeg,
          produced := world.produced ++ producedBy world.session id entry jpeg }
  | ended {world : WallWorld} {id : Nat} {entry : ActivePreview} (known : world.session.previews[id]? = some entry)
      (phase : entry.phase = .streaming) (goesOn : entry.cancelRequested = false) :
      WallStep world (.ended id) { world with session := world.session.finish id entry true }
  /-- `_open_source` or the frames raised. -/
  | failed {world : WallWorld} {id : Nat} {entry : ActivePreview} (code message : String)
      (known : world.session.previews[id]? = some entry) (phase : entry.phase = .opening ∨ entry.phase = .streaming)
      (goesOn : entry.cancelRequested = false) :
      WallStep world (.failed id code message) { world with session := world.session.sourceFailed id entry code message }
  /-- A task that has not run yet ends without its `finally`. -/
  | neverRan {world : WallWorld} {id : Nat} {entry : ActivePreview} (known : world.session.previews[id]? = some entry)
      (phase : entry.phase = .scheduled) (requested : entry.cancelRequested = true) :
      WallStep world (.cancelled id)
        { world with session := world.session.modify id fun entry => { entry.interrupted with phase := .done } }
  | cancelled {world : WallWorld} {id : Nat} {entry : ActivePreview} (known : world.session.previews[id]? = some entry)
      (phase : entry.phase = .opening ∨ entry.phase = .streaming) (requested : entry.cancelRequested = true) :
      WallStep world (.cancelled id)
        { world with session := (world.session.modify id ActivePreview.interrupted).finish id entry false }
  | previewClosed {world : WallWorld} {id : Nat} {entry : ActivePreview} (known : world.session.previews[id]? = some entry)
      (phase : entry.phase = .closing) (goesOn : entry.cancelRequested = false) :
      WallStep world (.previewClosed id)
        { world with
          session := world.session.modify id fun entry => { entry with releases := entry.releases + 1, phase := .done } }
  /-- A cancellation in `preview.close()` is not suppressed, so that the preview is not released. -/
  | closeInterrupted {world : WallWorld} {id : Nat} {entry : ActivePreview}
      (known : world.session.previews[id]? = some entry) (phase : entry.phase = .closing)
      (requested : entry.cancelRequested = true) :
      WallStep world (.cancelled id)
        { world with session := world.session.modify id fun entry => { entry.interrupted with phase := .done } }
  /-- Whoever awaits a task passes its own cancellation on. -/
  | cancelledAgain {world : WallWorld} {id : Nat} (awaited : world.Awaited id) (isRunning : ¬world.session.taskDone id) :
      WallStep world (.cancelledAgain id) { world with session := world.session.modify id ActivePreview.cancel }
  | sent {world : WallWorld} {message : WallMessage} (awake : world.senderWaits = false ∨ world.session.wake = true)
      (taken : world.session.nextMessage.2 = some message) :
      WallStep world (.sent message)
        { world with session := world.session.nextMessage.1, senderWaits := false, sent := world.sent ++ [message] }
  | waits {world : WallWorld} (awake : world.senderWaits = false ∨ world.session.wake = true)
      (none : world.session.nextMessage.2 = none) :
      WallStep world .waits { world with session := world.session.nextMessage.1, senderWaits := true }
  /-- `fail_subscription` up to where it awaits the task, which runs as long as its entry is current. -/
  | fail {world : WallWorld} {id : Nat} {entry : ActivePreview} (subscription : PreviewWallSubscription)
      (code message : String) (current : world.session.entries.get? subscription.slot = some id)
      (known : world.session.previews[id]? = some entry) (same : entry.subscription = subscription) :
      WallStep world (.fail subscription code message)
        { world with
          session := (world.session.popEntry subscription.slot).modify id ActivePreview.cancel,
          failing := { id, subscription, code, message } :: world.failing }
  | failResumed {world : WallWorld} {failing : Failing} (member : failing ∈ world.failing)
      (stopped : world.session.taskDone failing.id) :
      WallStep world (.failResumed failing)
        { world with
          session := (world.session.modify failing.id ActivePreview.cleanupStopped).queueEvent
            (.error failing.subscription.slot failing.subscription.subscriptionId failing.code failing.message),
          failing := world.failing.erase failing }
  /-- The endpoint awaits the end of its receiver before it closes the session. -/
  | close {world : WallWorld} (idle : world.receiver = .idle) (isOpen : world.session.closed = false) :
      WallStep world .close { world with session := world.session.close.1, closer := world.session.close.2 }
  | closeResumed {world : WallWorld} {id : Nat} {rest : List Nat} (closing : world.closer = some (id, rest))
      (stopped : world.session.taskDone id) :
      WallStep world .closeResumed
        { world with
          session := (continueClose rest (world.session.modify id ActivePreview.cleanupStopped)).1,
          closer := (continueClose rest (world.session.modify id ActivePreview.cleanupStopped)).2 }

end ZeroNvr.PreviewWall
