import ZeroNvr.Lib.OrderedDict
import ZeroNvr.Core.JsonWrite
import ZeroNvr.Cameras.PreviewWallProtocol

/-! # The browser's side of a preview wall

`createLivePreviewWallClient`: the subscriptions of the slots, the socket, the sync that
is sent once the current task is done, and the timer that reconnects.  A call gives the
client after it and what it did outside.
-/

namespace ZeroNvr.PreviewWall

open JsonText (Value loads write unicode)
open Lib

/-- A slot is the place of a camera in the grid, a safe integer. -/
structure PreviewWallSubscriptionInput where
  slot : Nat
  cameraId : String
  mediaSessionId : String
  isSafe : slot < 2 ^ 53
  deriving DecidableEq

structure ActiveSubscription where
  input : PreviewWallSubscriptionInput
  subscriptionId : Nat
  firstFrameSettled : Bool
  closed : Bool
  deriving DecidableEq

/-- `readyState` of the socket, which the browser sets. -/
inductive SocketState where
  | connecting
  | isOpen
  | closing
  deriving DecidableEq

inductive ClientEffect where
  | connected (socket : Nat)
  | socketClosed (socket : Nat)
  | sent (socket : Nat) (text : List Char)
  | onFrame (entry : Nat) (jpeg : Bytes)
  | onReady (entry : Nat)
  | onError (entry : Nat) (message : String)
  | onReconnecting (entry : Nat)
  | firstFrame (entry : Nat) (shown : Bool)
  deriving DecidableEq

/-- The subscriptions made so far and the variables of the client; `subscriptions` holds their
    places, `socket` the number of a socket with its state, and `reconnectTimer` the delay. -/
structure WallClient where
  active : List ActiveSubscription
  subscriptions : OrderedDict Nat Nat
  layout : Option PreviewGridSlots
  sockets : Nat
  socket : Option (Nat × SocketState)
  closed : Bool
  syncScheduled : Bool
  reconnectAttempt : Nat
  reconnectTimer : Option Nat
  nextSubscriptionId : Nat

namespace WallClient

/-- A client whose seed is a random number of 32 bits. -/
def new (seed : UInt32) : WallClient :=
  { active := [], subscriptions := .empty, layout := none, sockets := 0, socket := none, closed := false,
    syncScheduled := false, reconnectAttempt := 0, reconnectTimer := none, nextSubscriptionId := seed.toNat }

def reconnectDelays : List Nat := [1000, 2000, 4000, 8000, 15000]

def modify (client : WallClient) (entry : Nat) (change : ActiveSubscription → ActiveSubscription) : WallClient :=
  { client with active := client.active.modify entry change }

/-- The subscription of a slot. -/
def subscription? (client : WallClient) (slot : Nat) : Option (Nat × ActiveSubscription) :=
  (client.subscriptions.get? slot).bind fun entry => client.active[entry]?.map fun active => (entry, active)

/-- `subscriptions.values()`. -/
def values (client : WallClient) : List (Nat × ActiveSubscription) :=
  client.subscriptions.entries.filterMap fun pair => client.active[pair.2]?.map fun active => (pair.2, active)

/-- The subscriptions that are not closed. -/
def live (client : WallClient) : List (Nat × ActiveSubscription) := client.values.filter fun entry => !entry.2.closed

/-! ## The socket -/

def detachAndCloseSocket (client : WallClient) : WallClient × List ClientEffect :=
  match client.socket with
  | none => (client, [])
  | some (socket, state) => ({ client with socket := none }, if state = .closing then [] else [.socketClosed socket])

def cancelReconnect (client : WallClient) : WallClient := { client with reconnectTimer := none }

def notifyReconnecting (client : WallClient) : List ClientEffect := client.live.map fun (entry, _) => .onReconnecting entry

def scheduleReconnect (client : WallClient) : WallClient × List ClientEffect :=
  if client.closed ∨ client.layout = none ∨ client.subscriptions.entries = [] ∨ client.reconnectTimer.isSome then (client, [])
  else
    ({ client with
        reconnectTimer := reconnectDelays[min client.reconnectAttempt (reconnectDelays.length - 1)]?,
        reconnectAttempt := client.reconnectAttempt + 1 },
      client.notifyReconnecting)

/-- One stream of a sync. -/
def streamValue (active : ActiveSubscription) : Value :=
  .obj [("slot", .int active.input.slot), ("subscription_id", .int active.subscriptionId),
    ("camera_id", .str active.input.cameraId), ("media_session_id", .str active.input.mediaSessionId)]

def syncValue (layout : PreviewGridSlots) (streams : List ActiveSubscription) : Value :=
  .obj [("type", .str "sync"), ("version", .int 1), ("layout_slots", .int layout.count),
    ("streams", .arr (streams.map streamValue))]

/-- `JSON.stringify` of a sync. -/
def syncText (layout : PreviewGridSlots) (streams : List ActiveSubscription) : List Char :=
  write unicode (syncValue layout streams)

/-- The streams of a sync, in the order of their slots. -/
def streams (client : WallClient) : List ActiveSubscription :=
  (client.live.map Prod.snd).insertionSort fun left right => left.input.slot ≤ right.input.slot

def sendSync (client : WallClient) : List ClientEffect :=
  match client.socket, client.layout with
  | some (socket, .isOpen), some layout => [.sent socket (syncText layout client.streams)]
  | _, _ => []

def scheduleSync (client : WallClient) : WallClient := { client with syncScheduled := true }

/-- The microtask that `scheduleSync` queued. -/
def runSync (client : WallClient) : WallClient × List ClientEffect :=
  ({ client with syncScheduled := false }, client.sendSync)

def ensureSocket (client : WallClient) : WallClient × List ClientEffect :=
  if client.closed ∨ client.layout = none ∨ client.subscriptions.entries = [] ∨ client.socket.isSome ∨
      client.reconnectTimer.isSome then (client, [])
  else
    ({ client with socket := some (client.sockets, .connecting), sockets := client.sockets + 1 }, [.connected client.sockets])

/-- The timer that `scheduleReconnect` set. -/
def reconnect (client : WallClient) : WallClient × List ClientEffect := { client with reconnectTimer := none }.ensureSocket

def updateConnection (client : WallClient) : WallClient × List ClientEffect :=
  if client.closed ∨ client.layout = none ∨ client.subscriptions.entries = [] then
    client.cancelReconnect.detachAndCloseSocket
  else
    let (client, effects) := client.ensureSocket
    (client.scheduleSync, effects)

/-! ### Its events -/

def onopen (client : WallClient) (socket : Nat) : WallClient :=
  match client.socket with
  | some (current, .connecting) =>
    if current = socket then { client with socket := some (socket, .isOpen) }.scheduleSync else client
  | _ => client

/-- The closing handshake has begun. -/
def socketCloses (client : WallClient) (socket : Nat) : WallClient :=
  match client.socket with
  | some (current, _) => if current = socket then { client with socket := some (socket, .closing) } else client
  | none => client

def onclose (client : WallClient) (socket : Nat) : WallClient × List ClientEffect :=
  match client.socket with
  | some (current, _) => if current = socket then { client with socket := none }.scheduleReconnect else (client, [])
  | none => (client, [])

/-! ## Messages -/

def settle (shown : Bool) (client : WallClient) (entry : Nat) (active : ActiveSubscription) : WallClient × List ClientEffect :=
  if active.firstFrameSettled then (client, [])
  else (client.modify entry fun active => { active with firstFrameSettled := true }, [.firstFrame entry shown])

def textField? : Option Value → Option String
  | some (.str text) => some text
  | _ => none

def numberField? : Option Value → Option Int
  | some (.int value) => some value
  | _ => none

/-- The subscription that a message names, as long as it is the one of its slot. -/
def addressed? (client : WallClient) (slot subscriptionId : Int) : Option (Nat × ActiveSubscription) :=
  if slot < 0 then none
  else
    (client.subscription? slot.toNat).filter fun (_, active) => !active.closed && active.subscriptionId = subscriptionId

def onText (client : WallClient) (data : List Char) : WallClient × List ClientEffect :=
  match loads data with
  | some (.obj message) =>
    let type := textField? (Value.field? message "type")
    let text := textField? (Value.field? message "message")
    if type = some "fatal" then
      (client, client.live.map fun (entry, _) => .onError entry (text.getD "Preview connection failed."))
    else if type ≠ some "ready" ∧ type ≠ some "error" then (client, [])
    else
      match numberField? (Value.field? message "slot"), numberField? (Value.field? message "subscription_id") with
      | some slot, some subscriptionId =>
        match client.addressed? slot subscriptionId with
        | none => (client, [])
        | some (entry, active) =>
          let client := { client with reconnectAttempt := 0 }
          if type = some "ready" then (client, [.onReady entry])
          else
            let (client, effects) := client.settle false entry active
            (client, effects ++ [.onError entry (text.getD "Preview stream failed.")])
      | _, _ => (client, [])
  | _ => (client, [])

/-- `getUint32`. -/
def uint32At (data : Bytes) (offset : Nat) : Nat :=
  (((data.getD offset 0).toNat * 256 + (data.getD (offset + 1) 0).toNat) * 256 + (data.getD (offset + 2) 0).toNat) * 256 +
    (data.getD (offset + 3) 0).toNat

/-- The markers at both ends of a frame. -/
def isJpeg (jpeg : Bytes) : Bool :=
  jpeg.getD 0 0 == 0xff && jpeg.getD 1 0 == 0xd8 && jpeg.getD (jpeg.length - 2) 0 == 0xff &&
    jpeg.getD (jpeg.length - 1) 0 == 0xd9

def onBinary (client : WallClient) (data : Bytes) : WallClient × List ClientEffect :=
  if data.length < 10 ∨ 6 + 2 * 1024 * 1024 < data.length then (client, [])
  else if data.getD 0 0 ≠ 1 then (client, [])
  else
    match client.addressed? (data.getD 1 0).toNat (uint32At data 2) with
    | none => (client, [])
    | some (entry, active) =>
      let jpeg := data.drop 6
      if !isJpeg jpeg then (client, [])
      else
        let (client, effects) := { client with reconnectAttempt := 0 }.settle true entry active
        (client, .onFrame entry jpeg :: effects)

/-! ## Calls -/

def setLayout (client : WallClient) (slots : Option PreviewGridSlots) : WallClient × List ClientEffect :=
  if client.layout = slots then (client, []) else { client with layout := slots }.updateConnection

/-- A subscription that ends: its first frame will not come. -/
def retire (client : WallClient) (entry : Nat) (active : ActiveSubscription) : WallClient × List ClientEffect :=
  (client.modify entry fun active => { active with closed := true }).settle false entry active

def subscribe (client : WallClient) (input : PreviewWallSubscriptionInput) : WallClient × List ClientEffect :=
  let (client, effects) :=
    match client.subscription? input.slot with
    | none => (client, [])
    | some (entry, previous) => client.retire entry previous
  let entry : ActiveSubscription :=
    { input, subscriptionId := client.nextSubscriptionId, firstFrameSettled := false, closed := false }
  let (client, later) :=
    { client with
      nextSubscriptionId := (client.nextSubscriptionId + 1) % 2 ^ 32,
      subscriptions := client.subscriptions.set input.slot client.active.length,
      active := client.active ++ [entry] }.updateConnection
  (client, effects ++ later)

/-- `close()` of a registration. -/
def closeSubscription (client : WallClient) (entry : Nat) : WallClient × List ClientEffect :=
  match client.active[entry]? with
  | none => (client, [])
  | some active =>
    if active.closed then (client, [])
    else
      let subscriptions :=
        if client.subscriptions.get? active.input.slot = some entry then client.subscriptions.pop active.input.slot
        else client.subscriptions
      let (client, effects) := { client with subscriptions }.retire entry active
      let (client, later) := client.updateConnection
      (client, effects ++ later)

def retireAll : List (Nat × ActiveSubscription) → WallClient → WallClient × List ClientEffect
  | [], client => (client, [])
  | (entry, active) :: rest, client =>
    let (client, effects) := client.retire entry active
    let (client, later) := retireAll rest client
    (client, effects ++ later)

def close (client : WallClient) : WallClient × List ClientEffect :=
  if client.closed then (client, [])
  else
    let (client, effects) := retireAll client.values { client with closed := true }
    let (client, later) := { client with subscriptions := .empty }.cancelReconnect.detachAndCloseSocket
    (client, effects ++ later)

end WallClient

/-! ## Steps -/

inductive ClientAction where
  | setLayout (slots : Option PreviewGridSlots)
  | subscribe (input : PreviewWallSubscriptionInput)
  | closeSubscription (entry : Nat)
  | close
  | runSync
  | reconnect
  | onopen (socket : Nat)
  | socketCloses (socket : Nat)
  | onclose (socket : Nat)
  | onText (socket : Nat) (data : List Char)
  | onBinary (socket : Nat) (data : Bytes)

/-- The handlers of a socket answer only while it is the current one. -/
def WallClient.isCurrent (client : WallClient) (socket : Nat) : Bool := client.socket.any fun current => current.1 = socket

/-- A step of the client; its microtask and its timer run after they were set. -/
inductive ClientStep : WallClient → ClientAction → WallClient × List ClientEffect → Prop
  | setLayout (client : WallClient) (slots : Option PreviewGridSlots) : ClientStep client (.setLayout slots) (client.setLayout slots)
  | subscribe (client : WallClient) (input : PreviewWallSubscriptionInput) :
      ClientStep client (.subscribe input) (client.subscribe input)
  | closeSubscription (client : WallClient) (entry : Nat) :
      ClientStep client (.closeSubscription entry) (client.closeSubscription entry)
  | close (client : WallClient) : ClientStep client .close client.close
  | runSync {client : WallClient} (scheduled : client.syncScheduled = true) : ClientStep client .runSync client.runSync
  | reconnect {client : WallClient} (timer : client.reconnectTimer.isSome) : ClientStep client .reconnect client.reconnect
  | onopen (client : WallClient) (socket : Nat) : ClientStep client (.onopen socket) (client.onopen socket, [])
  | socketCloses (client : WallClient) (socket : Nat) : ClientStep client (.socketCloses socket) (client.socketCloses socket, [])
  | onclose (client : WallClient) (socket : Nat) : ClientStep client (.onclose socket) (client.onclose socket)
  | onText {client : WallClient} {socket : Nat} (data : List Char) (current : client.isCurrent socket) :
      ClientStep client (.onText socket data) (client.onText data)
  | onBinary {client : WallClient} {socket : Nat} (data : Bytes) (current : client.isCurrent socket) :
      ClientStep client (.onBinary socket data) (client.onBinary data)

end ZeroNvr.PreviewWall
