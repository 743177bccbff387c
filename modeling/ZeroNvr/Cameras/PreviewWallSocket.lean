import ZeroNvr.Cameras.PreviewWallSession
import ZeroNvr.Cameras.PreviewWallClient

/-! # The sockets of a preview wall

`preview_wall_socket`: each socket of a browser has a session of its own, whose receiver
takes the texts of the browser and whose sender posts the messages.
-/

namespace ZeroNvr.PreviewWall

open JsonText (Value write ascii)

/-- One end of a socket at the server, and what is under way between the two ends. -/
structure Connection where
  wall : WallWorld
  /-- `receive_syncs` goes on. -/
  receives : Bool
  up : List (List Char)
  down : List WallMessage

def Connection.new : Connection := { wall := .initial, receives := true, up := [], down := [] }

/-- What the receiver answers to a text that is no sync. -/
def fatalText (error : PreviewWallProtocolError) : List Char :=
  write ascii (.obj [("type", .str "fatal"), ("code", .str error.code), ("message", .str error.message)])

/-- A client, its sockets, and the frames it showed: on which socket, and for which subscription. -/
structure WallSystem where
  client : WallClient
  connections : Nat → Connection
  shown : List (Nat × Nat × Bytes)

namespace WallSystem

def initial (seed : UInt32) : WallSystem := { client := .new seed, connections := fun _ => .new, shown := [] }

def modify (system : WallSystem) (socket : Nat) (change : Connection → Connection) : WallSystem :=
  { system with connections := Function.update system.connections socket (change (system.connections socket)) }

/-- A text on its way to the server. -/
def post (system : WallSystem) : ClientEffect → WallSystem
  | .sent socket text => system.modify socket fun connection => { connection with up := connection.up ++ [text] }
  | _ => system

/-- The frames that a step of the client showed. -/
def framesShown (socket : Nat) (effects : List ClientEffect) : List (Nat × Nat × Bytes) :=
  effects.filterMap fun
    | .onFrame entry jpeg => some (socket, entry, jpeg)
    | _ => none

end WallSystem

inductive SystemAction where
  | client (action : ClientAction)
  | received (socket : Nat)
  | refused (socket : Nat)
  | wall (socket : Nat) (action : WallAction)
  | frameArrived (socket : Nat)
  | textArrived (socket : Nat)
  | dropped (socket : Nat)

/-- What a session posts. -/
def posted : WallAction → List WallMessage
  | .sent message => [message]
  | _ => []

inductive SystemStep : WallSystem → SystemAction → WallSystem → Prop
  /-- A call, the microtask, the timer, or an event of the socket other than a message. -/
  | client {system : WallSystem} {action : ClientAction} {after : WallClient × List ClientEffect}
      (step : ClientStep system.client action after) (noText : ∀ socket data, action ≠ .onText socket data)
      (noBinary : ∀ socket data, action ≠ .onBinary socket data) :
      SystemStep system (.client action) (after.2.foldl WallSystem.post { system with client := after.1 })
  | received {system : WallSystem} {socket : Nat} {text : List Char} {rest : List (List Char)} {sync : PreviewWallSync}
      {after : WallWorld} (receives : (system.connections socket).receives = true)
      (first : (system.connections socket).up = text :: rest) (parsed : parsePreviewWallSync text = .ok sync)
      (step : WallStep (system.connections socket).wall (.sync sync) after) :
      SystemStep system (.received socket)
        (system.modify socket fun connection => { connection with wall := after, up := rest })
  /-- The receiver answers and ends; the session is closed after it. -/
  | refused {system : WallSystem} {socket : Nat} {text : List Char} {rest : List (List Char)} {error : PreviewWallProtocolError}
      (receives : (system.connections socket).receives = true) (first : (system.connections socket).up = text :: rest)
      (idle : (system.connections socket).wall.receiver = .idle) (failed : parsePreviewWallSync text = .error error) :
      SystemStep system (.refused socket)
        (system.modify socket fun connection =>
          { connection with receives := false, up := rest, down := connection.down ++ [.text (fatalText error)] })
  | wall {system : WallSystem} {socket : Nat} {action : WallAction} {after : WallWorld}
      (step : WallStep (system.connections socket).wall action after) (noSync : ∀ sync, action ≠ .sync sync) :
      SystemStep system (.wall socket action)
        (system.modify socket fun connection => { connection with wall := after, down := connection.down ++ posted action })
  | frameArrived {system : WallSystem} {socket : Nat} {subscription : PreviewWallSubscription} {encoded : Bytes}
      {rest : List WallMessage} {after : WallClient × List ClientEffect}
      (first : (system.connections socket).down = .frame subscription encoded :: rest)
      (step : ClientStep system.client (.onBinary socket encoded) after) :
      SystemStep system (.frameArrived socket)
        ({ system with client := after.1, shown := system.shown ++ WallSystem.framesShown socket after.2 }.modify socket
          fun connection => { connection with down := rest })
  | textArrived {system : WallSystem} {socket : Nat} {text : List Char} {rest : List WallMessage}
      {after : WallClient × List ClientEffect} (first : (system.connections socket).down = .text text :: rest)
      (step : ClientStep system.client (.onText socket text) after) :
      SystemStep system (.textArrived socket)
        ({ system with client := after.1 }.modify socket fun connection => { connection with down := rest })
  /-- A socket that the client has given up has no handlers. -/
  | dropped {system : WallSystem} {socket : Nat} {message : WallMessage} {rest : List WallMessage}
      (first : (system.connections socket).down = message :: rest) (given : system.client.isCurrent socket = false) :
      SystemStep system (.dropped socket) (system.modify socket fun connection => { connection with down := rest })

end ZeroNvr.PreviewWall
