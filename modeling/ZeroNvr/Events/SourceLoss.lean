import ZeroNvr.Events.System

/-! # Source-loss incidents

A lost source is one event of its camera, open until the source is back.  A restart
of the media server leaves an event of its own on every recording camera.
-/

namespace ZeroNvr

open Lib

namespace SystemEventService

def isOpenSourceLoss (cameraId : Uuid) (event : Event) : Bool :=
  isSourceLoss event ∧ event.cameraId = some cameraId ∧ event.endedAt.isNone

/-- The newest open incident of the camera. -/
def openSourceLoss (db : Database) (cameraId : Uuid) : Option Event :=
  db.events.firstBy? (isOpenSourceLoss cameraId) fun left right =>
    right.startedAt < left.startedAt ∨ (left.startedAt = right.startedAt ∧ right.id ≤ left.id)

def sourceLossEvent (cameraId : Uuid) (observedAt : Int) (id : Uuid) : Event :=
  { id
    source := source
    sourceInstanceId := some sourceInstanceId
    cameraId := some cameraId
    category := sourceConnectivityCategory
    label := some sourceLostLabel
    startedAt := observedAt
    severity := some "warning" }

theorem sourceLossEvent_key (cameraId : Uuid) (observedAt : Int) (id : Uuid) :
    Keyed.key (sourceLossEvent cameraId observedAt id) = id := rfl

def sourceLost (uuid4 : Supply Uuid) (db : Database) (cameraId : Uuid) (observedAt : Int) : Database × Event :=
  match openSourceLoss db cameraId with
  | some existing => (db, existing)
  | none =>
    let make := sourceLossEvent cameraId observedAt
    ({ db with events := db.events.create uuid4 make (sourceLossEvent_key _ _) }, make (db.events.newKey uuid4))

def sourceRecovered (db : Database) (cameraId : Uuid) (observedAt : Int) : Database × Option Event :=
  match openSourceLoss db cameraId with
  | none => (db, none)
  | some event =>
    ({ db with events := db.events.modify event.id (recovered observedAt) (recovered_key observedAt) },
      some (recovered observedAt event))

def runtimeRestartEvent (cameraId : Uuid) (observedAt : Int) (id : Uuid) : Event :=
  { id
    source := source
    sourceInstanceId := some sourceInstanceId
    cameraId := some cameraId
    category := runtimeHealthCategory
    label := some runtimeRestartLabel
    startedAt := observedAt
    endedAt := some observedAt
    severity := some "info" }

theorem runtimeRestartEvent_key (cameraId : Uuid) (observedAt : Int) (id : Uuid) :
    Keyed.key (runtimeRestartEvent cameraId observedAt id) = id := rfl

def addRestart (uuid4 : Supply Uuid) (observedAt : Int) (db : Database) (cameraId : Uuid) : Database :=
  let make := runtimeRestartEvent cameraId observedAt
  { db with events := db.events.create uuid4 make (runtimeRestartEvent_key _ _) }

/-- One event for each of the cameras, in the order of their ids. -/
def runtimeRestarted (uuid4 : Supply Uuid) (db : Database) (cameraIds : List Uuid) (observedAt : Int) : Database :=
  (cameraIds.dedup.insertionSort (· ≤ ·)).foldl (addRestart uuid4 observedAt) db

end SystemEventService

end ZeroNvr
