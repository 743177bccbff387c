import ZeroNvr.Core.Errors
import ZeroNvr.Models

/-! # System events

The identities under which the product records its own health: source
connectivity, runtime restarts and the health of storage targets; and the
transitions of storage health.  The metadata of these events is left out, since
nothing here reads it.
-/

namespace ZeroNvr

open Lib

structure SystemHealthTransition where
  opened : Option Event := none
  closed : Option Event := none

namespace SystemEventService

def source : String := "system"
def sourceInstanceId : String := "zero-nvr"
def sourceConnectivityCategory : String := "source_connectivity"
def sourceLostLabel : String := "source_lost"
def storageHealthCategory : String := "storage_health"
def runtimeHealthCategory : String := "runtime_health"
def runtimeRestartLabel : String := "runtime_restart"

/-- The source instance of the health events of a storage target. -/
def storageTargetInstance (targetId : Uuid) : String := "storage-target:" ++ toString targetId

def isSourceLoss (event : Event) : Bool :=
  event.source = source ∧ event.sourceInstanceId = some sourceInstanceId ∧
    event.category = sourceConnectivityCategory ∧ event.label = some sourceLostLabel

def isRuntimeRestart (event : Event) : Bool :=
  event.source = source ∧ event.sourceInstanceId = some sourceInstanceId ∧
    event.category = runtimeHealthCategory ∧ event.label = some runtimeRestartLabel

/-! ## Storage health -/

def isOpenStorageHealth (targetId : Uuid) (event : Event) : Bool :=
  event.source = source ∧ event.sourceInstanceId = some (storageTargetInstance targetId) ∧
    event.category = storageHealthCategory ∧ event.endedAt.isNone

/-- The newest open health event of the target. -/
def openStorageHealth (db : Database) (targetId : Uuid) : Option Event :=
  db.events.firstBy? (isOpenStorageHealth targetId) fun left right =>
    right.startedAt < left.startedAt ∨ (left.startedAt = right.startedAt ∧ right.id ≤ left.id)

def storageHealthLevels : List String := ["ok", "warning", "high", "critical", "unavailable"]

def recovered (observedAt : Int) (event : Event) : Event :=
  { event with endedAt := some (max event.startedAt observedAt) }

theorem recovered_key (observedAt : Int) (event : Event) :
    Keyed.key (recovered observedAt event) = Keyed.key event := rfl

/-- The events once the one to close, if any, is closed. -/
def closing (events : Table Event) (observedAt : Int) : Option Event → Table Event
  | some event => events.modify event.id (recovered observedAt) (recovered_key observedAt)
  | none => events

/-- The health event of a target at a level that is not healthy. -/
def storageHealthEvent (targetId : Uuid) (observedAt : Int) (level : String) (id : Uuid) : Event :=
  { id
    source := source
    sourceInstanceId := some (storageTargetInstance targetId)
    sourceEventId := some ("storage_" ++ level ++ ":" ++ toString id)
    category := storageHealthCategory
    label := some ("storage_" ++ level)
    startedAt := observedAt
    severity := some (if level ∈ ["critical", "unavailable"] then "critical" else "warning")
    correlationId := some (storageTargetInstance targetId) }

theorem storageHealthEvent_key (targetId : Uuid) (observedAt : Int) (level : String) (id : Uuid) :
    Keyed.key (storageHealthEvent targetId observedAt level id) = id := rfl

def storageHealthTransition (uuid4 : Supply Uuid) (db : Database) (targetId : Uuid) (observedAt : Int)
    (level : String) : Result (Database × SystemHealthTransition) :=
  let normalized := lower (strip level)
  if normalized ∉ storageHealthLevels then .error (.valueError "unsupported storage health level")
  else
    let existing := openStorageHealth db targetId
    let closed := existing.filter fun event =>
      normalized = "ok" ∨ event.label ≠ some ("storage_" ++ normalized)
    let events := closing db.events observedAt closed
    let closed := closed.map (recovered observedAt)
    if normalized = "ok" then .ok ({ db with events }, { closed })
    else if existing.isSome ∧ closed.isNone then .ok ({ db with events }, {})
    else
      let make := storageHealthEvent targetId observedAt normalized
      .ok ({ db with events := events.create uuid4 make (storageHealthEvent_key _ _ _) },
        { opened := some (make (events.newKey uuid4)), closed })

end SystemEventService

end ZeroNvr
