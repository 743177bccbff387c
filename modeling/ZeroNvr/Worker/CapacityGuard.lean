import ZeroNvr.Alerts.Service
import ZeroNvr.Events.System
import ZeroNvr.Storage.Capacity
import ZeroNvr.Storage.Retention

/-! # The recording capacity guard

A pass observes every enabled local recording target, records the transitions of
their health in one transaction, and then queues the work that depends on it.
An exception in the transaction aborts the pass: nothing is stored and nothing
is queued.
-/

namespace ZeroNvr

open Lib

structure StorageObservation where
  targetId : Uuid
  targetName : String
  observedAt : Int
  level : String
  errorCode : Option String := none
  usedPercent : Option ℚ := none
  freeBytes : Option Int := none
  totalBytes : Option Int := none

/-- What the pass returns and queues: the cameras to reconcile, whether retention runs, and the
    deliveries to make. -/
structure CapacityGuardResult where
  camerasQueued : List Uuid
  pressureDetected : Bool
  healthEventsOpened : Nat := 0
  healthAlertsResolved : Nat := 0
  deliveryIds : List Uuid := []

namespace CapacityGuard

variable (env : CapacityEnv) (zoneInfo : String → Result TimeZone) (uuid4 : Supply Uuid)

def guardedTargets (db : Database) : List StorageTarget :=
  db.storageTargets.select fun target => RetentionPlanner.isRecordingTarget target && target.enabled

def errorCode : PyError → Option String
  | .api error => some error.code
  | _ => none

/-- One target of the first loop; `inspect` raises nothing but `ApiError`. -/
def observe (observedAt : Int) (target : StorageTarget) : StorageObservation :=
  let unavailable (code : Option String) : StorageObservation :=
    { targetId := target.id, targetName := target.name, observedAt, level := "unavailable", errorCode := code }
  match Dict.get target.config "path" with
  | some (.str rawPath) =>
    if rawPath = "" then unavailable (some "recording_storage_path_unconfigured")
    else match LocalStorageCapacityService.inspect env rawPath target.config with
      | .error error => unavailable (errorCode error)
      | .ok capacity =>
        { targetId := target.id, targetName := target.name, observedAt, level := capacity.level.text
          usedPercent := some capacity.usedPercent, freeBytes := some capacity.freeBytes
          totalBytes := some capacity.totalBytes }
  | _ => unavailable (some "recording_storage_path_unconfigured")

def observations (db : Database) (observedAt : Int) : List StorageObservation :=
  (guardedTargets db).map (observe env observedAt)

/-- One observation of the second loop. -/
def record (now : Int) (acc : Database × CapacityGuardResult) (observation : StorageObservation) :
    Result (Database × CapacityGuardResult) := do
  let (db, result) := acc
  let (db, transition) ← SystemEventService.storageHealthTransition uuid4 db observation.targetId
    observation.observedAt observation.level
  let (db, result) := match transition.closed with
    | some closed =>
      let (db, resolved) := AlertEvaluationService.resolveEventAlerts db closed now
      (db, { result with healthAlertsResolved := result.healthAlertsResolved + resolved.length })
    | none => (db, result)
  match transition.opened with
  | some opened => do
    let (db, evaluated) ← AlertEvaluationService.evaluateEvent zoneInfo uuid4 db opened now
    .ok (db, { result with
      healthEventsOpened := result.healthEventsOpened + 1
      deliveryIds := result.deliveryIds ++ evaluated.deliveryIds })
  | none => .ok (db, result)

/-- `periodic_recording_capacity_guard`. -/
def pass (db : Database) (observedAt now : Int) : Result (Database × CapacityGuardResult) :=
  let cameraIds := ((db.recordingPolicies.select RecordingPolicy.enabled).map
    RecordingPolicy.cameraId).insertionSort (· ≤ ·)
  let observed := observations env db observedAt
  let pressureDetected := observed.any fun observation => observation.level ∈ ["high", "critical"]
  observed.foldlM (record zoneInfo uuid4 now) (db, { camerasQueued := cameraIds, pressureDetected })

end CapacityGuard

end ZeroNvr
