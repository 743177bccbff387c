import ZeroNvr.Cameras.Groups
import ZeroNvr.System.ImportAccess

/-! # Applying the camera groups of a bundle

A group waits until its parent and its cameras are mapped.  Each pass over the
groups that wait applies those that can be; a pass that applies none is the last.
-/

namespace ZeroNvr.ConfigurationImportService

open Lib

/-- What the groups have been applied to. -/
structure GroupState where
  db : Database
  applied : List ConfigurationApplyItem := []
  skipped : List ConfigurationApplyItem := []
  groupMap : List (String × Uuid) := []

section Apply

variable (env : ImportEnv)

/-- `_source_uuid`. -/
def sourceUuid (item : Dict) : Result Uuid :=
  match env.parseUuid (env.text ((Dict.get item "id").getD .null)) with
  | some id => .ok id
  | none => .error (importInvalid "Configuration resource id must be a UUID.")

/-- The `member_map`: the source ids of the cameras of each group. -/
def memberMap (members : List Dict) : Result (List (String × String)) :=
  members.mapM fun raw => do
    let groupId ← field raw "camera_group_id"
    let cameraId ← field raw "camera_id"
    .ok (env.text groupId, env.text cameraId)

/-- The group with the id of the item, or else the one with its name. -/
def existingGroup (db : Database) (sourceId : Uuid) (name : String) : Option CameraGroup :=
  (db.cameraGroups.get? sourceId).or (db.cameraGroups.first? fun group => group.name = name)

def upsertCameraGroup (uuid4 : Supply Uuid) (db : Database) (item : Dict) (targetParent : Option Uuid)
    (targetCameras : List Uuid) : Result (Database × Uuid × String) := do
  let source ← sourceUuid env item
  let name := env.text (← field item "name")
  let description := env.optionalText (Dict.get item "description")
  match existingGroup db source name with
  | none => do
    let (db, group) ← CameraGroupService.create uuid4 db name description targetParent targetCameras
    .ok (db, group.id, "created")
  | some group => do
    let db ← CameraGroupService.update db group
      { name := some name, description := some description, parentId := some targetParent, cameraIds := some targetCameras }
    .ok (db, group.id, "updated")

/-- The parent an item is applied with: `none` when it waits for it. -/
def targetParent (groupMap : List (String × Uuid)) (item : Dict) : Option (Option Uuid) :=
  match Dict.get item "parent_id" with
  | none | some .null => some none
  | some parent => (groupMap.lookup (env.text parent)).map some

/-- One item of a pass.  The flag says whether something was applied; the last list holds what waits. -/
def applyCameraGroup (uuid4 : Supply Uuid) (cameraMap : List (String × Uuid)) (members : List (String × String))
    (acc : GroupState × List Dict) (item : Dict) : Result (GroupState × List Dict) := do
  let sourceId := env.text (← field item "id")
  match targetParent env acc.1.groupMap item,
      ((members.filter fun entry => entry.1 = sourceId).mapM fun entry => cameraMap.lookup entry.2) with
  | some parent, some cameras => do
    let (db, target, action) ← upsertCameraGroup env uuid4 acc.1.db item parent cameras
    .ok ({ acc.1 with
      db
      groupMap := assign acc.1.groupMap sourceId target
      applied := acc.1.applied ++
        [{ applyItem env "camera_group" item action (some target) none with sectionName := "cameras" }] }, acc.2)
  | _, _ => .ok (acc.1, acc.2 ++ [item])

/-- The passes, as many as there are groups that wait, since each but the last applies one. -/
def applyPasses (uuid4 : Supply Uuid) (cameraMap : List (String × Uuid)) (members : List (String × String)) :
    Nat → GroupState → List Dict → Result (GroupState × List Dict)
  | 0, state, pending => .ok (state, pending)
  | passes + 1, state, pending => do
    let (state, remaining) ← pending.foldlM (applyCameraGroup env uuid4 cameraMap members) (state, [])
    if remaining.length < pending.length then applyPasses uuid4 cameraMap members passes state remaining
    else .ok (state, remaining)

def applyCameraGroups (uuid4 : Supply Uuid) (state : GroupState) (groups members : List Dict)
    (cameraMap : List (String × Uuid)) : Result GroupState := do
  let members ← memberMap env members
  let (state, pending) ← applyPasses env uuid4 cameraMap members groups.length state groups
  .ok { state with
    skipped := state.skipped ++ pending.map fun item =>
      { applyItem env "camera_group" item "skipped" none (some "camera_or_parent_unmapped") with sectionName := "cameras" } }

end Apply

end ZeroNvr.ConfigurationImportService
