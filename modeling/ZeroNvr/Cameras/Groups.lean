import ZeroNvr.Core.Errors
import ZeroNvr.Lib.Outcome
import ZeroNvr.Models

/-! # Camera groups

Groups form a hierarchy.  A parent is checked by walking up from it, so that no
group is put below itself.
-/

namespace ZeroNvr

open Lib

/-- The `changes` of an update; the outer `none` is a field that is absent. -/
structure CameraGroupChanges where
  name : Option String := none
  description : Option (Option String) := none
  parentId : Option (Option Uuid) := none
  cameraIds : Option (List Uuid) := none

namespace CameraGroupService

def nameInvalid : PyError := apiError 400 "camera_group_name_invalid" "Camera group name is invalid."

def nameConflict : PyError := apiError 409 "camera_group_name_conflict" "Camera group name is already in use."

/-- The walk up from a parent; `seen` holds other groups at each step, so their number bounds the steps. -/
def walkParents (db : Database) (groupId : Option Uuid) : Nat → List Uuid → CameraGroup → Result Unit
  | 0, _, _ => .ok ()
  | fuel + 1, seen, current =>
    if current.id ∈ seen then
      .error (apiError 409 "camera_group_hierarchy_invalid" "Camera group hierarchy contains a cycle.")
    else if groupId = some current.id then
      .error (apiError 400 "camera_group_parent_cycle" "Camera group hierarchy cannot contain a cycle.")
    else match current.parentId.bind db.cameraGroups.get? with
      | none => .ok ()
      | some parent => walkParents db groupId fuel (current.id :: seen) parent

def validateParent (db : Database) (parentId groupId : Option Uuid) : Result Unit :=
  match parentId with
  | none => .ok ()
  | some parentId =>
    if groupId = some parentId then
      .error (apiError 400 "camera_group_parent_cycle" "Camera group cannot be its own parent.")
    else match db.cameraGroups.get? parentId with
      | none => .error (apiError 400 "camera_group_parent_invalid" "Camera group parent does not exist.")
      | some parent => walkParents db groupId (db.cameraGroups.rows.length + 1) [] parent

/-- `sorted(set(camera_ids), key=str)`, each of them a camera. -/
def validateCameraIds (db : Database) (cameraIds : List Uuid) : Result (List Uuid) :=
  let normalized := cameraIds.dedup.insertionSort fun left right => left ≤ right
  if normalized.any fun id => (db.cameras.get? id).isNone then
    .error (apiError 400 "camera_group_camera_invalid" "Camera group references an unknown camera.")
  else .ok normalized

def replaceMembers (db : Database) (groupId : Uuid) (cameraIds : List Uuid) : Result Database := do
  let normalized ← validateCameraIds db cameraIds
  let others := db.cameraGroupMembers.keep (·.cameraGroupId ≠ groupId)
  .ok { db with cameraGroupMembers :=
    normalized.foldl (fun members cameraId => members.put { cameraGroupId := groupId, cameraId }) others }

/-- A description that is blank is none. -/
def cleanDescription (description : Option String) : Option String :=
  (description.map strip).filter (· ≠ "")

def create (uuid4 : Supply Uuid) (db : Database) (name : String) (description : Option String)
    (parentId : Option Uuid) (cameraIds : List Uuid) : Result (Database × CameraGroup) := do
  if strip name = "" then .error nameInvalid
  else
    validateParent db parentId none
    if db.cameraGroups.rows.any fun other => other.name = strip name then .error nameConflict
    else
      let group : CameraGroup :=
        { id := db.cameraGroups.newKey uuid4, name := strip name, description := cleanDescription description, parentId }
      match db.cameraGroups.insert? group with
      | none => .error .integrityError
      | some cameraGroups =>
        let stored ← replaceMembers { db with cameraGroups } group.id cameraIds
        .ok (stored, group)

def changedName (group : CameraGroup) (changes : CameraGroupChanges) : Result CameraGroup :=
  match changes.name with
  | none => .ok group
  | some name => if strip name = "" then .error nameInvalid else .ok { group with name := strip name }

def changedParent (db : Database) (group : CameraGroup) (changes : CameraGroupChanges) : Result CameraGroup := do
  match changes.parentId with
  | none => .ok group
  | some parentId =>
    validateParent db parentId (some group.id)
    .ok { group with parentId }

def update (db : Database) (group : CameraGroup) (changes : CameraGroupChanges) : Result Database := do
  let renamed ← changedName group changes
  let described := { renamed with
    description := (changes.description.map cleanDescription).getD renamed.description }
  let moved ← changedParent db described changes
  if db.cameraGroups.rows.any fun other => other.name = moved.name ∧ other.id ≠ group.id then .error nameConflict
  else
    let stored := { db with cameraGroups := db.cameraGroups.put { moved with id := group.id } }
    match changes.cameraIds with
    | none => .ok stored
    | some cameraIds => replaceMembers stored group.id cameraIds

def delete (db : Database) (group : CameraGroup) : Result Database :=
  if db.cameraGroups.rows.any fun child => child.parentId = some group.id then
    .error (apiError 409 "camera_group_has_children" "Camera group with child groups cannot be deleted.")
  else if db.principalCameraScopeEntries.rows.any fun entry => entry.target = .cameraGroup group.id then
    .error (apiError 409 "camera_group_in_use" "Camera group is referenced by an access scope.")
  else
    .ok { db with
      cameraGroups := db.cameraGroups.remove group.id
      cameraGroupMembers := db.cameraGroupMembers.keep (·.cameraGroupId ≠ group.id) }

end CameraGroupService

end ZeroNvr
