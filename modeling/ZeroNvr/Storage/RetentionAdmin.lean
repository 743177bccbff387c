import ZeroNvr.Core.Errors
import ZeroNvr.Lib.Outcome
import ZeroNvr.Models

/-! # The administration of retention policies

A policy that a camera references cannot be deleted; it can be disabled.
-/

namespace ZeroNvr

open Lib

/-- The values of a policy, as a request gives them. -/
structure RetentionPolicyValues where
  name : String
  scopeType : String
  scopeId : Option Uuid
  ordinaryKeepDays : Int
  eventKeepDays : Int
  manualKeepDays : Int
  mode : String
  requireArchiveBeforeDelete : Bool
  enabled : Bool

/-- The `changes` of an update.  The outer `none` is a field that is absent, the inner one a null. -/
structure RetentionPolicyChanges where
  name : Option (Option String) := none
  scopeType : Option (Option String) := none
  scopeId : Option (Option Uuid) := none
  ordinaryKeepDays : Option (Option Int) := none
  eventKeepDays : Option (Option Int) := none
  manualKeepDays : Option (Option Int) := none
  mode : Option (Option String) := none
  requireArchiveBeforeDelete : Option (Option Bool) := none
  enabled : Option (Option Bool) := none

def RetentionScope.type : RetentionScope → String
  | .global => "GLOBAL"
  | .camera _ => "CAMERA"
  | .cameraGroup _ => "CAMERA_GROUP"

def RetentionScope.scopeId : RetentionScope → Option Uuid
  | .global => none
  | .camera id | .cameraGroup id => some id

def RetentionMode.text : RetentionMode → String
  | .bestEffort => "BEST_EFFORT"
  | .hard => "HARD"

namespace RetentionPolicyAdminService

def validateName (name : String) : Result String :=
  if strip name = "" then .error (apiError 400 "retention_name_invalid" "Retention policy name is required.")
  else .ok (strip name)

def validateScope (db : Database) (scopeType : String) (scopeId : Option Uuid) : Result RetentionScope :=
  match decide (scopeType = "GLOBAL"), scopeId with
  | true, some _ =>
    .error (apiError 400 "retention_scope_invalid" "Global retention policy cannot have a scope id.")
  | true, none => .ok .global
  | false, none =>
    .error (apiError 400 "retention_scope_invalid" "Scoped retention policy requires a scope id.")
  | false, some id =>
    if scopeType = "CAMERA" then
      if (db.cameras.get? id).isNone then
        .error (apiError 400 "retention_camera_unknown" "Retention camera scope does not exist.")
      else .ok (.camera id)
    else if scopeType = "CAMERA_GROUP" then
      if (db.cameraGroups.get? id).isNone then
        .error (apiError 400 "retention_camera_group_unknown" "Retention camera group scope does not exist.")
      else .ok (.cameraGroup id)
    else .error (apiError 400 "retention_scope_invalid" "Retention scope type is invalid.")

def ensureScopeAvailable (db : Database) (scope : RetentionScope) (excludeId : Option Uuid) : Result Unit :=
  if db.retentionPolicies.rows.any fun policy => policy.scope = scope ∧ some policy.id ≠ excludeId then
    .error (apiError 409 "retention_scope_conflict" "A retention policy already exists for this scope.")
  else .ok ()

/-- The three numbers of days. -/
def validateDays (ordinary event manual : Int) : Result (Nat × Nat × Nat) :=
  if [ordinary, event, manual].any fun days => days < 0 ∨ 36500 < days then
    .error (apiError 400 "retention_days_invalid" "Retention days must be between 0 and 36500.")
  else .ok (ordinary.toNat, event.toNat, manual.toNat)

def validateMode (mode : String) : Result RetentionMode :=
  if mode = "BEST_EFFORT" then .ok .bestEffort
  else if mode = "HARD" then .ok .hard
  else .error (apiError 400 "retention_mode_invalid" "Retention mode is invalid.")

def ensureNameAvailable (db : Database) (name : String) (excludeId : Option Uuid) : Result Unit :=
  if db.retentionPolicies.rows.any fun policy => policy.name = name ∧ some policy.id ≠ excludeId then
    .error (apiError 409 "retention_name_conflict" "Retention policy name is already in use.")
  else .ok ()

/-- The checks of a create and of an update, in their order; the policy under the given id. -/
def checked (db : Database) (values : RetentionPolicyValues) (excludeId : Option Uuid) :
    Result (Uuid → RetentionPolicy) := do
  let name ← validateName values.name
  let scope ← validateScope db values.scopeType values.scopeId
  ensureScopeAvailable db scope excludeId
  let (ordinary, event, manual) ← validateDays values.ordinaryKeepDays values.eventKeepDays values.manualKeepDays
  let mode ← validateMode values.mode
  ensureNameAvailable db name excludeId
  .ok fun id => { id, name, scope, ordinaryKeepDays := ordinary, eventKeepDays := event, manualKeepDays := manual, mode
                  requireArchiveBeforeDelete := values.requireArchiveBeforeDelete, enabled := values.enabled }

def insertPolicy (db : Database) (policy : RetentionPolicy) : Result Database :=
  match db.retentionPolicies.insert? policy with
  | some retentionPolicies => .ok { db with retentionPolicies }
  | none => .error .integrityError

def create (uuid4 : Supply Uuid) (db : Database) (values : RetentionPolicyValues) : Result Database := do
  let policy ← checked db values none
  insertPolicy db (policy (db.retentionPolicies.newKey uuid4))

/-- A field that must not be null is. -/
def hasNull (changes : RetentionPolicyChanges) : Bool :=
  changes.name = some none || changes.scopeType = some none || changes.ordinaryKeepDays = some none ||
    changes.eventKeepDays = some none || changes.manualKeepDays = some none || changes.mode = some none ||
    changes.requireArchiveBeforeDelete = some none || changes.enabled = some none

/-- The values of the policy with the changes applied. -/
def changedValues (policy : RetentionPolicy) (changes : RetentionPolicyChanges) : RetentionPolicyValues :=
  { name := changes.name.join.getD policy.name
    scopeType := changes.scopeType.join.getD policy.scope.type
    scopeId := changes.scopeId.getD policy.scope.scopeId
    ordinaryKeepDays := changes.ordinaryKeepDays.join.getD policy.ordinaryKeepDays
    eventKeepDays := changes.eventKeepDays.join.getD policy.eventKeepDays
    manualKeepDays := changes.manualKeepDays.join.getD policy.manualKeepDays
    mode := changes.mode.join.getD policy.mode.text
    requireArchiveBeforeDelete := changes.requireArchiveBeforeDelete.join.getD policy.requireArchiveBeforeDelete
    enabled := changes.enabled.join.getD policy.enabled }

/-- The row takes the values of the policy, under its own key. -/
def replaced (policy : Uuid → RetentionPolicy) (row : RetentionPolicy) : RetentionPolicy :=
  { policy row.id with id := row.id }

theorem replaced_key (policy : Uuid → RetentionPolicy) (row : RetentionPolicy) :
    Keyed.key (replaced policy row) = Keyed.key row := rfl

def modifyPolicy (db : Database) (id : Uuid) (policy : Uuid → RetentionPolicy) : Database :=
  { db with retentionPolicies := db.retentionPolicies.modify id (replaced policy) (replaced_key policy) }

def update (db : Database) (policy : RetentionPolicy) (changes : RetentionPolicyChanges) : Result Database :=
  if hasNull changes then
    .error (apiError 400 "retention_patch_null_invalid" "Retention policy field cannot be null.")
  else do
    let changed ← checked db (changedValues policy changes) (some policy.id)
    .ok (modifyPolicy db policy.id changed)

def delete (db : Database) (policy : RetentionPolicy) : Result Database :=
  if db.recordingPolicies.rows.any fun recording => recording.retentionPolicyId = some policy.id then
    .error (apiError 409 "retention_policy_in_use"
      "Retention policy is referenced by a camera recording policy.")
  else .ok { db with retentionPolicies := db.retentionPolicies.remove policy.id }

end RetentionPolicyAdminService

end ZeroNvr
