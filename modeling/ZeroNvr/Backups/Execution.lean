import ZeroNvr.Core.Errors
import ZeroNvr.Core.UuidText
import ZeroNvr.Lib.Column
import ZeroNvr.Models

/-! # Running backups

A backup set is reserved for a policy and a slot of its schedule, and executed by a
worker.  Its row is read and written in transactions; the files and the repository
are outside of them.
-/

namespace ZeroNvr

open Lib

inductive BackupState where
  | pending
  | running
  | completed
  | failed
deriving DecidableEq

structure BackupPolicy where
  id : Uuid
  enabled : Bool := true
  databaseBackend : String
  verifyAfterBackup : Bool := true
  includeDeploymentConfig : Bool := false

instance : Keyed BackupPolicy Uuid := ⟨BackupPolicy.id⟩

structure BackupSet where
  id : Uuid
  backupPolicyId : Uuid
  state : BackupState := .pending
  reason : String
  scheduleSlot : Option String := none
  startedAt : Int
  completedAt : Option Int := none
  appVersion : String
  schemaRevision : String
  databaseEngine : String
  resticSnapshotId : Option String := none
  sizeBytes : Option Int := none
  verificationState : String := "PENDING"
  lastVerifiedAt : Option Int := none
  errorCode : Option String := none
  sanitizedError : Option String := none

instance : Keyed BackupSet Uuid := ⟨BackupSet.id⟩

/-- A session writes the columns that it has changed. -/
def BackupSet.flush (read new current : BackupSet) : BackupSet :=
  { current with
    state := written read.state new.state current.state
    startedAt := written read.startedAt new.startedAt current.startedAt
    completedAt := written read.completedAt new.completedAt current.completedAt
    resticSnapshotId := written read.resticSnapshotId new.resticSnapshotId current.resticSnapshotId
    sizeBytes := written read.sizeBytes new.sizeBytes current.sizeBytes
    verificationState := written read.verificationState new.verificationState current.verificationState
    lastVerifiedAt := written read.lastVerifiedAt new.lastVerifiedAt current.lastVerifiedAt
    errorCode := written read.errorCode new.errorCode current.errorCode
    sanitizedError := written read.sanitizedError new.sanitizedError current.sanitizedError }

structure ResolvedBackupPolicy where
  policyId : Uuid
  repository : String
  password : String
  environment : List (String × String)
  initializeIfMissing : Bool
  retention : List (String × Int)

structure BackupExecutionPlan where
  backupSetId : Uuid
  policyId : Uuid
  repository : String
  password : String
  environment : List (String × String)
  initializeIfMissing : Bool
  retention : List (String × Int)
  verifyAfterBackup : Bool
  includeDeploymentConfig : Bool
  databaseBackend : String
  workDir : String

/-- A `DatabaseSnapshotError` or a `ResticIntegrationError`. -/
structure BackupError where
  code : String
  message : String

structure ResticBackupResult where
  snapshotId : String
  sizeBytes : Option Int

/-- What the sessions and settings of the process give. -/
structure BackupEnv where
  appVersion : String
  cacheDir : String
  databaseEngine : String
  schemaRevision : String

namespace BackupRunService

def taken (sets : Table BackupSet) (policyId : Uuid) (slot : String) : Option BackupSet :=
  sets.first? fun other => other.backupPolicyId = policyId ∧ other.scheduleSlot = some slot

/-- The unique constraint on a policy and a slot. -/
def insertSet (sets : Table BackupSet) (backupSet : BackupSet) : Option (Table BackupSet) :=
  match backupSet.scheduleSlot with
  | none => sets.insert? backupSet
  | some slot => if (taken sets backupSet.backupPolicyId slot).isSome then none else sets.insert? backupSet

/-- `reserve` looks the slot up in one state of the table and inserts into a later one. -/
def reserve (env : BackupEnv) (uuid4 : Supply Uuid) (seen sets : Table BackupSet) (policy : BackupPolicy) (reason : String)
    (scheduleSlot : Option String) (now : Int) : Result (Table BackupSet × BackupSet × Bool) :=
  if !policy.enabled ∧ reason ≠ "manual" then .error (apiError 409 "backup_policy_disabled" "Backup policy is disabled.")
  else if policy.databaseBackend ≠ env.databaseEngine then
    .error (apiError 409 "backup_database_backend_mismatch"
      "Backup policy database backend does not match the active database.")
  else
    match scheduleSlot.bind (taken seen policy.id) with
    | some existing => .ok (sets, existing, false)
    | none =>
      let backupSet : BackupSet :=
        { id := sets.newKey uuid4
          backupPolicyId := policy.id
          reason, scheduleSlot
          startedAt := now
          appVersion := env.appVersion
          schemaRevision := env.schemaRevision
          databaseEngine := env.databaseEngine
          verificationState := if policy.verifyAfterBackup then "PENDING" else "SKIPPED" }
      match insertSet sets backupSet with
      | some sets => .ok (sets, backupSet, true)
      | none =>
        match scheduleSlot.bind (taken sets policy.id) with
        | some existing => .ok (sets, existing, false)
        | none => .error .integrityError

end BackupRunService

namespace BackupExecutionService

def workDir (env : BackupEnv) (backupSetId : Uuid) : String := env.cacheDir ++ "/backups/" ++ UUID.text backupSetId

/-- What `prepare` makes of the row it has read; without a plan the execution ends. -/
def prepare (env : BackupEnv) (policies : Table BackupPolicy) (resolve : BackupPolicy → Result ResolvedBackupPolicy)
    (row : BackupSet) (now : Int) : Result (BackupSet × Option BackupExecutionPlan) :=
  if row.state = .completed then .ok (row, none)
  else
    match policies.get? row.backupPolicyId with
    | none =>
      .ok ({ row with
        state := .failed
        errorCode := some "backup_policy_missing"
        sanitizedError := some "Backup policy is unavailable."
        completedAt := some now }, none)
    | some policy => do
      let resolved ← resolve policy
      .ok ({ row with
        state := .running
        startedAt := now
        completedAt := none
        errorCode := none
        sanitizedError := none },
        some
          { backupSetId := row.id
            policyId := policy.id
            repository := resolved.repository
            password := resolved.password
            environment := resolved.environment
            initializeIfMissing := resolved.initializeIfMissing
            retention := resolved.retention
            verifyAfterBackup := policy.verifyAfterBackup
            includeDeploymentConfig := policy.includeDeploymentConfig
            databaseBackend := policy.databaseBackend
            workDir := workDir env row.id })

/-- What `_mark_failed` makes of the row it has read. -/
def markFailed (row : BackupSet) (error : BackupError) (now : Int) : BackupSet :=
  { row with
    state := .failed
    errorCode := some error.code
    sanitizedError := some (String.ofList (error.message.toList.take 1024))
    completedAt := some now
    verificationState := if row.verificationState = "PENDING" then "SKIPPED" else row.verificationState }

/-- A backup that was taken, and what its verification and the retention came to. -/
structure BackupOutcome where
  snapshotId : String
  sizeBytes : Option Int
  verificationState : String := "SKIPPED"
  postErrorCode : Option String := none
  postError : Option String := none

/-- What `_complete` makes of the row it has read. -/
def complete (row : BackupSet) (outcome : BackupOutcome) (now : Int) : BackupSet :=
  { row with
    state := .completed
    resticSnapshotId := some outcome.snapshotId
    sizeBytes := outcome.sizeBytes
    verificationState := outcome.verificationState
    lastVerifiedAt :=
      if outcome.verificationState = "PASSED" ∨ outcome.verificationState = "FAILED" then some now else none
    errorCode := outcome.postErrorCode
    sanitizedError := outcome.postError.map fun text => String.ofList (text.toList.take 1024)
    completedAt := some now }

/-- The verification of the snapshot and the repository, which may fail. -/
def verified (plan : BackupExecutionPlan) (result : ResticBackupResult) (check : Except BackupError Unit) : BackupOutcome :=
  let outcome : BackupOutcome := { snapshotId := result.snapshotId, sizeBytes := result.sizeBytes }
  if !plan.verifyAfterBackup then outcome
  else
    match check with
    | .ok () => { outcome with verificationState := "PASSED" }
    | .error _ =>
      { outcome with
        verificationState := "FAILED"
        postErrorCode := some "restic_check_failed"
        postError := some "Backup snapshot was created but repository verification failed." }

/-- The retention of the repository, which may fail; nothing else raises a restic error once the
snapshot is known. -/
def retained (outcome : BackupOutcome) (forget : Except BackupError Unit) : BackupOutcome :=
  match forget with
  | .ok () => outcome
  | .error _ =>
    if outcome.postErrorCode = none then
      { outcome with
        postErrorCode := some "restic_retention_failed"
        postError := some "Backup snapshot was created but retention cleanup failed." }
    else outcome

end BackupExecutionService

end ZeroNvr
