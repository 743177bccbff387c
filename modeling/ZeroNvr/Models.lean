import ZeroNvr.Lib.Table
import ZeroNvr.Core.Json
import ZeroNvr.Core.Time

/-! # The catalog

One structure per table row, under the names of the ORM models, and the
`Database` of all tables.  A check constraint over a closed vocabulary is an
inductive type; the retention scope's shape constraint is the type of its
scope.  Columns that no modelled function reads are left out.
-/

namespace ZeroNvr

open Lib

/-! ## Cameras -/

structure Device where
  id : Uuid
  adapterType : String := ""

structure Camera where
  id : Uuid
  deviceId : Option Uuid := none
  channelKey : String := ""
  name : String := ""
  enabled : Bool := true
  maintenance : Bool := false
  configRevision : Nat := 1
  timeSyncMode : String := "monitor"
  retiredAt : Option Int := none
  location : Option String := none
  storageLabel : Option String := none

structure CameraStreamProfile where
  id : Uuid
  cameraId : Uuid
  adapterProfileKey : String := ""
  videoSourceKey : Option String := none
  codec : Option String := none

structure CameraGroup where
  id : Uuid
  name : String := ""
  description : Option String := none
  parentId : Option Uuid := none

structure CameraGroupMember where
  cameraGroupId : Uuid
  cameraId : Uuid
  deriving DecidableEq

/-! ## Access -/

/-- A role and its permissions, which are rows of their own in no order. -/
structure Role where
  id : Uuid
  name : String
  description : Option String := none
  builtIn : Bool := false
  permissions : List String := []

inductive Principal where
  | user (id : Uuid)
  | role (id : Uuid)
  deriving DecidableEq

inductive CameraScopeMode where
  | all | selected | none
  deriving DecidableEq

/-- A principal has at most one scope, so the principal is its key. -/
structure PrincipalCameraScope where
  principal : Principal
  scopeMode : CameraScopeMode

/-- An entry of a scope is for one camera or one group. -/
inductive ScopeEntryTarget where
  | camera (id : Uuid)
  | cameraGroup (id : Uuid)
  deriving DecidableEq

structure PrincipalCameraScopeEntry where
  principal : Principal
  target : ScopeEntryTarget
  deriving DecidableEq

/-! ## Storage -/

inductive StorageType where
  | local | rclone
  deriving DecidableEq

inductive StorageRole where
  | recording | archive
  deriving DecidableEq

structure StorageTarget where
  id : Uuid
  type : StorageType
  role : StorageRole
  name : String := ""
  enabled : Bool := true
  config : Dict := []

inductive LocationState where
  | available | archiving | failed | deleting | deleted | missing
  deriving DecidableEq

structure RecordingLocation where
  id : Uuid
  recordingSegmentId : Uuid
  storageTargetId : Uuid
  objectPath : String
  state : LocationState := .available
  sizeBytes : Int
  verifiedAt : Option Int := none
  lastAttemptAt : Option Int := none
  lastError : Option String := none
  createdAt : Int := 0
  deletedAt : Option Int := none

/-! ## Recordings -/

inductive RetentionScope where
  | global
  | camera (id : Uuid)
  | cameraGroup (id : Uuid)
  deriving DecidableEq

inductive RetentionMode where
  | bestEffort | hard
  deriving DecidableEq

structure RetentionPolicy where
  id : Uuid
  name : String := ""
  scope : RetentionScope
  ordinaryKeepDays : Nat
  eventKeepDays : Nat
  manualKeepDays : Nat
  mode : RetentionMode
  requireArchiveBeforeDelete : Bool := true
  enabled : Bool := true

inductive BaselineMode where
  | continuous | schedule | disabled
  deriving DecidableEq

/-- A camera has at most one recording policy, so the camera is its key. -/
structure RecordingPolicy where
  cameraId : Uuid
  baselineMode : BaselineMode := .continuous
  scheduleJson : Dict := []
  scheduleTimezone : Option String := none
  eventRecordingEnabled : Bool := false
  eventFilterJson : Dict := []
  preRollSeconds : Nat := 10
  postRollSeconds : Nat := 10
  storageTargetId : Option Uuid := none
  retentionPolicyId : Option Uuid := none
  enabled : Bool := true

structure RecordingProtection where
  id : Uuid
  cameraId : Uuid
  startedAt : Int
  endedAt : Int
  reason : String := ""
  expiresAt : Option Int := none

inductive TriggerState where
  | active | completed | cancelled | failed
  deriving DecidableEq

structure RecordingTrigger where
  id : Uuid
  cameraId : Uuid
  type : String
  source : String
  sourceEventId : Option String := none
  requestedAt : Int
  preRollSeconds : Nat
  postRollSeconds : Nat
  plannedStartAt : Int
  plannedEndAt : Option Int := none
  state : TriggerState
  reason : Option String := none
  metadata : Dict := []

inductive TimingStatus where
  | provisional | final
  deriving DecidableEq

inductive TimingSource where
  | hookRaw | nextSegmentBoundary | explicitStop | recovery
  deriving DecidableEq

structure RecordingSegment where
  id : Uuid
  cameraId : Uuid
  streamProfileId : Option Uuid := none
  startedAt : Int
  endedAt : Int
  durationMs : Nat
  timingStatus : TimingStatus
  timingSource : TimingSource
  recordingReasons : List String := []
  sizeBytes : Int := 0
  codec : Option String := none
  sourceApp : String := "zero-nvr"
  sourceStream : String := ""
  integrityStatus : String := "UNKNOWN"
  completionReason : Option String := none

/-! ## Events, alerts and notifications -/

structure Event where
  id : Uuid
  source : String
  sourceInstanceId : Option String := none
  sourceEventId : Option String := none
  cameraId : Option Uuid := none
  category : String
  label : Option String := none
  startedAt : Int
  endedAt : Option Int := none
  confidence : Option ℚ := none
  severity : Option String := none
  zone : Option String := none
  snapshotRef : Option String := none
  correlationId : Option String := none
  metadata : Dict := []

structure AlertPolicy where
  id : Uuid
  enabled : Bool := true
  severity : String := "info"
  matchJson : Dict := []
  actionJson : Dict := []
  cooldownSeconds : Nat := 0

inductive AlertState where
  | open | acknowledged | resolved
  deriving DecidableEq

structure Alert where
  id : Uuid
  policyId : Option Uuid
  eventId : Uuid
  cameraId : Option Uuid
  severity : String
  state : AlertState
  resolvedAt : Option Int := none

structure NotificationTarget where
  id : Uuid
  kind : String := "apprise"
  enabled : Bool := true
  configJson : Dict := []
  secretRef : Option Uuid := none

inductive DeliveryState where
  | pending | sending | sent | failed | skipped
  deriving DecidableEq

structure NotificationDelivery where
  id : Uuid
  alertId : Option Uuid
  purpose : String := "alert"
  notificationTargetId : Uuid
  state : DeliveryState := .pending
  attemptCount : Nat := 0
  lastAttemptAt : Option Int := none
  sentAt : Option Int := none
  lastErrorCode : Option String := none
  correlationId : Option String := none

/-! ## Accounts -/

/-- The roles of a user are the rows of `user_roles`. -/
structure User where
  id : Uuid
  username : String
  displayName : String
  email : Option String := none
  emailVerifiedAt : Option Int := none
  passwordHash : Option String := none
  enabled : Bool := true
  roleIds : List Uuid := []

structure UserSession where
  id : Uuid
  userId : Uuid
  revokedAt : Option Int := none

structure PasswordResetToken where
  id : Uuid
  userId : Uuid
  tokenHash : String
  requestedAt : Int
  expiresAt : Int
  usedAt : Option Int := none
  createdBy : Option Uuid := none

structure SystemSetting where
  settingNamespace : String
  valueJson : Dict

/-! ## The database -/

instance : Keyed Device Uuid := ⟨Device.id⟩
instance : Keyed Camera Uuid := ⟨Camera.id⟩
instance : Keyed CameraStreamProfile Uuid := ⟨CameraStreamProfile.id⟩
instance : Keyed CameraGroup Uuid := ⟨CameraGroup.id⟩
instance : Keyed CameraGroupMember CameraGroupMember := ⟨id⟩
instance : Keyed User Uuid := ⟨User.id⟩
instance : Keyed UserSession Uuid := ⟨UserSession.id⟩
instance : Keyed PasswordResetToken Uuid := ⟨PasswordResetToken.id⟩
instance : Keyed SystemSetting String := ⟨SystemSetting.settingNamespace⟩
instance : Keyed Role Uuid := ⟨Role.id⟩
instance : Keyed PrincipalCameraScope Principal := ⟨PrincipalCameraScope.principal⟩
instance : Keyed PrincipalCameraScopeEntry PrincipalCameraScopeEntry := ⟨id⟩
instance : Keyed StorageTarget Uuid := ⟨StorageTarget.id⟩
instance : Keyed RecordingLocation Uuid := ⟨RecordingLocation.id⟩
instance : Keyed RetentionPolicy Uuid := ⟨RetentionPolicy.id⟩
instance : Keyed RecordingPolicy Uuid := ⟨RecordingPolicy.cameraId⟩
instance : Keyed RecordingProtection Uuid := ⟨RecordingProtection.id⟩
instance : Keyed RecordingTrigger Uuid := ⟨RecordingTrigger.id⟩
instance : Keyed RecordingSegment Uuid := ⟨RecordingSegment.id⟩
instance : Keyed Event Uuid := ⟨Event.id⟩
instance : Keyed AlertPolicy Uuid := ⟨AlertPolicy.id⟩
instance : Keyed Alert Uuid := ⟨Alert.id⟩
instance : Keyed NotificationTarget Uuid := ⟨NotificationTarget.id⟩
instance : Keyed NotificationDelivery Uuid := ⟨NotificationDelivery.id⟩

structure Database where
  devices : Table Device := .empty
  cameras : Table Camera := .empty
  streamProfiles : Table CameraStreamProfile := .empty
  cameraGroups : Table CameraGroup := .empty
  cameraGroupMembers : Table CameraGroupMember := .empty
  users : Table User := .empty
  userSessions : Table UserSession := .empty
  passwordResetTokens : Table PasswordResetToken := .empty
  systemSettings : Table SystemSetting := .empty
  roles : Table Role := .empty
  principalCameraScopes : Table PrincipalCameraScope := .empty
  principalCameraScopeEntries : Table PrincipalCameraScopeEntry := .empty
  storageTargets : Table StorageTarget := .empty
  locations : Table RecordingLocation := .empty
  retentionPolicies : Table RetentionPolicy := .empty
  recordingPolicies : Table RecordingPolicy := .empty
  protections : Table RecordingProtection := .empty
  triggers : Table RecordingTrigger := .empty
  segments : Table RecordingSegment := .empty
  events : Table Event := .empty
  alertPolicies : Table AlertPolicy := .empty
  alerts : Table Alert := .empty
  notificationTargets : Table NotificationTarget := .empty
  deliveries : Table NotificationDelivery := .empty

end ZeroNvr
