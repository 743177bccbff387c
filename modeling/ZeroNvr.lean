import ZeroNvr.Verified.ScheduleTransitions
import ZeroNvr.Verified.TimelineCover
import ZeroNvr.Verified.GapReasons
import ZeroNvr.Verified.PlaybackAgreement
import ZeroNvr.Verified.StorageRouting
import ZeroNvr.Verified.RecorderRoots
import ZeroNvr.Verified.IngestionTiming
import ZeroNvr.Verified.BoundaryGenerations
import ZeroNvr.Verified.RetentionPressure
import ZeroNvr.Verified.ArchiveBeforeDelete
import ZeroNvr.Verified.StorageHealth
import ZeroNvr.Verified.FrigateOrder
import ZeroNvr.Verified.TriggerClosure
import ZeroNvr.Verified.OnvifState
import ZeroNvr.Verified.ManualRetention
import ZeroNvr.Verified.PurgeCompletion
import ZeroNvr.Verified.ProtectedPurge
import ZeroNvr.Verified.RetentionIsolation
import ZeroNvr.Verified.TranscodeLeases
import ZeroNvr.Verified.RestoreLock
import ZeroNvr.Verified.DeliveryOutcome
import ZeroNvr.Verified.AlertCooldown
import ZeroNvr.Verified.AlertProtection
import ZeroNvr.Verified.ReconciliationConvergence
import ZeroNvr.Verified.PartialFiles
import ZeroNvr.Auth.CameraScope
import ZeroNvr.Auth.Roles
import ZeroNvr.Cameras.Groups
import ZeroNvr.Cameras.Service
import ZeroNvr.System.ImportBundle
import ZeroNvr.System.ImportReferences
import ZeroNvr.Core.Transfer
import ZeroNvr.Verified.TransferOrder
import ZeroNvr.Core.Calendar
import ZeroNvr.Core.IsoFormat
import ZeroNvr.Lib.Base64
import ZeroNvr.Core.JsonText
import ZeroNvr.Core.UuidText
import ZeroNvr.Lib.Keyset
import ZeroNvr.Core.Pagination
import ZeroNvr.Verified.KeysetPagination
import ZeroNvr.Core.SecretStore
import ZeroNvr.Verified.SecretRotation
import ZeroNvr.Auth.Users
import ZeroNvr.System.ImportAccess
import ZeroNvr.Auth.PasswordReset
import ZeroNvr.Verified.LastAdministrator
import ZeroNvr.Verified.PasswordReset
import ZeroNvr.Cameras.MediaSessions
import ZeroNvr.Verified.MediaSessions
import ZeroNvr.Backups.Execution
import ZeroNvr.Verified.BackupSnapshots
import ZeroNvr.Exports.Execution
import ZeroNvr.Verified.ExportStates
import ZeroNvr.Alerts.Policies
import ZeroNvr.Verified.ExportCover
import ZeroNvr.Verified.AlertMatching
import ZeroNvr.Exports.Shares
import ZeroNvr.Verified.ShareDownloads
import ZeroNvr.Cameras.Configuration
import ZeroNvr.Verified.ConfigFence
import ZeroNvr.Core.UrlQuery
import ZeroNvr.Verified.MediaGrants
import ZeroNvr.Verified.ActionPlans
import ZeroNvr.Events.SourceLoss
import ZeroNvr.Zlm.SourceHealth
import ZeroNvr.Verified.SourceLoss
import ZeroNvr.Core.JsonWrite
import ZeroNvr.Core.SecretJson
import ZeroNvr.Lib.Shell
import ZeroNvr.Backups.Policies
import ZeroNvr.Backups.RecoveryKit
import ZeroNvr.Backups.EnvFile
import ZeroNvr.Backups.PolicyRuns
import ZeroNvr.Verified.RecoveryRestore
import ZeroNvr.Cameras.LivePreview
import ZeroNvr.Verified.JpegChunks
import ZeroNvr.Recordings.PlaybackPrune
import ZeroNvr.Verified.CachePruning
import ZeroNvr.Lib.UnionLength
import ZeroNvr.Recordings.PreRoll
import ZeroNvr.Verified.PreRollMeasure
import ZeroNvr.Verified.CursorDecoding
import ZeroNvr.Lib.OrderedDict
import ZeroNvr.Lib.Pattern
import ZeroNvr.Core.RedactText
import ZeroNvr.Verified.RedactionLeaks
import ZeroNvr.Lib.Throttle
import ZeroNvr.Auth.RateLimit
import ZeroNvr.Verified.LoginThrottle
import ZeroNvr.Verified.ScheduleValidation
import ZeroNvr.Verified.TimelineBuckets
import ZeroNvr.Lib.Ancestry
import ZeroNvr.System.ImportCameraGroups
import ZeroNvr.Verified.GroupHierarchy
import ZeroNvr.Verified.GroupResolution
import ZeroNvr.Verified.FileSegments
import ZeroNvr.Verified.PrebufferTimings
import ZeroNvr.Cameras.OnvifCapabilityRefresh
import ZeroNvr.Verified.CapabilityRefresh
import ZeroNvr.Playback.DriftController
import ZeroNvr.Verified.DriftControl
import ZeroNvr.Zlm.ObservedHealth
import ZeroNvr.Cameras.CapabilityHealth
import ZeroNvr.Verified.RecordingHealth
import ZeroNvr.Verified.RecoveryStatus
import ZeroNvr.Core.RedactText
import ZeroNvr.Verified.RedactionLeaks
import ZeroNvr.Verified.RedactionLeaks
import ZeroNvr.Cameras.PreviewWallProtocol
import ZeroNvr.Cameras.PreviewWallSession
import ZeroNvr.Verified.PreviewWallSessions
import ZeroNvr.Verified.PreviewWallFrames
import ZeroNvr.Cameras.PreviewWallClient
import ZeroNvr.Verified.PreviewWallClients
import ZeroNvr.Verified.PreviewWallDelivery
import ZeroNvr.Cameras.PreviewWallSocket
import ZeroNvr.System.ExportAccess
import ZeroNvr.Verified.GroupMerging
import ZeroNvr.Verified.GroupRoundTrip
import ZeroNvr.Verified.AccessRoundTrip
import ZeroNvr.Verified.ExportValidation
