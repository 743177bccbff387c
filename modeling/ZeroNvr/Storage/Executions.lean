import ZeroNvr.Storage.RetentionDeletion
import ZeroNvr.Lib.Run

/-! # Archive and deletion executions in flight

Workers run any number of `ArchiveLifecycleService.execute` and
`LocalRetentionDeletionService.execute` at the same time.  A step is one
transaction of one execution, or what it does to files between two of them; the
steps of different executions interleave freely.  An execution that returns from
its first transaction, or fails in it, changes nothing and is never in flight.
-/

namespace ZeroNvr

structure ArchiveExecution where
  plan : ArchivePlan
  stage : ArchiveLifecycleService.Stage

inductive UnlinkStage where
  | unlinking | unlinked | unlinkFailed
  deriving DecidableEq

structure DeletionExecution where
  locationId : Uuid
  filePath : String
  stage : UnlinkStage

structure StorageWorld where
  db : Database
  /-- The size of a file that exists. -/
  files : String → Option Int
  archives : Uuid → Option ArchiveExecution := fun _ => none
  deletions : Uuid → Option DeletionExecution := fun _ => none

inductive StorageAction where
  | prepare (job segmentId targetId newId : Uuid) (now : Int)
  | checkSource (job : Uuid)
  | copyToRemote (job : Uuid) (outcome : Except String Unit)
  | statRemote (job : Uuid) (outcome : Except String Int)
  | markSourceMissing (job : Uuid) (now : Int)
  | markFailed (job : Uuid) (now : Int)
  | markAvailable (job : Uuid) (now : Int)
  | stopArchive (job : Uuid)
  | startDeletion (job locationId : Uuid) (pressure : Bool) (now : Int)
  | unlink (job : Uuid) (failed : Bool)
  | markDeletionFailed (job : Uuid) (now : Int)
  | finishDeletion (job : Uuid) (now : Int)
  | stopDeletion (job : Uuid)

namespace StorageWorld

def setDb (world : StorageWorld) (db : Database) : StorageWorld := { world with db }

def setArchive (world : StorageWorld) (job : Uuid) (execution : Option ArchiveExecution) : StorageWorld :=
  { world with archives := Function.update world.archives job execution }

def setDeletion (world : StorageWorld) (job : Uuid) (execution : Option DeletionExecution) : StorageWorld :=
  { world with deletions := Function.update world.deletions job execution }

variable (env : StorageEnv)

inductive Step : StorageWorld → StorageAction → StorageWorld → Prop
  | prepare {world : StorageWorld} {job segmentId targetId newId : Uuid} {now : Int} {db : Database}
      {plan : ArchivePlan} (idle : world.archives job = none)
      (prepared : ArchiveLifecycleService.prepare env world.db segmentId targetId newId now =
        .ok (db, .plan plan)) :
      Step world (.prepare job segmentId targetId newId now)
        ((world.setDb db).setArchive job (some { plan, stage := .prepared }))
  | checkSource {world : StorageWorld} {job : Uuid} {plan : ArchivePlan}
      (running : world.archives job = some { plan, stage := .prepared }) (copies : ¬ plan.verifyExisting) :
      Step world (.checkSource job) (world.setArchive job (some
        { plan, stage := ArchiveLifecycleService.checkSource world.files plan }))
  | copyToRemote {world : StorageWorld} {job : Uuid} {plan : ArchivePlan} {outcome : Except String Unit}
      (running : world.archives job = some { plan, stage := .transferring }) :
      Step world (.copyToRemote job outcome) (world.setArchive job (some
        { plan, stage := ArchiveLifecycleService.afterCopy outcome }))
  | statRemote {world : StorageWorld} {job : Uuid} {plan : ArchivePlan} {outcome : Except String Int}
      (running : world.archives job = some { plan, stage := .prepared }) (verifies : plan.verifyExisting) :
      Step world (.statRemote job outcome) (world.setArchive job (some
        { plan, stage := ArchiveLifecycleService.afterStat plan outcome }))
  | markSourceMissing {world : StorageWorld} {job : Uuid} {plan : ArchivePlan} {now : Int}
      (running : world.archives job = some { plan, stage := .sourceMissing }) :
      Step world (.markSourceMissing job now)
        ((world.setDb (ArchiveLifecycleService.markSourceMissing world.db plan.sourceLocationId now)).setArchive
          job (some { plan, stage := .failing "archive_source_missing" }))
  | markFailed {world : StorageWorld} {job : Uuid} {plan : ArchivePlan} {errorCode : String} {now : Int}
      (running : world.archives job = some { plan, stage := .failing errorCode }) :
      Step world (.markFailed job now)
        ((world.setDb (ArchiveLifecycleService.markFailed world.db plan.remoteLocationId errorCode
          now)).setArchive job none)
  | markAvailable {world : StorageWorld} {job : Uuid} {plan : ArchivePlan} {now : Int} {db : Database}
      (running : world.archives job = some { plan, stage := .transferred })
      (marked : ArchiveLifecycleService.markAvailable world.db plan.remoteLocationId plan.expectedSize
        now = .ok db) :
      Step world (.markAvailable job now) ((world.setDb db).setArchive job none)
  /-- Any other exception, or the end of the worker. -/
  | stopArchive {world : StorageWorld} {job : Uuid} :
      Step world (.stopArchive job) (world.setArchive job none)
  | startDeletion {world : StorageWorld} {job locationId : Uuid} {pressure : Bool} {now : Int}
      {db : Database} {filePath : String} (idle : world.deletions job = none)
      (started : LocalRetentionDeletionService.start env world.db locationId pressure now =
        .ok (db, .deleting filePath)) :
      Step world (.startDeletion job locationId pressure now)
        ((world.setDb db).setDeletion job (some { locationId, filePath, stage := .unlinking }))
  | unlinked {world : StorageWorld} {job locationId : Uuid} {filePath : String}
      (running : world.deletions job = some { locationId, filePath, stage := .unlinking }) :
      Step world (.unlink job false)
        ({ world with files := Function.update world.files filePath none }.setDeletion job
          (some { locationId, filePath, stage := .unlinked }))
  | unlinkFailed {world : StorageWorld} {job locationId : Uuid} {filePath : String}
      (running : world.deletions job = some { locationId, filePath, stage := .unlinking }) :
      Step world (.unlink job true)
        (world.setDeletion job (some { locationId, filePath, stage := .unlinkFailed }))
  | markDeletionFailed {world : StorageWorld} {job locationId : Uuid} {filePath : String} {now : Int}
      (running : world.deletions job = some { locationId, filePath, stage := .unlinkFailed }) :
      Step world (.markDeletionFailed job now)
        ((world.setDb (LocalRetentionDeletionService.markFailed world.db locationId
          "retention_delete_failed" now)).setDeletion job none)
  | finishDeletion {world : StorageWorld} {job locationId : Uuid} {filePath : String} {now : Int}
      {db : Database} {result : RetentionDeleteResult}
      (running : world.deletions job = some { locationId, filePath, stage := .unlinked })
      (finished : LocalRetentionDeletionService.finish world.db locationId now = .ok (db, result)) :
      Step world (.finishDeletion job now) ((world.setDb db).setDeletion job none)
  | stopDeletion {world : StorageWorld} {job : Uuid} :
      Step world (.stopDeletion job) (world.setDeletion job none)

end StorageWorld

end ZeroNvr
