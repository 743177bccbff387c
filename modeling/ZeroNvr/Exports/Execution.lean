import ZeroNvr.Core.UuidText
import ZeroNvr.Exports.Plan
import ZeroNvr.Lib.Column

/-! # Running exports

An export is prepared in one transaction, rendered without one, and completed or
marked as failed in another.  It may be cancelled, and expires.
-/

namespace ZeroNvr

open Lib

inductive ExportState where
  | pending
  | running
  | completed
  | failed
  | cancelled
  | expired
deriving DecidableEq

structure ExportJob where
  id : Uuid
  cameraId : Uuid
  requestedStartAt : Int
  requestedEndAt : Int
  codecMode : String := "auto"
  gapPolicy : String := "skip"
  state : ExportState := .pending
  outputPath : Option String := none
  sizeBytes : Option Int := none
  actualDurationMs : Option Int := none
  selectedSegmentCount : Option Int := none
  metadataJson : Dict := []
  errorCode : Option String := none
  expiresAt : Int
  startedAt : Option Int := none
  completedAt : Option Int := none

/-- A session writes the columns that it has changed. -/
def ExportJob.flush (read new current : ExportJob) : ExportJob :=
  { current with
    state := written read.state new.state current.state
    outputPath := written read.outputPath new.outputPath current.outputPath
    sizeBytes := written read.sizeBytes new.sizeBytes current.sizeBytes
    actualDurationMs := written read.actualDurationMs new.actualDurationMs current.actualDurationMs
    selectedSegmentCount := written read.selectedSegmentCount new.selectedSegmentCount current.selectedSegmentCount
    metadataJson := if Json.equal (.obj new.metadataJson) (.obj read.metadataJson) then current.metadataJson else new.metadataJson
    errorCode := written read.errorCode new.errorCode current.errorCode
    startedAt := written read.startedAt new.startedAt current.startedAt
    completedAt := written read.completedAt new.completedAt current.completedAt }

structure FfmpegInputClip where
  filePath : String
  inpoint : Int
  outpoint : Int
  codec : Option String

structure FfmpegExportResult where
  outputPath : String
  sizeBytes : Int
  durationMs : Int
  codecMode : String

structure ExportExecutionPlan where
  exportId : Uuid
  outputPath : String
  clips : List FfmpegInputClip
  requestedCodecMode : String
  selectedDurationMs : Int
  hasGaps : Bool

namespace ExportExecutionService

/-- Where the rendered file of an export is. -/
def outputPath (cacheDir : String) (exportId : Uuid) : String := cacheDir ++ "/exports/" ++ UUID.text exportId ++ ".mp4"

/-- A cancelled or an expired export. -/
def isOver (job : ExportJob) : Bool := job.state = .cancelled ∨ job.state = .expired

/-- What `prepare` makes of the row it has read; without a plan the execution ends. -/
def prepare (env : PlaybackEnv) (cacheDir : String) (db : Database) (job : ExportJob) (now : Int) :
    Result (ExportJob × Option ExportExecutionPlan) :=
  if job.state = .completed then .ok (job, none)
  else if isOver job then .ok (job, none)
  else if job.expiresAt ≤ now then .ok ({ job with state := .expired, completedAt := some now }, none)
  else
    match ExportPlanResolver.build env db job.cameraId job.requestedStartAt job.requestedEndAt job.gapPolicy with
    | .error (.api error) =>
      .ok ({ job with state := .failed, errorCode := some error.code, completedAt := some now }, none)
    | .error failure => .error failure
    | .ok plan =>
      let path := outputPath cacheDir job.id
      let clips := plan.items.map fun item : ExportPlanItem =>
        { filePath := item.filePath, inpoint := item.inpoint, outpoint := item.outpoint, codec := item.codec : FfmpegInputClip }
      .ok ({ job with
        state := .running
        startedAt := some now
        completedAt := none
        errorCode := none
        outputPath := some path
        selectedSegmentCount := some clips.length
        actualDurationMs := some plan.actualDurationMs
        metadataJson := [("selected_duration_ms", .int plan.actualDurationMs), ("has_gaps", .bool plan.hasGaps)] },
        some
          { exportId := job.id
            outputPath := path
            clips
            requestedCodecMode := job.codecMode
            selectedDurationMs := plan.actualDurationMs
            hasGaps := plan.hasGaps })

/-- What `_mark_failed` makes of the row it has read. -/
def markFailed (job : ExportJob) (errorCode : String) (now : Int) : ExportJob :=
  if isOver job then job else { job with state := .failed, errorCode := some errorCode, completedAt := some now }

/-- What `_complete` makes of the row it has read, and whether it takes the file away before. -/
def complete (job : ExportJob) (result : FfmpegExportResult) (now : Int) : ExportJob × Bool :=
  if isOver job then (job, true)
  else if job.expiresAt ≤ now then
    ({ job with state := .expired, outputPath := none, sizeBytes := none, completedAt := some now }, true)
  else
    ({ job with
      metadataJson := Dict.set job.metadataJson "effective_codec_mode" (.str result.codecMode)
      state := .completed
      outputPath := some result.outputPath
      sizeBytes := some result.sizeBytes
      actualDurationMs := some result.durationMs
      errorCode := none
      completedAt := some now }, false)

end ExportExecutionService

namespace ExportService

/-- What `cancel` makes of the row it has read, and the file to be taken away after the commit. -/
def cancel (job : ExportJob) (now : Int) : ExportJob × Option String :=
  if ExportExecutionService.isOver job then (job, job.outputPath)
  else ({ job with state := .cancelled, completedAt := some now, outputPath := none, sizeBytes := none }, job.outputPath)

end ExportService

namespace ExportCleanupService

/-- The jobs a pass takes up. -/
def isDue (job : ExportJob) (reference : Int) : Bool :=
  job.expiresAt ≤ reference ∧ ¬(job.state = .expired ∨ job.state = .cancelled ∨ job.state = .running)

/-- What a pass makes of a job; the path it had is taken away after the commit. -/
def expired (job : ExportJob) (reference : Int) : ExportJob :=
  { job with state := .expired, outputPath := none, sizeBytes := none, completedAt := some reference }

end ExportCleanupService

end ZeroNvr
