import ZeroNvr.Recordings.Playback

/-! # Export plans

`build` cuts a range into clips of files, going through the segments in order of
time with a cursor at the end of the last clip.  `inpoint_seconds` and
`outpoint_seconds` are kept in microseconds.
-/

namespace ZeroNvr

open Lib

structure ExportPlanItem where
  segmentId : Uuid
  filePath : String
  segmentStartAt : Int
  clipStartAt : Int
  clipEndAt : Int
  inpoint : Int
  outpoint : Int
  codec : Option String
  deriving DecidableEq

structure ExportPlan where
  cameraId : Uuid
  requestedStartAt : Int
  requestedEndAt : Int
  items : List ExportPlanItem
  actualDurationMs : Int
  hasGaps : Bool
  deriving DecidableEq

namespace ExportPlanResolver

variable (env : PlaybackEnv) (db : Database)

def durationMs (item : ExportPlanItem) : Int := max 0 (env.roundMs (item.clipEndAt - item.clipStartAt))

/-- `(started_at, ended_at, id)` order. -/
def segmentBefore (left right : RecordingSegment) : Prop :=
  left.startedAt < right.startedAt ∨ (left.startedAt = right.startedAt ∧
    (left.endedAt < right.endedAt ∨ (left.endedAt = right.endedAt ∧ left.id ≤ right.id)))

instance : DecidableRel segmentBefore := fun _ _ => inferInstanceAs (Decidable (_ ∨ _))

def segmentsIn (cameraId : Uuid) (startAt endAt : Int) : List RecordingSegment :=
  (db.segments.select fun segment =>
    segment.cameraId = cameraId ∧ segment.startedAt < endAt ∧ startAt < segment.endedAt).insertionSort segmentBefore

/-- `_path`: the file playback takes, with the same order of locations. -/
def path (segment : RecordingSegment) : Option String := PlaybackResolverService.mediaPath env db segment

structure ExportCursor where
  cursor : Int
  items : List ExportPlanItem := []
  hasGaps : Bool := false

def rangeHasGaps : PyError := apiError 409 "export_range_has_gaps" "Export range contains unavailable media."

def item (segment : RecordingSegment) (filePath : String) (clipStart clipEnd : Int) : ExportPlanItem :=
  let inpoint := max 0 (clipStart - segment.startedAt)
  { segmentId := segment.id, filePath, segmentStartAt := segment.startedAt, clipStartAt := clipStart
    clipEndAt := clipEnd, inpoint, outpoint := max inpoint (clipEnd - segment.startedAt), codec := segment.codec }

/-- The loop over the segments; it stops once the cursor has reached the end of the range. -/
def clip (startAt endAt : Int) (gapPolicy : String) : List RecordingSegment → ExportCursor → Result ExportCursor
  | [], state => .ok state
  | segment :: rest, state =>
    if segment.endedAt ≤ state.cursor then clip startAt endAt gapPolicy rest state
    else match path env db segment with
      | none => clip startAt endAt gapPolicy rest state
      | some filePath =>
        let clipStart := max (max state.cursor startAt) segment.startedAt
        let clipEnd := min endAt segment.endedAt
        if clipEnd ≤ clipStart then clip startAt endAt gapPolicy rest state
        else if state.cursor < clipStart ∧ gapPolicy = "fail" then .error rangeHasGaps
        else
          let next : ExportCursor :=
            { cursor := max state.cursor clipEnd
              items := state.items ++ [item segment filePath clipStart clipEnd]
              hasGaps := state.hasGaps || decide (state.cursor < clipStart) }
          if endAt ≤ next.cursor then .ok next else clip startAt endAt gapPolicy rest next

def build (cameraId : Uuid) (startAt endAt : Int) (gapPolicy : String) : Result ExportPlan :=
  if endAt ≤ startAt then
    .error (apiError 400 "invalid_time_range" "Export range end must be after range start.")
  else if gapPolicy ∉ ["skip", "fail"] then
    .error (apiError 400 "export_gap_policy_invalid" "Export gap policy must be skip or fail.")
  else do
    let clipped ← clip env db startAt endAt gapPolicy (segmentsIn db cameraId startAt endAt) { cursor := startAt }
    if clipped.cursor < endAt ∧ gapPolicy = "fail" then .error rangeHasGaps
    else if clipped.items.isEmpty then
      .error (apiError 409 "export_media_unavailable" "No playable recording media exists in the selected range.")
    else
      .ok
        { cameraId, requestedStartAt := startAt, requestedEndAt := endAt, items := clipped.items
          actualDurationMs := (clipped.items.map (durationMs env)).sum
          hasGaps := clipped.hasGaps || decide (clipped.cursor < endAt) }

end ExportPlanResolver

end ZeroNvr
