import ZeroNvr.Lib.Outcome
import ZeroNvr.Lib.Run
import ZeroNvr.Recordings.Reconciliation
import ZeroNvr.Zlm.Hooks

/-! # Ingestion is idempotent and timing is stable

Record hooks, promotions, recoveries and stops all write through a few changes of
the catalog.  Each of them advances it: an object has one owner, a segment is as
long as its duration says, and a final segment keeps its times.
-/

namespace ZeroNvr.IngestionTiming

open Lib

variable {db db' db'' : Database} {uuid4 : Supply Uuid}

/-! ## What a change of the catalog keeps -/

/-- The range of the segment is not empty, and as long as its duration. -/
def Timed (segment : RecordingSegment) : Prop :=
  segment.endedAt = segment.startedAt + milliseconds segment.durationMs ∧ segment.startedAt < segment.endedAt

/-- The unique index on the copies. -/
def UniqueObjects (locations : Table RecordingLocation) : Prop :=
  ∀ one ∈ locations, ∀ other ∈ locations,
    one.storageTargetId = other.storageTargetId → one.objectPath = other.objectPath → one = other

structure Sound (db : Database) : Prop where
  timed : ∀ segment ∈ db.segments, Timed segment
  unique : UniqueObjects db.locations

structure SameTiming (segment kept : RecordingSegment) : Prop where
  id : kept.id = segment.id
  startedAt : kept.startedAt = segment.startedAt
  endedAt : kept.endedAt = segment.endedAt
  durationMs : kept.durationMs = segment.durationMs
  timingStatus : kept.timingStatus = segment.timingStatus
  timingSource : kept.timingSource = segment.timingSource

theorem SameTiming.refl (segment : RecordingSegment) : SameTiming segment segment := ⟨rfl, rfl, rfl, rfl, rfl, rfl⟩

theorem SameTiming.trans {one two three : RecordingSegment} (first : SameTiming one two) (second : SameTiming two three) :
    SameTiming one three :=
  ⟨second.id.trans first.id, second.startedAt.trans first.startedAt, second.endedAt.trans first.endedAt,
    second.durationMs.trans first.durationMs, second.timingStatus.trans first.timingStatus,
    second.timingSource.trans first.timingSource⟩

theorem SameTiming.timed {segment kept : RecordingSegment} (same : SameTiming segment kept) (timed : Timed segment) :
    Timed kept := by
  unfold Timed
  rw [same.startedAt, same.endedAt, same.durationMs]
  exact timed

/-- The catalog stays sound, and its final segments keep their times. -/
structure Advances (db db' : Database) : Prop where
  sound : Sound db → Sound db'
  final : ∀ segment ∈ db.segments, segment.timingStatus = .final → ∃ kept ∈ db'.segments, SameTiming segment kept

theorem Advances.refl (db : Database) : Advances db db :=
  ⟨id, fun segment member _ => ⟨segment, member, .refl segment⟩⟩

theorem Advances.trans (first : Advances db db') (second : Advances db' db'') : Advances db db'' := by
  refine ⟨fun sound => second.sound (first.sound sound), fun segment member isFinal => ?_⟩
  obtain ⟨middle, middleMember, toMiddle⟩ := first.final segment member isFinal
  obtain ⟨last, lastMember, toLast⟩ := second.final middle middleMember (toMiddle.timingStatus.trans isFinal)
  exact ⟨last, lastMember, toMiddle.trans toLast⟩

/-- A change that leaves the segments and the unique index. -/
theorem advances_of_locations (same : db'.segments = db.segments)
    (unique : UniqueObjects db.locations → UniqueObjects db'.locations) : Advances db db' := by
  refine ⟨fun sound => ⟨?_, unique sound.unique⟩, fun segment member _ => ⟨segment, ?_, .refl segment⟩⟩
  · rw [same]
    exact sound.timed
  · rw [same]
    exact member

/-! ## The changes -/

theorem insertSegment_advances {segment : RecordingSegment}
    (length : segment.endedAt = segment.startedAt + milliseconds segment.durationMs)
    (inserted : db.insertSegment segment = .ok db') : Advances db db' := by
  unfold Database.insertSegment at inserted
  split at inserted
  · cases inserted
  next positive =>
    split at inserted
    · cases inserted
    · split at inserted
      next segments grown =>
        cases inserted
        refine ⟨fun sound => ⟨fun row member => ?_, sound.unique⟩, fun row member _ => ⟨row, ?_, .refl row⟩⟩
        · rcases (Table.mem_insert? grown).mp member with old | rfl
          · exact sound.timed row old
          · exact ⟨length, not_le.mp positive⟩
        · exact (Table.mem_insert? grown).mpr (.inl member)
      next => cases inserted

theorem locationAt_eq_none {targetId : Uuid} {objectPath : String} (absent : db.locationAt targetId objectPath = none) :
    ∀ location ∈ db.locations, ¬ (location.storageTargetId = targetId ∧ location.objectPath = objectPath) := by
  intro location member
  exact of_decide_eq_false (Table.first?_eq_none_iff.mp absent location member)

theorem insertLocation_advances {location : RecordingLocation} (inserted : db.insertLocation location = .ok db') :
    Advances db db' := by
  unfold Database.insertLocation at inserted
  split at inserted
  · cases inserted
  next absent =>
    have free := locationAt_eq_none (Option.not_isSome_iff_eq_none.mp absent)
    split at inserted
    · cases inserted
    · split at inserted
      next locations grown =>
        cases inserted
        refine advances_of_locations rfl fun unique one oneMember other otherMember sameTarget samePath => ?_
        rcases (Table.mem_insert? grown).mp oneMember with oneOld | rfl <;>
          rcases (Table.mem_insert? grown).mp otherMember with otherOld | rfl
        · exact unique one oneOld other otherOld sameTarget samePath
        · exact absurd ⟨sameTarget, samePath⟩ (free one oneOld)
        · exact absurd ⟨sameTarget.symm, samePath.symm⟩ (free other otherOld)
        · rfl
      next => cases inserted

theorem insertRecording_advances {segment : RecordingSegment}
    (length : segment.endedAt = segment.startedAt + milliseconds segment.durationMs) {targetId : Uuid}
    {objectPath : String} {verifiedAt lastAttemptAt : Option Int}
    (inserted : db.insertRecording uuid4 segment targetId objectPath verifiedAt lastAttemptAt = .ok db') :
    Advances db db' := by
  unfold Database.insertRecording at inserted
  rw [bind_eq_ok] at inserted
  obtain ⟨stored, isStored, inserted⟩ := inserted
  exact (insertSegment_advances length isStored).trans (insertLocation_advances inserted)

/-- A segment row after a change of one row. -/
theorem mem_modifySegment {id : Uuid} {f : RecordingSegment → RecordingSegment} {keeps : ∀ row, (f row).id = row.id}
    {row : RecordingSegment} : row ∈ (db.modifySegment id f keeps).segments ↔
      ∃ old ∈ db.segments, (if old.id = id then f old else old) = row :=
  @Table.mem_modify _ _ _ _ db.segments id f keeps row

/-- A change that keeps the times. -/
theorem modifySegment_advances {id : Uuid} {f : RecordingSegment → RecordingSegment}
    {keeps : ∀ row, (f row).id = row.id} (same : ∀ row, SameTiming row (f row)) :
    Advances db (db.modifySegment id f keeps) := by
  have kept (old : RecordingSegment) : SameTiming old (if old.id = id then f old else old) := by
    split
    · exact same old
    · exact .refl old
  refine ⟨fun sound => ⟨fun row member => ?_, sound.unique⟩, fun row member _ => ?_⟩
  · obtain ⟨old, oldMember, rfl⟩ := mem_modifySegment.mp member
    exact (kept old).timed (sound.timed old oldMember)
  · exact ⟨_, mem_modifySegment.mpr ⟨row, member, rfl⟩, kept row⟩

/-- A provisional segment that can end at a boundary. -/
theorem endingAt_advances {segment : RecordingSegment} (found : db.segments.get? segment.id = some segment)
    {boundaryAt : Int} {timingSource : TimingSource}
    (finalizable : RecordingCatalogService.finalizable boundaryAt segment = true) :
    Advances db (db.modifySegment segment.id (RecordingSegment.endingAt boundaryAt timingSource)) := by
  obtain ⟨provisional, _, positive⟩ := of_decide_eq_true finalizable
  have only {row : RecordingSegment} (member : row ∈ db.segments) (same : row.id = segment.id) : row = segment :=
    Table.eq_of_key_eq member (Table.mem_of_get? found) same
  refine ⟨fun sound => ⟨fun row member => ?_, sound.unique⟩, fun row member isFinal => ?_⟩
  · obtain ⟨old, oldMember, rfl⟩ := mem_modifySegment.mp member
    split
    next same =>
      rw [only oldMember same]
      exact ⟨(Int.sub_add_cancel _ _).symm, positive⟩
    next => exact sound.timed old oldMember
  · have differs : row.id ≠ segment.id := by
      intro same
      rw [only member same, provisional] at isFinal
      cases isFinal
    exact ⟨row, mem_modifySegment.mpr ⟨row, member, if_neg differs⟩, .refl row⟩

/-- A change of a copy that keeps its target and its path. -/
theorem modifyLocation_advances {id : Uuid} {f : RecordingLocation → RecordingLocation}
    {keeps : ∀ row, (f row).id = row.id} (sameTarget : ∀ row, (f row).storageTargetId = row.storageTargetId)
    (samePath : ∀ row, (f row).objectPath = row.objectPath) : Advances db (db.modifyLocation id f keeps) := by
  refine advances_of_locations rfl fun unique one oneMember other otherMember targets paths => ?_
  have modified {row : RecordingLocation} : row ∈ db.locations.modify id f keeps ↔ _ := Table.mem_modify
  obtain ⟨oldOne, oneOld, rfl⟩ := modified.mp oneMember
  obtain ⟨oldOther, otherOld, rfl⟩ := modified.mp otherMember
  have target (row : RecordingLocation) : (if Keyed.key row = id then f row else row).storageTargetId = row.storageTargetId := by
    split
    · exact sameTarget row
    · rfl
  have path (row : RecordingLocation) : (if Keyed.key row = id then f row else row).objectPath = row.objectPath := by
    split
    · exact samePath row
    · rfl
  rw [target, target] at targets
  rw [path, path] at paths
  rw [unique oldOne oneOld oldOther otherOld targets paths]

/-! ## The transactions -/

section Ingest

variable {env : CatalogEnv}

open RecordingCatalogService

theorem finalizePrevious_advances (profileId previousSegmentId : Uuid) (boundaryAt : Int) :
    Advances db (finalizePreviousFromBoundary db profileId previousSegmentId boundaryAt) := by
  unfold finalizePreviousFromBoundary
  cases found : db.segments.get? previousSegmentId with
  | none => exact .refl db
  | some previous =>
    dsimp only
    split
    next possible =>
      have isPrevious : previous.id = previousSegmentId := Table.key_of_get? found
      rw [← isPrevious] at found
      exact endingAt_advances found possible.2
    next => exact .refl db

theorem finalizeProvisional_advances (segmentId : Uuid) (boundaryAt : Int) (timingSource : TimingSource) :
    Advances db (finalizeProvisionalSegment db segmentId boundaryAt timingSource).1 := by
  unfold finalizeProvisionalSegment
  cases found : db.segments.get? segmentId with
  | none => exact .refl db
  | some segment =>
    dsimp only
    split
    next possible =>
      have isSegment : segment.id = segmentId := Table.key_of_get? found
      rw [← isSegment] at found
      exact endingAt_advances found possible
    next => exact .refl db

theorem noLongerTail_same (segment : RecordingSegment) : SameTiming segment (noLongerTail segment) := by
  unfold noLongerTail
  split
  · exact ⟨rfl, rfl, rfl, rfl, rfl, rfl⟩
  · exact .refl segment

theorem markSourceLossTail_advances (previousSegmentId : Option Uuid) (segmentId : Uuid) :
    Advances db (markSourceLossTail db previousSegmentId segmentId) := by
  unfold markSourceLossTail
  cases db.segments.get? segmentId with
  | none => exact .refl db
  | some segment =>
    dsimp only
    refine Advances.trans ?_ (modifySegment_advances fun row => ⟨rfl, rfl, rfl, rfl, rfl, rfl⟩)
    cases previousSegmentId with
    | none => exact .refl db
    | some previousId =>
      dsimp only
      split
      · exact modifySegment_advances noLongerTail_same
      · exact .refl db

theorem ingestNew_advances {evidence : FinalizedRecordingEvidence} {profile : CameraStreamProfile} {targetId : Uuid}
    {objectPath : String} {previousSegmentId : Option Uuid} {result : CatalogIngestResult}
    (ingested : ingestNew env uuid4 db evidence profile targetId objectPath previousSegmentId = .ok (db', result)) :
    Advances db db' := by
  unfold ingestNew at ingested
  dsimp only at ingested
  rw [bind_eq_ok] at ingested
  obtain ⟨reasons, _, ingested⟩ := ingested
  rw [bind_eq_ok] at ingested
  obtain ⟨stored, isStored, ingested⟩ := ingested
  cases ingested
  refine Advances.trans ?_ (insertRecording_advances rfl isStored)
  cases previousSegmentId with
  | none => exact .refl db
  | some previousId => exact finalizePrevious_advances _ _ _

theorem ingestFinalized_advances {evidence : FinalizedRecordingEvidence} {previousSegmentId : Option Uuid}
    {result : CatalogIngestResult}
    (ingested : ingestFinalized env uuid4 db evidence previousSegmentId = .ok (db', result)) : Advances db db' := by
  unfold ingestFinalized at ingested
  split at ingested
  · cases ingested
    exact .refl db
  split at ingested
  · cases ingested
  split at ingested
  · cases ingested
  rw [bind_eq_ok] at ingested
  obtain ⟨profileId, _, ingested⟩ := ingested
  split at ingested
  · cases ingested
  rw [bind_eq_ok] at ingested
  obtain ⟨target, _, ingested⟩ := ingested
  split at ingested
  · split at ingested
    · cases ingested
      exact .refl db
    · cases ingested
  · split at ingested
    · rw [bind_eq_ok] at ingested
      obtain ⟨known, _, ingested⟩ := ingested
      cases ingested
      exact .refl db
    · exact ingestNew_advances ingested

end Ingest

theorem rememberTail_advances (tracker : ZlmContinuityTracker) (identity : ZlmStreamIdentity)
    (resolution : ZlmContinuityResolution) (segment : RecordingSegment) :
    Advances db (ZlmHooks.rememberTail db tracker identity resolution segment).1 := by
  unfold ZlmHooks.rememberTail
  generalize tracker.rememberSegment identity resolution.continuityId segment.id segment.startedAt = remembered
  dsimp only
  split
  · exact markSourceLossTail_advances _ _
  · exact .refl db

theorem ingestResolved_advances {env : PrebufferEnv} {tracker tracker' : ZlmContinuityTracker} {body : ZlmRecordMp4Hook}
    {resolution : Option ZlmContinuityResolution}
    (done : ZlmHooks.ingestResolved env uuid4 db tracker body resolution = .ok (db', tracker')) : Advances db db' := by
  unfold ZlmHooks.ingestResolved at done
  rw [bind_eq_ok] at done
  obtain ⟨⟨stored, result⟩, ingested, done⟩ := done
  refine (ingestFinalized_advances ingested).trans ?_
  dsimp only at done
  split at done
  next resolved segment _ =>
    have isLast : (ZlmHooks.rememberTail stored tracker (ZlmHooks.identityOf body) resolved segment).1 = db' :=
      congrArg Prod.fst (Except.ok.inj done)
    rw [← isLast]
    exact rememberTail_advances _ _ _ _
  next =>
    cases done
    exact .refl _

theorem commit_advances {env : PrebufferEnv} {receipt : PromotionReceipt} {segment : RecordingSegment}
    (committed : PrebufferPromotionService.commit env uuid4 db receipt = .ok (db', segment)) : Advances db db' := by
  unfold PrebufferPromotionService.commit at committed
  split at committed
  · rw [bind_eq_ok] at committed
    obtain ⟨existing, _, committed⟩ := committed
    cases committed
    exact .refl db
  · rw [bind_eq_ok] at committed
    obtain ⟨reasons, _, committed⟩ := committed
    dsimp only at committed
    rw [bind_eq_ok] at committed
    obtain ⟨stored, isStored, committed⟩ := committed
    cases committed
    exact insertRecording_advances receipt.fragment.timed isStored

theorem recoverFile_advances {env : ReconciliationEnv} {targetId : Uuid} {root path objectPath : String} {now : Int}
    {completionReason : String} {outcome : RecoveryOutcome}
    (recovered : RecordingCatalogReconciliationService.recoverFile env uuid4 db targetId root path objectPath now
      completionReason = .ok (db', outcome)) : Advances db db' := by
  unfold RecordingCatalogReconciliationService.recoverFile at recovered
  split at recovered
  · split at recovered
    · unfold RecordingCatalogReconciliationService.relink at recovered
      split at recovered
      · cases recovered
      · split at recovered
        · cases recovered
          exact .refl db
        · cases recovered
          exact modifyLocation_advances (fun _ => rfl) fun _ => rfl
    · cases recovered
      exact .refl db
  · unfold RecordingCatalogReconciliationService.recoverUnknown at recovered
    split at recovered
    · cases recovered
      exact .refl db
    · split at recovered
      · cases recovered
        exact .refl db
      · split at recovered
        · split at recovered
          · cases recovered
            exact .refl db
          · rw [bind_eq_ok] at recovered
            obtain ⟨reasons, _, recovered⟩ := recovered
            dsimp only at recovered
            rw [bind_eq_ok] at recovered
            obtain ⟨stored, isStored, recovered⟩ := recovered
            cases recovered
            exact insertRecording_advances rfl isStored
        · cases recovered
          exact .refl db

/-! ## Runs -/

inductive IngestAction where
  | recordHook (body : ZlmRecordMp4Hook)
  | promotion (receipt : PromotionReceipt)
  | recovery (path : String)
  | stop (segmentId : Uuid)
  | rolledBack
  | elsewhere

/-- One transaction.  A hook holds the generation it was resolved to before its transaction, so any
    resolution may meet any catalog; a transaction that fails is rolled back; whatever else writes the
    catalog leaves the segments, and is held to the unique index. -/
inductive IngestStep (uuid4 : Supply Uuid) : Database → IngestAction → Database → Prop
  | recordHook {env : PrebufferEnv} {db db' : Database} {tracker tracker' : ZlmContinuityTracker}
      {body : ZlmRecordMp4Hook} {resolution : Option ZlmContinuityResolution} :
      ZlmHooks.ingestResolved env uuid4 db tracker body resolution = .ok (db', tracker') →
      IngestStep uuid4 db (.recordHook body) db'
  | promotion {env : PrebufferEnv} {db db' : Database} {receipt : PromotionReceipt} {segment : RecordingSegment} :
      PrebufferPromotionService.commit env uuid4 db receipt = .ok (db', segment) →
      IngestStep uuid4 db (.promotion receipt) db'
  | recovery {env : ReconciliationEnv} {db db' : Database} {targetId : Uuid} {root path objectPath : String}
      {now : Int} {completionReason : String} {outcome : RecoveryOutcome} :
      RecordingCatalogReconciliationService.recoverFile env uuid4 db targetId root path objectPath now
        completionReason = .ok (db', outcome) →
      IngestStep uuid4 db (.recovery path) db'
  | stop {db : Database} {segmentId : Uuid} {boundaryAt : Int} {timingSource : TimingSource} :
      IngestStep uuid4 db (.stop segmentId)
        (RecordingCatalogService.finalizeProvisionalSegment db segmentId boundaryAt timingSource).1
  | rolledBack {db : Database} : IngestStep uuid4 db .rolledBack db
  | elsewhere {db db' : Database} : db'.segments = db.segments →
      (UniqueObjects db.locations → UniqueObjects db'.locations) → IngestStep uuid4 db .elsewhere db'

theorem step_advances {action : IngestAction} (step : IngestStep uuid4 db action db') : Advances db db' := by
  cases step with
  | recordHook done => exact ingestResolved_advances done
  | promotion committed => exact commit_advances committed
  | recovery recovered => exact recoverFile_advances recovered
  | stop => exact finalizeProvisional_advances _ _ _
  | rolledBack => exact .refl db
  | elsewhere same unique => exact advances_of_locations same unique

theorem run_advances {actions : List IngestAction} (run : Run (IngestStep uuid4) db actions db') : Advances db db' := by
  induction run with
  | done s => exact .refl s
  | next first _ ih => exact (step_advances first).trans ih

theorem sound_empty {start : Database} (noSegments : start.segments = Table.empty)
    (noLocations : start.locations = Table.empty) : Sound start := by
  refine ⟨?_, ?_⟩
  · rw [noSegments]
    exact fun segment member => absurd member (Table.not_mem_empty segment)
  · rw [noLocations]
    exact fun location member => absurd member (Table.not_mem_empty location)

/-- From an empty catalog: an object has one owner, every segment is as long as its duration, and what is
    final keeps its times in every later state. -/
theorem ingestion_stable {start : Database} (noSegments : start.segments = Table.empty)
    (noLocations : start.locations = Table.empty) {past future : List IngestAction}
    (reached : Run (IngestStep uuid4) start past db) (later : Run (IngestStep uuid4) db future db') :
    (∀ one ∈ db.locations, ∀ other ∈ db.locations, one.storageTargetId = other.storageTargetId →
      one.objectPath = other.objectPath → one.recordingSegmentId = other.recordingSegmentId) ∧
    (∀ segment ∈ db.segments, segment.endedAt - segment.startedAt = milliseconds segment.durationMs ∧
      segment.startedAt < segment.endedAt) ∧
    ∀ segment ∈ db.segments, segment.timingStatus = .final → ∃ kept ∈ db'.segments, SameTiming segment kept := by
  have sound := (run_advances reached).sound (sound_empty noSegments noLocations)
  refine ⟨fun one oneMember other otherMember sameTarget samePath => ?_, fun segment member => ?_,
    (run_advances later).final⟩
  · rw [sound.unique one oneMember other otherMember sameTarget samePath]
  · obtain ⟨length, positive⟩ := sound.timed segment member
    refine ⟨?_, positive⟩
    rw [length]
    exact add_sub_cancel_left _ _

/-! A stream with two files: the second ends the first, and the first is reported once more. -/

def plainCatalog : CatalogEnv where
  zoneInfo := RecordingPolicyService.utcOnly
  paths := { resolveRoot := some, isAbsolute := fun _ => true, relativeTo := fun _ path => some path }
  parseUuid _ := some 1
  fromTimestamp value := value.num * 1000000 / value.den
  roundMs value := value.num * 1000 / value.den

def plainPrebuffer : PrebufferEnv where
  catalog := { plainCatalog with paths := { plainCatalog.paths with
    relativeTo := fun root path => if root = "/recordings" then some path else none } }
  prebufferRoot := "/prebuffer"
  eventPath _ relative := some relative

theorem hookLength_positive : (0 : ℚ) < 5 := by norm_num
theorem hookStart_positive : (0 : ℚ) < 10 := by norm_num

def recordHook (startTime : ℚ) (filePath : String) (startPositive : 0 < startTime) : ZlmRecordMp4Hook :=
  { vhost := "", app := "zero-nvr", stream := "profile-1", startTime, timeLen := 5, fileSize := 10, filePath
    startPositive, lenPositive := hookLength_positive }

def firstHook : ZlmRecordMp4Hook := recordHook 10 "first.mp4" hookStart_positive
def secondHook : ZlmRecordMp4Hook := recordHook 16 "second.mp4" (by norm_num)

def plainStart : Database where
  cameras := .single { id := 1 }
  streamProfiles := .single { id := 1, cameraId := 1 }
  storageTargets := ⟨[{ id := 1, type := .local, role := .recording, config := [("path", .str "/recordings")] }], by decide⟩

def rawSegment (id : Uuid) (startedAt : Int) : RecordingSegment :=
  { id, cameraId := 1, streamProfileId := some 1, startedAt, endedAt := startedAt + 5000000, durationMs := 5000
    timingStatus := .provisional, timingSource := .hookRaw, sizeBytes := 10, sourceStream := "profile-1"
    completionReason := some "NORMAL" }

def localCopy (id : Uuid) (objectPath : String) : RecordingLocation :=
  { id, recordingSegmentId := id, storageTargetId := 1, objectPath, sizeBytes := 10 }

def firstIngested : Database :=
  { plainStart with
    segments := ⟨[rawSegment 1 10000000], by decide⟩
    locations := ⟨[localCopy 1 "first.mp4"], by decide⟩ }

def secondIngested : Database :=
  { plainStart with
    segments := ⟨[(rawSegment 1 10000000).endingAt 16000000 .nextSegmentBoundary, rawSegment 2 16000000], by decide⟩
    locations := ⟨[localCopy 1 "first.mp4", localCopy 2 "second.mp4"], by decide⟩ }

/-- Redelivered after the second one, the first file keeps the times the boundary gave it. -/
theorem redelivered_file_keeps_times : ∃ kept ∈ secondIngested.segments,
    SameTiming ((rawSegment 1 10000000).endingAt 16000000 .nextSegmentBoundary) kept := by
  have first : ZlmHooks.ingestResolved plainPrebuffer .counting plainStart {} firstHook none =
      .ok (firstIngested, {}) := rfl
  have second : ZlmHooks.ingestResolved plainPrebuffer .counting firstIngested {} secondHook
      (some { continuityId := 1, previousSegmentId := some 1 }) = .ok (secondIngested, {}) := rfl
  have again : ZlmHooks.ingestResolved plainPrebuffer .counting secondIngested {} firstHook none =
      .ok (secondIngested, {}) := rfl
  have reached : Run (IngestStep .counting) plainStart [.recordHook firstHook, .recordHook secondHook] secondIngested :=
    .next (.recordHook first) (.next (.recordHook second) (.done _))
  have later : Run (IngestStep .counting) secondIngested [.recordHook firstHook] secondIngested :=
    .next (.recordHook again) (.done _)
  obtain ⟨_, _, stable⟩ := ingestion_stable rfl rfl reached later
  exact stable _ List.mem_cons_self rfl

end ZeroNvr.IngestionTiming
