import ZeroNvr.Recordings.Protection
import ZeroNvr.Verified.PurgeCompletion

/-! # Protections and purges

A protection is checked against the deletions that are committed, and a deletion
is evaluated against the protections that are committed.  A protection that
commits between the evaluation of a deletion and its `DELETING` is seen by
neither (`Overtakes`).  In every run without such a commit an available copy of a
protected segment stays available.
-/

namespace ZeroNvr

open Lib RetentionPlanner

inductive PurgeStage where
  | checked | unlinking | unlinked | unlinkFailed
  deriving DecidableEq

/-- An execution from its evaluation on. -/
structure PurgeExecution where
  locationId : Uuid
  filePath : String
  stage : PurgeStage

structure ProtectionWorld where
  db : Database
  clock : Int
  requests : Uuid → Option ProtectionChange := fun _ => none
  purges : Uuid → Option PurgeExecution := fun _ => none

inductive ProtectionAction where
  | checkCreate (job cameraId : Uuid) (request : ProtectionRequest)
  | checkUpdate (job protectionId : Uuid) (request : ProtectionRequest)
  | commitProtection (job : Uuid)
  | rollbackProtection (job : Uuid)
  | removeProtection (protectionId : Uuid)
  | evaluate (job locationId : Uuid) (pressure : Bool)
  | commitDeleting (job : Uuid)
  | unlink (job : Uuid) (failed : Bool)
  | commitFailed (job : Uuid)
  | commitDeleted (job : Uuid)
  | stop (job : Uuid)
  | tick (later : Int)

namespace ProtectionWorld

def setRequest (world : ProtectionWorld) (job : Uuid) (change : Option ProtectionChange) : ProtectionWorld :=
  { world with requests := Function.update world.requests job change }

def setPurge (world : ProtectionWorld) (job : Uuid) (execution : Option PurgeExecution) : ProtectionWorld :=
  { world with purges := Function.update world.purges job execution }

def setDb (world : ProtectionWorld) (db : Database) : ProtectionWorld := { world with db }

variable (env : StorageEnv) (uuid4 : Supply Uuid)

/-- Reads and commits of any number of requests and executions. -/
inductive Step : ProtectionWorld → ProtectionAction → ProtectionWorld → Prop
  | checkCreate {world : ProtectionWorld} {job cameraId : Uuid} {request : ProtectionRequest}
      {change : ProtectionChange} (idle : world.requests job = none)
      (checked : RecordingProtectionService.create world.db cameraId request world.clock = .ok change) :
      Step world (.checkCreate job cameraId request) (world.setRequest job (some change))
  | checkUpdate {world : ProtectionWorld} {job protectionId : Uuid} {request : ProtectionRequest}
      {change : ProtectionChange} (idle : world.requests job = none)
      (checked : RecordingProtectionService.update world.db protectionId request world.clock = .ok change) :
      Step world (.checkUpdate job protectionId request) (world.setRequest job (some change))
  | commitProtection {world : ProtectionWorld} {job : Uuid} {change : ProtectionChange} {db : Database}
      (checked : world.requests job = some change)
      (isWritten : RecordingProtectionService.write uuid4 world.db change = .ok db) :
      Step world (.commitProtection job) ((world.setDb db).setRequest job none)
  | rollbackProtection {world : ProtectionWorld} {job : Uuid} :
      Step world (.rollbackProtection job) (world.setRequest job none)
  | removeProtection {world : ProtectionWorld} {protectionId : Uuid} :
      Step world (.removeProtection protectionId)
        (world.setDb (RecordingProtectionService.delete world.db protectionId))
  | evaluate {world : ProtectionWorld} {job locationId : Uuid} {pressure : Bool} {db : Database}
      {filePath : String} (idle : world.purges job = none)
      (evaluated : LocalRetentionDeletionService.start env world.db locationId pressure world.clock =
        .ok (db, .deleting filePath)) :
      Step world (.evaluate job locationId pressure)
        (world.setPurge job (some { locationId, filePath, stage := .checked }))
  | commitDeleting {world : ProtectionWorld} {job locationId : Uuid} {filePath : String}
      (running : world.purges job = some { locationId, filePath, stage := .checked }) :
      Step world (.commitDeleting job) ((world.setDb (world.db.modifyLocation locationId
        (LocalRetentionDeletionService.deleting world.clock))).setPurge job
          (some { locationId, filePath, stage := .unlinking }))
  | unlink {world : ProtectionWorld} {job locationId : Uuid} {filePath : String} {failed : Bool}
      (running : world.purges job = some { locationId, filePath, stage := .unlinking }) :
      Step world (.unlink job failed) (world.setPurge job
        (some { locationId, filePath, stage := if failed then .unlinkFailed else .unlinked }))
  | commitFailed {world : ProtectionWorld} {job locationId : Uuid} {filePath : String}
      (running : world.purges job = some { locationId, filePath, stage := .unlinkFailed }) :
      Step world (.commitFailed job) ((world.setDb (LocalRetentionDeletionService.markFailed world.db locationId
        "retention_delete_failed" world.clock)).setPurge job none)
  | commitDeleted {world : ProtectionWorld} {job locationId : Uuid} {filePath : String} {db : Database}
      {result : RetentionDeleteResult}
      (running : world.purges job = some { locationId, filePath, stage := .unlinked })
      (finished : LocalRetentionDeletionService.finish world.db locationId world.clock = .ok (db, result)) :
      Step world (.commitDeleted job) ((world.setDb db).setPurge job none)
  | stop {world : ProtectionWorld} {job : Uuid} : Step world (.stop job) (world.setPurge job none)
  | tick {world : ProtectionWorld} {later : Int} (forward : world.clock ≤ later) :
      Step world (.tick later) { world with clock := later }

variable {env : StorageEnv} {uuid4 : Supply Uuid} {world world' : ProtectionWorld} {action : ProtectionAction}
  {locationId : Uuid}

theorem purges_setPurge (world : ProtectionWorld) (job : Uuid) (execution : Option PurgeExecution) :
    (world.setPurge job execution).purges = Function.update world.purges job execution := rfl

/-! ## What is protected -/

/-- The segment of the location is protected. -/
def Protected (db : Database) (clock : Int) (locationId : Uuid) : Prop :=
  ∃ location segment, db.locations.get? locationId = some location ∧
    db.segments.get? location.recordingSegmentId = some segment ∧ isProtected db segment clock = true

/-- A protection commits over a deletion that was evaluated without it and is not `DELETING` yet. -/
def Overtakes (world : ProtectionWorld) (action : ProtectionAction) (world' : ProtectionWorld) : Prop :=
  ∃ job other execution, action = .commitProtection job ∧ world.purges other = some execution ∧
    execution.stage = .checked ∧ Protected world'.db world'.clock execution.locationId

variable (env uuid4) in
/-- A step in which no protection overtakes a deletion. -/
def OrderlyStep (world : ProtectionWorld) (action : ProtectionAction) (world' : ProtectionWorld) : Prop :=
  Step env uuid4 world action world' ∧ ¬ Overtakes world action world'

/-- The protections become fewer, or the clock goes on; no location changes its segment. -/
structure Weakens (db : Database) (clock : Int) (db' : Database) (clock' : Int) : Prop where
  segments : db'.segments = db.segments
  locations : ∀ id location', db'.locations.get? id = some location' →
    ∃ location, db.locations.get? id = some location ∧ location'.recordingSegmentId = location.recordingSegmentId
  protections : ∀ protection ∈ db'.protections, protection ∈ db.protections
  clock : clock ≤ clock'

theorem Protected.of_weakens {db db' : Database} {clock clock' : Int} (weakens : Weakens db clock db' clock')
    (isProtected_ : Protected db' clock' locationId) : Protected db clock locationId := by
  obtain ⟨location', segment, isLocation, isSegment, protects⟩ := isProtected_
  obtain ⟨location, found, sameSegment⟩ := weakens.locations locationId location' isLocation
  rw [weakens.segments, sameSegment] at isSegment
  refine ⟨location, segment, found, isSegment, ?_⟩
  simp only [isProtected, List.any_eq_true, decide_eq_true_eq] at protects ⊢
  obtain ⟨protection, member, camera, starts, ends, unexpired⟩ := protects
  refine ⟨protection, weakens.protections protection member, camera, starts, ends, ?_⟩
  rw [Option.all_eq_true] at unexpired ⊢
  intro expires isExpires
  have later := decide_eq_true_eq.mp (unexpired expires isExpires)
  exact decide_eq_true_eq.mpr (weakens.clock.trans_lt later)

theorem weakens_modifyLocation (db : Database) (clock : Int) (id : Uuid) (f : RecordingLocation → RecordingLocation)
    (keeps : ∀ row, (f row).id = row.id) (sameSegment : ∀ row, (f row).recordingSegmentId = row.recordingSegmentId) :
    Weakens db clock (db.modifyLocation id f keeps) clock := by
  refine ⟨rfl, fun other location' found => ?_, fun _ member => member, le_refl _⟩
  have lookup : (db.modifyLocation id f keeps).locations.get? other =
      if other = id then (db.locations.get? other).map f else db.locations.get? other := 
      Table.get?_modify db.locations id f keeps other
  rw [lookup] at found
  split at found
  · obtain ⟨location, isLocation, rfl⟩ := Option.map_eq_some_iff.mp found
    exact ⟨location, isLocation, sameSegment location⟩
  · exact ⟨location', found, rfl⟩

theorem weakens_of_protections {db db' : Database} {clock clock' : Int}
    (same : db' = { db with protections := db'.protections })
    (fewer : ∀ protection ∈ db'.protections, protection ∈ db.protections) (forward : clock ≤ clock') :
    Weakens db clock db' clock' := by
  refine ⟨?_, fun id location' found => ⟨location', ?_, rfl⟩, fewer, forward⟩
  · rw [same]
  · rw [same] at found
    exact found

/-- An evaluated deletion is of an unprotected segment. -/
theorem not_protected_of_start {db db' : Database} {pressure : Bool} {now : Int} {filePath : String}
    (started : LocalRetentionDeletionService.start env db locationId pressure now = .ok (db', .deleting filePath)) :
    ¬ Protected db now locationId := by
  obtain ⟨location, decision, found, _, evaluated, eligible, _⟩ := StorageWorld.start_cases started
  obtain ⟨segment, _, _, gates⟩ := evaluate_eligible evaluated eligible
  rintro ⟨own, ownSegment, isOwn, isSegment, protects⟩
  rw [found] at isOwn
  cases isOwn
  rw [gates.segment_found] at isSegment
  cases isSegment
  exact gates.unprotected protects

/-! ## The invariant -/

def stateAt (world : ProtectionWorld) (id : Uuid) : Option LocationState := StorageWorld.stateAt world.db id

/-- An evaluated deletion is of an unprotected segment, and after its commit the copy is given up. -/
def Safe (world : ProtectionWorld) : Prop :=
  ∀ job, ∀ execution ∈ world.purges job,
    if execution.stage = .checked then ¬ Protected world.db world.clock execution.locationId
    else stateAt world execution.locationId ≠ some .available

/-- Another step keeps what is known of the executions: it protects less, or nothing that is evaluated, and
    makes no copy available. -/
theorem Safe.kept (safe : Safe world) {db : Database} {clock : Int}
    (protects : ∀ job, ∀ execution ∈ world.purges job, execution.stage = .checked →
      Protected db clock execution.locationId → Protected world.db world.clock execution.locationId)
    (states : ∀ id, StorageWorld.stateAt db id = some .available → stateAt world id = some .available) :
    Safe { world with db, clock } := by
  intro job execution running
  have known := safe job execution running
  split
  next checked =>
    rw [if_pos checked] at known
    exact fun isProtected_ => known (protects job execution running checked isProtected_)
  next later =>
    rw [if_neg later] at known
    exact fun available => known (states _ available)

theorem Safe.setPurge (safe : Safe world) (job : Uuid) {own : Option PurgeExecution}
    (ownSafe : ∀ execution ∈ own,
      if execution.stage = .checked then ¬ Protected world.db world.clock execution.locationId
      else stateAt world execution.locationId ≠ some .available) : Safe (world.setPurge job own) := by
  intro other execution running
  by_cases same : other = job
  · subst same
    rw [purges_setPurge, Function.update_self] at running
    exact ownSafe execution running
  · rw [purges_setPurge, Function.update_of_ne same] at running
    exact safe other execution running

/-- A change that gives a copy up leaves no available copy where there was none. -/
theorem available_of_modify {db : Database} {id other : Uuid} {f : RecordingLocation → RecordingLocation}
    {keeps : ∀ row, (f row).id = row.id} (givesUp : ∀ row, (f row).state ≠ .available)
    (available : StorageWorld.stateAt (db.modifyLocation id f keeps) other = some .available) :
    other ≠ id ∧ StorageWorld.stateAt db other = some .available := by
  by_cases same : other = id
  · subst same
    have lookup : (db.modifyLocation other f keeps).locations.get? other = (db.locations.get? other).map f := by
      have modified := Table.get?_modify db.locations other f keeps other
      rwa [if_pos rfl] at modified
    rw [StorageWorld.stateAt, lookup, Option.map_map] at available
    obtain ⟨row, _, isAvailable⟩ := Option.map_eq_some_iff.mp available
    exact absurd isAvailable (givesUp row)
  · exact ⟨same, (StorageWorld.stateAt_modify_ne db same f keeps).symm.trans available⟩

/-- The three changes of an execution: each gives the copy up, and leaves it with its segment. -/
structure GivesUp (f : RecordingLocation → RecordingLocation) : Prop where
  unavailable : ∀ row, (f row).state ≠ .available
  sameSegment : ∀ row, (f row).recordingSegmentId = row.recordingSegmentId

theorem givesUp_deleting (now : Int) : GivesUp (LocalRetentionDeletionService.deleting now) :=
  ⟨fun _ => LocationState.noConfusion, fun _ => rfl⟩

theorem givesUp_failed (errorCode : String) (now : Int) : GivesUp (RecordingLocation.failed errorCode now) :=
  ⟨fun _ => LocationState.noConfusion, fun _ => rfl⟩

theorem givesUp_deleted (now : Int) : GivesUp (LocalRetentionDeletionService.deleted now) :=
  ⟨fun _ => LocationState.noConfusion, fun _ => rfl⟩

/-- One execution gives its copy up and moves on. -/
theorem Safe.giveUp (safe : Safe world) (job id : Uuid) {f : RecordingLocation → RecordingLocation}
    (givesUp : GivesUp f) (keeps : ∀ row, (f row).id = row.id) (own : Option PurgeExecution)
    (ownStage : ∀ execution ∈ own, execution.stage ≠ .checked ∧ execution.locationId = id) :
    Safe ((world.setDb (world.db.modifyLocation id f keeps)).setPurge job own) := by
  have weakens := weakens_modifyLocation world.db world.clock id f keeps givesUp.sameSegment
  have kept : Safe (world.setDb (world.db.modifyLocation id f keeps)) := by
    refine safe.kept (fun _ _ _ _ => Protected.of_weakens weakens) fun other available => ?_
    exact (available_of_modify givesUp.unavailable available).2
  refine kept.setPurge job fun execution isOwn => ?_
  obtain ⟨later, isLocation⟩ := ownStage execution isOwn
  rw [if_neg later, isLocation]
  intro available
  exact (available_of_modify givesUp.unavailable available).1 rfl

theorem mem_delete {db : Database} {protectionId : Uuid} {protection : RecordingProtection}
    (member : protection ∈ (RecordingProtectionService.delete db protectionId).protections) :
    protection ∈ db.protections := (Table.mem_remove.mp member).1

theorem Safe.step (safe : Safe world) (step : OrderlyStep env uuid4 world action world') : Safe world' := by
  obtain ⟨step, orderly⟩ := step
  cases step with
  | checkCreate => exact safe
  | checkUpdate => exact safe
  | @commitProtection job change db checked isWritten =>
    have frame := RecordingProtectionService.write_frame isWritten
    have sameStates (id : Uuid) : StorageWorld.stateAt db id = stateAt world id := by
      rw [frame]
      rfl
    have kept : Safe (world.setDb db) := by
      refine safe.kept (fun other execution running isChecked protects => ?_) fun id available => ?_
      · exact absurd ⟨job, other, execution, rfl, running, isChecked, protects⟩ orderly
      · exact (sameStates id).symm.trans available
    exact kept
  | rollbackProtection => exact safe
  | @removeProtection protectionId =>
    have weakens : Weakens world.db world.clock (RecordingProtectionService.delete world.db protectionId)
        world.clock := weakens_of_protections rfl (fun _ => mem_delete) (le_refl _)
    exact safe.kept (fun _ _ _ _ => Protected.of_weakens weakens) fun _ available => available
  | evaluate idle evaluated =>
    refine safe.setPurge _ fun execution isOwn => ?_
    cases isOwn
    rw [if_pos rfl]
    exact not_protected_of_start evaluated
  | @commitDeleting job locationId filePath running =>
    refine safe.giveUp job locationId (givesUp_deleting world.clock) _ _ fun execution isOwn => ?_
    cases isOwn
    exact ⟨PurgeStage.noConfusion, rfl⟩
  | @unlink job locationId filePath failed running =>
    refine safe.setPurge _ fun execution isOwn => ?_
    have known := safe job _ running
    cases isOwn
    cases failed <;> exact known
  | @commitFailed job locationId filePath running =>
    exact safe.giveUp job locationId (givesUp_failed "retention_delete_failed" world.clock) _ none (by simp)
  | @commitDeleted job locationId filePath db result running finished =>
    obtain rfl := StorageWorld.finish_cases finished
    exact safe.giveUp job locationId (givesUp_deleted world.clock) _ none (by simp)
  | stop => exact safe.setPurge _ (by simp)
  | @tick later forward =>
    have weakens : Weakens world.db world.clock world.db later :=
      weakens_of_protections rfl (fun _ member => member) forward
    exact safe.kept (fun _ _ _ _ => Protected.of_weakens weakens) fun _ available => available

/-! ## Available copies of protected segments -/

variable {location : RecordingLocation} {segment : RecordingSegment} {protection : RecordingProtection}

/-- The copy is stored as it is, and its segment. -/
structure Stored (location : RecordingLocation) (segment : RecordingSegment) (db : Database) : Prop where
  isLocation : db.locations.get? location.id = some location
  isSegment : db.segments.get? location.recordingSegmentId = some segment

theorem Stored.modify {db : Database} (stored : Stored location segment db) {id : Uuid} (differs : location.id ≠ id)
    (f : RecordingLocation → RecordingLocation) (keeps : ∀ row, (f row).id = row.id) :
    Stored location segment (db.modifyLocation id f keeps) :=
  ⟨(Table.get?_modify_ne db.locations differs f keeps).trans stored.isLocation, stored.isSegment⟩

theorem Stored.protections {db db' : Database} (stored : Stored location segment db)
    (frame : db' = { db with protections := db'.protections }) : Stored location segment db' := by
  rw [frame]
  exact ⟨stored.isLocation, stored.isSegment⟩

/-- A step leaves an available copy of a protected segment alone. -/
theorem Stored.step (stored : Stored location segment world.db) (safe : Safe world)
    (available : location.state = .available) (protects : isProtected world.db segment world.clock)
    (step : Step env uuid4 world action world') : Stored location segment world'.db := by
  have isAvailable : stateAt world location.id = some .available := by
    rw [stateAt, StorageWorld.stateAt, stored.isLocation, Option.map_some, available]
  have evaluated {job id : Uuid} {filePath : String}
      (running : world.purges job = some { locationId := id, filePath, stage := .checked }) : location.id ≠ id := by
    rintro rfl
    exact safe job _ running ⟨location, segment, stored.isLocation, stored.isSegment, protects⟩
  have givenUp {job : Uuid} {execution : PurgeExecution} (running : world.purges job = some execution)
      (later : execution.stage ≠ .checked) : location.id ≠ execution.locationId := by
    intro same
    have known := safe job execution running
    rw [if_neg later, ← same] at known
    exact known isAvailable
  cases step with
  | commitProtection checked isWritten => exact stored.protections (RecordingProtectionService.write_frame isWritten)
  | commitDeleting running => exact stored.modify (evaluated running) _ _
  | commitFailed running => exact stored.modify (givenUp running PurgeStage.noConfusion) _ _
  | commitDeleted running finished =>
    obtain rfl := StorageWorld.finish_cases finished
    exact stored.modify (givenUp running PurgeStage.noConfusion) _ _
  | removeProtection => exact ⟨stored.isLocation, stored.isSegment⟩
  | _ => exact stored

/-- The protection is committed, not removed and not expired. -/
def InForce (protection : RecordingProtection) (world : ProtectionWorld) : Prop :=
  protection ∈ world.db.protections ∧ protection.expiresAt.all fun expires => world.clock < expires

/-- The protection's range meets the segment. -/
def Covers (protection : RecordingProtection) (segment : RecordingSegment) : Prop :=
  protection.cameraId = segment.cameraId ∧ protection.startedAt < segment.endedAt ∧
    segment.startedAt < protection.endedAt

theorem InForce.isProtected (inForce : InForce protection world) (covers : Covers protection segment) :
    isProtected world.db segment world.clock := by
  simp only [RetentionPlanner.isProtected, List.any_eq_true, decide_eq_true_eq]
  exact ⟨protection, inForce.1, covers.1, covers.2.1, covers.2.2, inForce.2⟩

/-- In every run in which no protection overtakes an evaluated deletion, a copy that is available when a
    protection of its segment is in force remains so as long as the protection is. -/
theorem protected_copy_stays {start final : ProtectionWorld} {before after : List ProtectionAction}
    (idle : ∀ job, start.purges job = none) (reached : Run (OrderlyStep env uuid4) start before world)
    (stored : Stored location segment world.db) (available : location.state = .available)
    (covers : Covers protection segment) (inForce : InForce protection world)
    (run : Run (fun world action world' => OrderlyStep env uuid4 world action world' ∧ InForce protection world')
      world after final) :
    final.db.locations.get? location.id = some location := by
  have preserved (world : ProtectionWorld) (action : ProtectionAction) (world' : ProtectionWorld)
      (safe : Safe world) (step : OrderlyStep env uuid4 world action world') : Safe world' := safe.step step
  have startSafe : Safe start := by
    intro job execution running
    rw [idle] at running
    cases running
  have kept (world : ProtectionWorld) (action : ProtectionAction) (world' : ProtectionWorld)
      (known : Safe world ∧ InForce protection world ∧ Stored location segment world.db)
      (step : OrderlyStep env uuid4 world action world' ∧ InForce protection world') :
      Safe world' ∧ InForce protection world' ∧ Stored location segment world'.db := by
    obtain ⟨safe, inForce, stored⟩ := known
    exact ⟨safe.step step.1, step.2, stored.step safe available (inForce.isProtected covers) step.1.1⟩
  exact (run.invariant kept ⟨reached.invariant preserved startSafe, inForce, stored⟩).2.2.isLocation

/-! ## A protection between an evaluation and its commit -/

def evidence : RecordingSegment :=
  { id := 2, cameraId := 3, startedAt := 0, endedAt := 600000000, durationMs := 600000
    timingStatus := .final, timingSource := .nextSegmentBoundary }

/-- A camera with one recording that is due. -/
def dueWorld : ProtectionWorld where
  db := { StorageWorld.purgeDatabase StorageWorld.purgeLocal with cameras := ⟨[{ id := 3 }], List.nodup_singleton _⟩ }
  clock := days 9

def keepEvidence : ProtectionRequest := { startedAt := 0, endedAt := 600000000, reason := "evidence" }

def evidenceProtection : RecordingProtection := RecordingProtectionService.newProtection 3 keepEvidence 1

/-- The protection is checked and committed. -/
def protectedFrom (world : ProtectionWorld) : ProtectionWorld :=
  ((world.setRequest 2 (some (.insert 3 keepEvidence))).setDb
    (RecordingProtectionService.insert .counting world.db 3 keepEvidence)).setRequest 2 none

def evaluatedWorld : ProtectionWorld :=
  dueWorld.setPurge 1 (some { locationId := 4, filePath := "/rec/a.mp4", stage := .checked })

/-- The evaluated deletion commits `DELETING`. -/
def deletingWorld : ProtectionWorld :=
  ((protectedFrom evaluatedWorld).setDb ((protectedFrom evaluatedWorld).db.modifyLocation 4
    (LocalRetentionDeletionService.deleting (days 9)))).setPurge 1
      (some { locationId := 4, filePath := "/rec/a.mp4", stage := .unlinking })

def unlinkedWorld : ProtectionWorld :=
  deletingWorld.setPurge 1 (some { locationId := 4, filePath := "/rec/a.mp4", stage := .unlinked })

def deletedWorld : ProtectionWorld :=
  (unlinkedWorld.setDb (unlinkedWorld.db.modifyLocation 4
    (LocalRetentionDeletionService.deleted (days 9)))).setPurge 1 none

theorem stored_evidence {world : ProtectionWorld} (same : world.db.locations = dueWorld.db.locations)
    (sameSegments : world.db.segments = dueWorld.db.segments) :
    Stored StorageWorld.purgeLocal evidence world.db := by
  refine ⟨?_, ?_⟩
  · rw [same]
    rfl
  · rw [sameSegments]
    rfl

theorem covers_evidence : Covers evidenceProtection evidence := by
  unfold Covers
  decide

/-- The copy is available when the protection commits, and deleted while it is in force. -/
theorem overtaken_deletion_deletes :
    (∀ job, dueWorld.purges job = none) ∧
    Run (Step StorageWorld.plainEnv .counting) dueWorld
      [.evaluate 1 4 false, .checkCreate 2 3 keepEvidence, .commitProtection 2] (protectedFrom evaluatedWorld) ∧
    Stored StorageWorld.purgeLocal evidence (protectedFrom evaluatedWorld).db ∧
    StorageWorld.purgeLocal.state = .available ∧ Covers evidenceProtection evidence ∧
    InForce evidenceProtection (protectedFrom evaluatedWorld) ∧
    Run (fun world action world' => Step StorageWorld.plainEnv .counting world action world' ∧
        InForce evidenceProtection world') (protectedFrom evaluatedWorld)
      [.commitDeleting 1, .unlink 1 false, .commitDeleted 1] deletedWorld ∧
    stateAt deletedWorld 4 = some .deleted := by
  have inForce {world : ProtectionWorld}
      (same : world.db.protections = (protectedFrom evaluatedWorld).db.protections) :
      InForce evidenceProtection world := by
    refine ⟨?_, rfl⟩
    rw [same]
    exact List.mem_singleton_self _
  refine ⟨fun _ => rfl, ?_, stored_evidence rfl rfl, rfl, covers_evidence, inForce rfl, ?_, rfl⟩
  · refine .next (.evaluate rfl rfl) ?_
    refine .next (.checkCreate rfl rfl) ?_
    exact .next (.commitProtection rfl rfl) (.done _)
  · refine .next ⟨.commitDeleting rfl, inForce rfl⟩ ?_
    refine .next ⟨.unlink rfl, inForce rfl⟩ ?_
    exact .next ⟨.commitDeleted rfl rfl, inForce rfl⟩ (.done _)

/-- Protected before any deletion is evaluated, the copy stays. -/
theorem protected_evidence_stays :
    (protectedFrom dueWorld).db.locations.get? 4 = some StorageWorld.purgeLocal := by
  have inForce : InForce evidenceProtection (protectedFrom dueWorld) := ⟨List.mem_singleton_self _, rfl⟩
  have reached : Run (OrderlyStep StorageWorld.plainEnv .counting) dueWorld
      [.checkCreate 2 3 keepEvidence, .commitProtection 2] (protectedFrom dueWorld) := by
    refine .next ⟨.checkCreate rfl rfl, ?_⟩ (.next ⟨.commitProtection rfl rfl, ?_⟩ (.done _))
    · rintro ⟨job, other, execution, _, running, _⟩
      cases running
    · rintro ⟨job, other, execution, _, running, _⟩
      cases running
  have run : Run (fun world action world' => OrderlyStep StorageWorld.plainEnv .counting world action world' ∧
      InForce evidenceProtection world') (protectedFrom dueWorld) [.tick (days 9)] (protectedFrom dueWorld) := by
    refine .next ⟨⟨.tick (le_refl _), ?_⟩, inForce⟩ (.done _)
    rintro ⟨job, other, execution, same, _⟩
    cases same
  exact protected_copy_stays (fun _ => rfl) reached (stored_evidence rfl rfl) rfl covers_evidence inForce run

end ProtectionWorld

end ZeroNvr
