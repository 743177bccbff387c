import ZeroNvr.Storage.Executions

/-! # Archive before delete

Under a policy that requires an archive copy, a local copy becomes `DELETING`
only while a verified archive copy exists, and stays under the care of the one
execution that set it.  From then on nothing but a failure recorded by an archive
execution with a stale plan can take the archive copy away
(`OverwritesArchive`), so every run without such a step keeps an archive copy of
each deleted recording.
-/

namespace ZeroNvr.StorageWorld

open Lib RetentionPlanner

/-! ## What a transaction leaves of the catalog -/

/-- Only location rows change, and no row leaves its segment or its target. -/
structure Evolves (db db' : Database) : Prop where
  others : db' = { db with locations := db'.locations }
  rows : ∀ id row, db.locations.get? id = some row → ∃ row', db'.locations.get? id = some row' ∧
    row'.recordingSegmentId = row.recordingSegmentId ∧ row'.storageTargetId = row.storageTargetId

theorem Evolves.refl (db : Database) : Evolves db db := ⟨rfl, fun _ row found => ⟨row, found, rfl, rfl⟩⟩

theorem evolves_modify (db : Database) (id : Uuid) (f : RecordingLocation → RecordingLocation)
    (keeps : ∀ row, (f row).id = row.id)
    (identity : ∀ row, (f row).recordingSegmentId = row.recordingSegmentId ∧
      (f row).storageTargetId = row.storageTargetId) :
    Evolves db (db.modifyLocation id f keeps) := by
  refine ⟨rfl, fun other row found => ?_⟩
  rw [Database.modifyLocation, Table.get?_modify, found]
  split
  · exact ⟨f row, rfl, identity row⟩
  · exact ⟨row, rfl, rfl, rfl⟩

theorem evolves_insert {db : Database} {new : RecordingLocation} {locations : Table RecordingLocation}
    (inserted : db.locations.insert? new = some locations) : Evolves db { db with locations } := by
  exact ⟨rfl, fun id row found => ⟨row, Table.get?_insert?_of_get? inserted found, rfl, rfl⟩⟩

/-- The location is on a target of the given kind. -/
def OnTarget (db : Database) (kind : StorageTarget → Bool) (id : Uuid) : Prop :=
  ∃ row, db.locations.get? id = some row ∧ (db.storageTargets.get? row.storageTargetId).any kind

theorem OnTarget.evolves {db db' : Database} {kind : StorageTarget → Bool} {id : Uuid}
    (onTarget : OnTarget db kind id) (evolves : Evolves db db') : OnTarget db' kind id := by
  obtain ⟨row, found, onKind⟩ := onTarget
  obtain ⟨row', found', _, sameTarget⟩ := evolves.rows id row found
  refine ⟨row', found', ?_⟩
  rw [evolves.others, sameTarget]
  exact onKind

/-- No location is on a recording target and on an archive target. -/
theorem OnTarget.ne {db : Database} {id other : Uuid} (onRecording : OnTarget db isRecordingTarget id)
    (onArchive : OnTarget db isArchiveTarget other) : id ≠ other := by
  rintro rfl
  obtain ⟨row, found, isRecording⟩ := onRecording
  obtain ⟨row', found', isArchive⟩ := onArchive
  obtain rfl : row = row' := Option.some.inj (found.symm.trans found')
  cases target : db.storageTargets.get? row.storageTargetId with
  | none => simp [target] at isRecording
  | some target' =>
    simp only [target, Option.any_some, isRecordingTarget, isArchiveTarget, decide_eq_true_eq]
      at isRecording isArchive
    rw [isRecording.1] at isArchive
    cases isArchive.1

/-! ## Archive copies -/

/-- The row is a verified copy of the segment on an archive target. -/
def IsArchiveCopy (db : Database) (segmentId : Uuid) (row : RecordingLocation) : Prop :=
  row.recordingSegmentId = segmentId ∧ row.state = .available ∧ row.verifiedAt.isSome ∧
    (db.storageTargets.get? row.storageTargetId).any isArchiveTarget

theorem availableArchiveExists_iff {db : Database} {segmentId : Uuid} :
    availableArchiveExists db segmentId ↔
      ∃ id row, db.locations.get? id = some row ∧ IsArchiveCopy db segmentId row := by
  simp only [availableArchiveExists, List.any_eq_true, decide_eq_true_eq]
  constructor
  · rintro ⟨row, member, copy⟩
    exact ⟨_, row, Table.get?_of_mem member, copy⟩
  · rintro ⟨_, row, found, copy⟩
    exact ⟨row, Table.mem_of_get? found, copy⟩

/-- A change of one row keeps the archive copies unless it takes one away itself. -/
theorem availableArchiveExists_modify {db : Database} {segmentId : Uuid} (id : Uuid)
    (f : RecordingLocation → RecordingLocation) (keeps : ∀ row, (f row).id = row.id)
    (stays : ∀ row, db.locations.get? id = some row → IsArchiveCopy db segmentId row →
      IsArchiveCopy db segmentId (f row)) (exist : availableArchiveExists db segmentId) :
    availableArchiveExists (db.modifyLocation id f keeps) segmentId := by
  rw [availableArchiveExists_iff] at exist ⊢
  obtain ⟨copyId, row, found, copy⟩ := exist
  by_cases same : copyId = id
  · subst same
    exact ⟨copyId, f row, by rw [Database.modifyLocation, Table.get?_modify, if_pos rfl, found]; rfl, stays row found copy⟩
  · exact ⟨copyId, row, by rw [Database.modifyLocation, Table.get?_modify, if_neg same, found], copy⟩

theorem availableArchiveExists_insert {db : Database} {segmentId : Uuid} {new : RecordingLocation}
    {locations : Table RecordingLocation} (inserted : db.locations.insert? new = some locations)
    (exist : availableArchiveExists db segmentId) :
    availableArchiveExists { db with locations } segmentId := by
  rw [availableArchiveExists_iff] at exist ⊢
  obtain ⟨copyId, row, found, copy⟩ := exist
  exact ⟨copyId, row, Table.get?_insert?_of_get? inserted found, copy⟩

/-- A row on a recording target is no archive copy. -/
theorem OnTarget.not_archiveCopy {db : Database} {id segmentId : Uuid} {row : RecordingLocation}
    (onRecording : OnTarget db isRecordingTarget id) (found : db.locations.get? id = some row) :
    ¬ IsArchiveCopy db segmentId row :=
  fun copy => onRecording.ne ⟨row, found, copy.2.2.2⟩ rfl

/-! ## The state of a location -/

def stateAt (db : Database) (id : Uuid) : Option LocationState :=
  (db.locations.get? id).map RecordingLocation.state

theorem stateAt_modify_ne (db : Database) {id other : Uuid} (differs : id ≠ other)
    (f : RecordingLocation → RecordingLocation) (keeps : ∀ row, (f row).id = row.id) :
    stateAt (db.modifyLocation other f keeps) id = stateAt db id := by
  simp only [stateAt, Database.modifyLocation]
  rw [Table.get?_modify_ne _ differs]

theorem stateAt_modify_self {db : Database} {id : Uuid} {row : RecordingLocation}
    (found : db.locations.get? id = some row)
    (f : RecordingLocation → RecordingLocation) (keeps : ∀ row, (f row).id = row.id) :
    stateAt (db.modifyLocation id f keeps) id = some (f row).state := by
  simp only [stateAt, Database.modifyLocation]
  rw [Table.get?_modify_self found]
  rfl

theorem stateAt_insert {db : Database} {new : RecordingLocation} {locations : Table RecordingLocation}
    (inserted : db.locations.insert? new = some locations) {id : Uuid} {row : RecordingLocation}
    (found : db.locations.get? id = some row) : stateAt { db with locations } id = stateAt db id := by
  simp only [stateAt]
  rw [Table.get?_insert?_of_get? inserted found, found]

/-! ## The transactions of an archive execution -/

/-- What `prepare` does when it returns a plan. -/
structure PrepareEffect (db db' : Database) (plan : ArchivePlan) : Prop where
  evolves : Evolves db db'
  remote : OnTarget db' isArchiveTarget plan.remoteLocationId
  source : OnTarget db' isRecordingTarget plan.sourceLocationId
  archives : ∀ segmentId, availableArchiveExists db segmentId → availableArchiveExists db' segmentId
  locals : ∀ id, OnTarget db isRecordingTarget id → stateAt db' id = stateAt db id

theorem claimRow_cases {db db' : Database} {existing : Option RecordingLocation} {verifyExisting : Bool}
    {new : RecordingLocation} {now : Int} {id : Uuid}
    (claimed : ArchiveLifecycleService.claimRow db existing verifyExisting new now = .ok (db', id)) :
    (existing = none ∧ id = new.id ∧
      ∃ locations, db.locations.insert? new = some locations ∧ db' = { db with locations }) ∨
    ∃ row, existing = some row ∧ id = row.id ∧ db' =
      db.modifyLocation row.id (ArchiveLifecycleService.reclaimed verifyExisting new.sizeBytes now) := by
  unfold ArchiveLifecycleService.claimRow at claimed
  cases existing with
  | none =>
    dsimp only at claimed
    split at claimed
    next locations inserted =>
      cases claimed
      exact .inl ⟨rfl, rfl, locations, inserted, rfl⟩
    next => cases claimed
  | some row =>
    cases claimed
    exact .inr ⟨row, rfl, rfl, rfl⟩

theorem locationAt_some {db : Database} {targetId : Uuid} {objectPath : String} {row : RecordingLocation}
    (found : ArchiveLifecycleService.locationAt db targetId objectPath = some row) :
    db.locations.get? row.id = some row ∧ row.storageTargetId = targetId := by
  obtain ⟨member, matched⟩ := Table.mem_of_first? found
  exact ⟨Table.get?_of_mem member, (of_decide_eq_true matched).1⟩

theorem sourceRow_some {db : Database} {segmentId : Uuid} {source : RecordingLocation}
    {target : StorageTarget} (found : ArchiveLifecycleService.sourceRow db segmentId = some (source, target)) :
    OnTarget db isRecordingTarget source.id := by
  simp only [ArchiveLifecycleService.sourceRow, Option.bind_eq_bind, Option.bind_eq_some_iff,
    Option.some.injEq, Prod.mk.injEq] at found
  obtain ⟨location, first, target', targetFound, rfl, rfl⟩ := found
  have listed := List.mem_of_mem_head? first
  rw [List.mem_insertionSort, Table.mem_select, decide_eq_true_eq] at listed
  obtain ⟨member, _, _, onSource⟩ := listed
  refine ⟨location, Table.get?_of_mem member, ?_⟩
  rw [targetFound] at onSource ⊢
  simp only [Option.any_some, ArchiveLifecycleService.isSourceTarget, Bool.and_eq_true] at onSource ⊢
  exact onSource.1

/-- The remote row is on the archive target, is new or not an archive copy yet unless it is only
    verified, and nothing else changes. -/
theorem claimRow_effect {db db' : Database} {remoteTarget : StorageTarget} {verifyExisting : Bool}
    {existing : Option RecordingLocation} {new : RecordingLocation} {now : Int} {id : Uuid}
    (claimed : ArchiveLifecycleService.claimRow db existing verifyExisting new now = .ok (db', id))
    (targetFound : db.storageTargets.get? new.storageTargetId = some remoteTarget)
    (isArchive : isArchiveTarget remoteTarget)
    (onTarget : ∀ row, existing = some row →
      db.locations.get? row.id = some row ∧ row.storageTargetId = new.storageTargetId)
    (verifies : ∀ row, existing = some row → row.state = .available → verifyExisting = true) :
    Evolves db db' ∧ OnTarget db' isArchiveTarget id ∧
      (∀ segmentId, availableArchiveExists db segmentId → availableArchiveExists db' segmentId) ∧
      (∀ other, OnTarget db isRecordingTarget other → stateAt db' other = stateAt db other) := by
  rcases claimRow_cases claimed with ⟨_, rfl, locations, inserted, rfl⟩ | ⟨row, rfl, rfl, rfl⟩
  · refine ⟨evolves_insert inserted, ⟨new, ?_, ?_⟩, fun _ => availableArchiveExists_insert inserted, ?_⟩
    · exact Table.get?_insert?_self inserted
    · dsimp only
      rw [targetFound]
      exact isArchive
    · rintro other ⟨row, found, _⟩
      exact stateAt_insert inserted found
  · obtain ⟨found, onTarget⟩ := onTarget row rfl
    have onArchive : OnTarget db isArchiveTarget row.id := by
      refine ⟨row, found, ?_⟩
      rw [onTarget, targetFound]
      exact isArchive
    have evolves := evolves_modify db row.id
      (ArchiveLifecycleService.reclaimed verifyExisting new.sizeBytes now) (fun _ => rfl)
      fun _ => ⟨rfl, rfl⟩
    refine ⟨evolves, onArchive.evolves evolves, fun segmentId => ?_, fun other onRecording => ?_⟩
    · refine availableArchiveExists_modify row.id _ _ fun row' found' copy => ?_
      obtain rfl : row = row' := Option.some.inj (found.symm.trans found')
      obtain ⟨ofSegment, available, verified, onArchiveTarget⟩ := copy
      have verifying := verifies row rfl available
      subst verifying
      exact ⟨ofSegment, available, verified, onArchiveTarget⟩
    · exact stateAt_modify_ne db (onRecording.ne onArchive) _ _

theorem prepare_effect {env : StorageEnv} {db db' : Database} {segmentId targetId newId : Uuid} {now : Int}
    {plan : ArchivePlan}
    (prepared : ArchiveLifecycleService.prepare env db segmentId targetId newId now = .ok (db', .plan plan)) :
    PrepareEffect db db' plan := by
  unfold ArchiveLifecycleService.prepare at prepared
  split at prepared
  · cases prepared
  next segment _ =>
  split at prepared
  · cases prepared
  next remoteTarget targetFound =>
  split at prepared
  · cases prepared
  next source sourceTarget sourceFound =>
  dsimp only at prepared
  split at prepared
  · cases prepared
  split at prepared
  · cases prepared
  split at prepared
  · cases prepared
  next notCopied =>
  rw [bind_eq_ok] at prepared
  obtain ⟨resolved, _, prepared⟩ := prepared
  rw [bind_eq_ok] at prepared
  obtain ⟨sourcePath, _, prepared⟩ := prepared
  rw [bind_eq_ok] at prepared
  obtain ⟨⟨claimedDb, remoteLocationId⟩, claimed, prepared⟩ := prepared
  cases prepared
  rw [Option.filter_eq_some_iff, Bool.and_eq_true] at targetFound
  obtain ⟨targetFound, isArchive, _⟩ := targetFound
  obtain rfl := Table.key_of_get? targetFound
  obtain ⟨evolves, remote, archives, locals⟩ := claimRow_effect claimed targetFound isArchive
    (fun row existing => locationAt_some existing) fun row existing available => by
      rw [existing]
      simpa using available
  exact ⟨evolves, remote, (sourceRow_some sourceFound).evolves evolves, archives, locals⟩

/-! ## The invariant of the interleaving -/

/-- The local copy has been given up: its deletion is committed, or about to be. -/
def GivenUp (db : Database) (locationId : Uuid) : Prop :=
  stateAt db locationId = some .deleting ∨ stateAt db locationId = some .deleted

variable {env : StorageEnv} {catalog : Database} {locationId segmentId : Uuid} {world : StorageWorld}

/-- What holds at any time of the local copy `locationId` of the segment. -/
structure Guarded (catalog : Database) (locationId segmentId : Uuid) (world : StorageWorld) : Prop where
  evolves : Evolves catalog world.db
  localCopy : OnTarget world.db isRecordingTarget locationId
  plans : ∀ job execution, world.archives job = some execution →
    OnTarget world.db isArchiveTarget execution.plan.remoteLocationId ∧
      OnTarget world.db isRecordingTarget execution.plan.sourceLocationId
  deletions : ∀ job execution, world.deletions job = some execution →
    OnTarget world.db isRecordingTarget execution.locationId
  deleting : ∀ job execution, world.deletions job = some execution →
    execution.locationId = locationId → stateAt world.db locationId = some .deleting
  single : ∀ job job' execution execution', world.deletions job = some execution →
    world.deletions job' = some execution' → execution.locationId = locationId →
    execution'.locationId = locationId → job = job'
  archived : GivenUp world.db locationId → availableArchiveExists world.db segmentId

theorem Evolves.trans {db db' db'' : Database} (first : Evolves db db') (second : Evolves db' db'') :
    Evolves db db'' := by
  refine ⟨?_, fun id row found => ?_⟩
  · rw [second.others, first.others]
  · obtain ⟨row', found', ofSegment, onTarget⟩ := first.rows id row found
    obtain ⟨row'', found'', ofSegment', onTarget'⟩ := second.rows id row' found'
    exact ⟨row'', found'', ofSegment'.trans ofSegment, onTarget'.trans onTarget⟩

/-- A transaction of an archive execution keeps the invariant when it leaves a local copy that is
    given up, and the archive copies of one, as they are. -/
theorem Guarded.setArchive (guarded : Guarded catalog locationId segmentId world) {db : Database}
    (evolves : Evolves world.db db)
    (state : stateAt db locationId = stateAt world.db locationId ∨
      (stateAt world.db locationId = some .available ∧ stateAt db locationId = some .missing))
    (archives : GivenUp world.db locationId → availableArchiveExists world.db segmentId →
      availableArchiveExists db segmentId)
    (job : Uuid) {execution : Option ArchiveExecution}
    (plan : ∀ started, execution = some started →
      OnTarget db isArchiveTarget started.plan.remoteLocationId ∧
        OnTarget db isRecordingTarget started.plan.sourceLocationId) :
    Guarded catalog locationId segmentId ((world.setDb db).setArchive job execution) where
  evolves := guarded.evolves.trans evolves
  localCopy := guarded.localCopy.evolves evolves
  plans := by
    intro job' execution' running
    simp only [StorageWorld.setArchive, setDb, Function.update_apply] at running
    split at running
    · exact plan execution' running
    · obtain ⟨remote, source⟩ := guarded.plans job' execution' running
      exact ⟨remote.evolves evolves, source.evolves evolves⟩
  deletions := fun job' execution' running => (guarded.deletions job' execution' running).evolves evolves
  deleting := by
    intro job' execution' running same
    have deleting := guarded.deleting job' execution' running same
    rcases state with kept | ⟨available, _⟩
    · exact kept.trans deleting
    · rw [deleting] at available
      cases available
  single := guarded.single
  archived := by
    intro givenUp
    have givenUpBefore : GivenUp world.db locationId := by
      rcases state with kept | ⟨_, missing⟩
      · exact givenUp.imp kept.symm.trans kept.symm.trans
      · rcases givenUp with deleting | deleted
        · cases missing.symm.trans deleting
        · cases missing.symm.trans deleted
    exact archives givenUpBefore (guarded.archived givenUpBefore)

/-- The execution moves on without a transaction. -/
theorem Guarded.moveArchive (guarded : Guarded catalog locationId segmentId world) (job : Uuid)
    {execution : Option ArchiveExecution}
    (plan : ∀ started, execution = some started →
      ∃ before, world.archives job = some before ∧ before.plan = started.plan) :
    Guarded catalog locationId segmentId (world.setArchive job execution) := by
  refine guarded.setArchive (.refl world.db) (.inl rfl) (fun _ => id) job fun started running => ?_
  obtain ⟨before, runningBefore, samePlan⟩ := plan started running
  exact samePlan ▸ guarded.plans job before runningBefore

/-- A transaction of a deletion keeps the invariant when it leaves the archive copies, and of the
    local copy in question changes the state only as its own execution may. -/
theorem Guarded.setDeletion (guarded : Guarded catalog locationId segmentId world) {db : Database}
    (evolves : Evolves world.db db)
    (archives : availableArchiveExists world.db segmentId → availableArchiveExists db segmentId)
    (job : Uuid) {execution : Option DeletionExecution}
    (target : ∀ started, execution = some started → OnTarget db isRecordingTarget started.locationId)
    (others : ∀ job' execution', job' ≠ job → world.deletions job' = some execution' →
      execution'.locationId = locationId →
        stateAt db locationId = stateAt world.db locationId ∧
          ∀ started, execution = some started → started.locationId ≠ locationId)
    (own : ∀ started, execution = some started → started.locationId = locationId →
      stateAt db locationId = some .deleting)
    (givenUp : GivenUp db locationId → availableArchiveExists world.db segmentId) :
    Guarded catalog locationId segmentId ((world.setDb db).setDeletion job execution) where
  evolves := guarded.evolves.trans evolves
  localCopy := guarded.localCopy.evolves evolves
  plans := by
    intro job' execution' running
    obtain ⟨remote, source⟩ := guarded.plans job' execution' running
    exact ⟨remote.evolves evolves, source.evolves evolves⟩
  deletions := by
    intro job' execution' running
    simp only [StorageWorld.setDeletion, setDb, Function.update_apply] at running
    split at running
    · exact target execution' running
    · exact (guarded.deletions job' execution' running).evolves evolves
  deleting := by
    intro job' execution' running same
    simp only [StorageWorld.setDeletion, setDb, Function.update_apply] at running
    split at running
    · exact own execution' running same
    next other =>
      exact (others job' execution' other running same).1.trans
        (guarded.deleting job' execution' running same)
  single := by
    intro left right leftExecution rightExecution leftRunning rightRunning leftSame rightSame
    simp only [StorageWorld.setDeletion, setDb, Function.update_apply] at leftRunning rightRunning
    split at leftRunning <;> split at rightRunning
    next isLeft isRight => exact isLeft.trans isRight.symm
    next isLeft notRight =>
      exact absurd leftSame ((others right rightExecution notRight rightRunning rightSame).2 _ leftRunning)
    next notLeft isRight =>
      exact absurd rightSame ((others left leftExecution notLeft leftRunning leftSame).2 _ rightRunning)
    next => exact guarded.single left right _ _ leftRunning rightRunning leftSame rightSame
  archived := fun isGivenUp => archives (givenUp isGivenUp)

/-! ## One step -/

/-- A failure is recorded on a verified archive copy of the segment while the local copy is given
    up: the execution prepared its plan before another one finished the copy. -/
def OverwritesArchive (locationId segmentId : Uuid) (world : StorageWorld) (action : StorageAction) : Prop :=
  GivenUp world.db locationId ∧ ∃ job now execution row, action = .markFailed job now ∧
    world.archives job = some execution ∧
    world.db.locations.get? execution.plan.remoteLocationId = some row ∧ IsArchiveCopy world.db segmentId row

theorem start_cases {db db' : Database} {id : Uuid} {pressure : Bool} {now : Int} {filePath : String}
    (started : LocalRetentionDeletionService.start env db id pressure now = .ok (db', .deleting filePath)) :
    ∃ location decision, db.locations.get? id = some location ∧ location.state = .available ∧
      evaluate db location now pressure = .ok decision ∧ decision.eligibleForDelete ∧
      db' = db.modifyLocation id (LocalRetentionDeletionService.deleting now) := by
  unfold LocalRetentionDeletionService.start at started
  split at started
  · cases started
  next location found =>
  dsimp only at started
  split at started
  · cases started
  split at started
  · cases started
  next available =>
  rw [bind_eq_ok] at started
  obtain ⟨decision, evaluated, started⟩ := started
  split at started
  · cases started
  next eligible =>
  split at started
  · cases started
  rw [bind_eq_ok] at started
  obtain ⟨path, _, started⟩ := started
  cases started
  have sameId : location.id = id := Table.key_of_get? found
  exact ⟨location, decision, found, not_not.mp available, evaluated, not_not.mp eligible, by rw [sameId]⟩

/-- The policy in force for the segment requires an archive copy before a deletion. -/
def RequiresArchive (catalog : Database) (segmentId : Uuid) : Prop :=
  ∀ segment policy, catalog.segments.get? segmentId = some segment →
    policyForCamera catalog segment.cameraId = .ok (some policy) → policy.requireArchiveBeforeDelete

theorem eligible_has_archive (required : RequiresArchive catalog segmentId) {db : Database}
    (evolves : Evolves catalog db) {location : RecordingLocation} {pressure : Bool} {now : Int}
    {decision : RetentionDecision} (ofSegment : location.recordingSegmentId = segmentId)
    (evaluated : evaluate db location now pressure = .ok decision) (eligible : decision.eligibleForDelete) :
    availableArchiveExists db segmentId := by
  obtain ⟨segment, policy, _, gates⟩ := evaluate_eligible evaluated eligible
  have segmentFound := gates.segment_found
  have policyFound := gates.policy_found
  rw [evolves.others] at segmentFound policyFound
  rw [ofSegment] at segmentFound
  have archived := gates.archived (required segment policy segmentFound policyFound)
  rwa [show segment.id = segmentId from Table.key_of_get? segmentFound] at archived

/-- A change of one row on a recording target, with the archive copies untouched. -/
theorem archives_modify_local {db : Database} {id : Uuid} (onRecording : OnTarget db isRecordingTarget id)
    (f : RecordingLocation → RecordingLocation) (keeps : ∀ row, (f row).id = row.id)
    (exist : availableArchiveExists db segmentId) :
    availableArchiveExists (db.modifyLocation id f keeps) segmentId :=
  availableArchiveExists_modify id f keeps
    (fun _ found copy => absurd copy (onRecording.not_archiveCopy found)) exist

theorem Guarded.setFiles (guarded : Guarded catalog locationId segmentId world) (files : String → Option Int) :
    Guarded catalog locationId segmentId { world with files } :=
  ⟨guarded.evolves, guarded.localCopy, guarded.plans, guarded.deletions, guarded.deleting, guarded.single,
    guarded.archived⟩

/-- The deletion moves on without a transaction. -/
theorem Guarded.moveDeletion (guarded : Guarded catalog locationId segmentId world) {job : Uuid}
    {before after : DeletionExecution} (running : world.deletions job = some before)
    (sameLocation : after.locationId = before.locationId) :
    Guarded catalog locationId segmentId (world.setDeletion job (some after)) := by
  refine guarded.setDeletion (.refl world.db) id job ?_ ?_ ?_ guarded.archived
  · intro started isStarted
    cases isStarted
    exact sameLocation ▸ guarded.deletions job before running
  · intro job' execution' other running' same'
    refine ⟨rfl, fun started isStarted same => other ?_⟩
    cases isStarted
    exact guarded.single job' job _ _ running' running same' (sameLocation.symm.trans same)
  · intro started isStarted same
    cases isStarted
    exact guarded.deleting job before running (sameLocation.symm.trans same)

/-- The last transaction of a deletion, whatever it makes of the row. -/
theorem Guarded.endDeletion (guarded : Guarded catalog locationId segmentId world) {job : Uuid}
    {execution : DeletionExecution} (running : world.deletions job = some execution)
    (f : RecordingLocation → RecordingLocation) (keeps : ∀ row, (f row).id = row.id)
    (identity : ∀ row, (f row).recordingSegmentId = row.recordingSegmentId ∧
      (f row).storageTargetId = row.storageTargetId) :
    Guarded catalog locationId segmentId
      ((world.setDb (world.db.modifyLocation execution.locationId f keeps)).setDeletion job none) := by
  refine guarded.setDeletion (evolves_modify _ _ f keeps identity)
    (archives_modify_local (guarded.deletions job execution running) f keeps) job
    (fun _ isStarted => by cases isStarted) ?_ (fun _ isStarted => by cases isStarted) ?_
  · intro job' execution' other running' same'
    have differs : locationId ≠ execution.locationId := fun same =>
      other (guarded.single job' job _ _ running' running same' same.symm)
    exact ⟨stateAt_modify_ne _ differs _ _, fun _ isStarted => by cases isStarted⟩
  · intro givenUp
    by_cases same : locationId = execution.locationId
    · exact guarded.archived (.inl (guarded.deleting job execution running same.symm))
    · have kept := stateAt_modify_ne world.db same f keeps
      exact guarded.archived (givenUp.imp kept.symm.trans kept.symm.trans)

theorem Guarded.step {location : RecordingLocation} (found : catalog.locations.get? locationId = some location)
    (ofSegment : location.recordingSegmentId = segmentId) (required : RequiresArchive catalog segmentId)
    (guarded : Guarded catalog locationId segmentId world) {action : StorageAction} {world' : StorageWorld}
    (stepped : Step env world action world') (notStale : ¬ OverwritesArchive locationId segmentId world action) :
    Guarded catalog locationId segmentId world' := by
  cases stepped with
  | prepare idle prepared =>
    have effect := prepare_effect prepared
    refine guarded.setArchive effect.evolves (.inl (effect.locals _ guarded.localCopy))
      (fun _ => effect.archives _) _ fun started isStarted => ?_
    cases isStarted
    exact ⟨effect.remote, effect.source⟩
  | checkSource running =>
    exact guarded.moveArchive _ fun started isStarted => ⟨_, running, by cases isStarted; rfl⟩
  | copyToRemote running =>
    exact guarded.moveArchive _ fun started isStarted => ⟨_, running, by cases isStarted; rfl⟩
  | statRemote running =>
    exact guarded.moveArchive _ fun started isStarted => ⟨_, running, by cases isStarted; rfl⟩
  | @markSourceMissing job plan now running =>
    obtain ⟨remote, source⟩ := guarded.plans job _ running
    have evolves := evolves_modify world.db plan.sourceLocationId (ArchiveLifecycleService.sourceMissing now)
      (fun _ => rfl) fun _ => ⟨rfl, rfl⟩
    refine guarded.setArchive evolves ?_ (fun _ => archives_modify_local source _ _) _ fun started isStarted => ?_
    · by_cases same : locationId = plan.sourceLocationId
      · obtain ⟨row, rowFound, _⟩ := guarded.localCopy
        have after := stateAt_modify_self rowFound (ArchiveLifecycleService.sourceMissing now) fun _ => rfl
        have before : stateAt world.db locationId = some row.state := by rw [stateAt, rowFound]; rfl
        rw [same] at after before ⊢
        by_cases available : row.state = .available
        · refine .inr ⟨before.trans (congrArg some available), after.trans ?_⟩
          simp [ArchiveLifecycleService.sourceMissing, available]
        · refine .inl (after.trans (Eq.trans ?_ before.symm))
          simp [ArchiveLifecycleService.sourceMissing, available]
      · exact .inl (stateAt_modify_ne _ same _ _)
    · cases isStarted
      exact ⟨remote.evolves evolves, source.evolves evolves⟩
  | @markFailed job plan errorCode now running =>
    obtain ⟨remote, source⟩ := guarded.plans job _ running
    have evolves := evolves_modify world.db plan.remoteLocationId (.failed errorCode now)
      (fun _ => rfl) fun _ => ⟨rfl, rfl⟩
    refine guarded.setArchive evolves
      (.inl (stateAt_modify_ne _ (guarded.localCopy.ne remote) _ _)) ?_ _ fun _ isStarted => by cases isStarted
    intro givenUp
    refine availableArchiveExists_modify _ _ _ fun row rowFound copy => ?_
    exact absurd ⟨givenUp, job, now, _, row, rfl, running, rowFound, copy⟩ notStale
  | @markAvailable job plan now db running marked =>
    obtain ⟨remote, source⟩ := guarded.plans job _ running
    unfold ArchiveLifecycleService.markAvailable at marked
    split at marked
    · cases marked
    cases marked
    have evolves := evolves_modify world.db plan.remoteLocationId
      (ArchiveLifecycleService.madeAvailable plan.expectedSize now) (fun _ => rfl) fun _ => ⟨rfl, rfl⟩
    refine guarded.setArchive evolves
      (.inl (stateAt_modify_ne _ (guarded.localCopy.ne remote) _ _)) ?_ _ fun _ isStarted => by cases isStarted
    intro _
    exact availableArchiveExists_modify _ _ _ fun row _ copy => ⟨copy.1, rfl, rfl, copy.2.2.2⟩
  | stopArchive => exact guarded.moveArchive _ fun _ isStarted => by cases isStarted
  | @startDeletion job started pressure now db filePath idle isStarted =>
    obtain ⟨row, decision, rowFound, available, evaluated, eligible, rfl⟩ := start_cases isStarted
    have onRecording : OnTarget world.db isRecordingTarget started := by
      obtain ⟨_, _, _, gates⟩ := evaluate_eligible evaluated eligible
      have localAvailable := gates.local_available
      rw [isLocalAvailable, decide_eq_true_eq] at localAvailable
      exact ⟨row, rowFound, localAvailable.2⟩
    have evolves := evolves_modify world.db started (LocalRetentionDeletionService.deleting now)
      (fun _ => rfl) fun _ => ⟨rfl, rfl⟩
    have after := stateAt_modify_self rowFound (LocalRetentionDeletionService.deleting now) fun _ => rfl
    refine guarded.setDeletion evolves (archives_modify_local onRecording _ _) job ?_ ?_ ?_ ?_
    · intro execution isExecution
      cases isExecution
      exact onRecording.evolves evolves
    · intro job' execution' _ running' same
      -- Another deletion of the same copy would have left it `DELETING` already.
      have deleting := guarded.deleting job' execution' running' same
      have differs : locationId ≠ started := by
        rintro rfl
        rw [stateAt, rowFound, Option.map_some, available] at deleting
        cases deleting
      refine ⟨stateAt_modify_ne _ differs _ _, fun execution isExecution sameStarted => ?_⟩
      cases isExecution
      exact differs sameStarted.symm
    · intro execution isExecution same
      cases isExecution
      cases same
      exact after
    · intro givenUp
      by_cases same : locationId = started
      · subst same
        obtain ⟨row', rowFound', sameSegment, _⟩ := guarded.evolves.rows _ _ found
        obtain rfl : row = row' := Option.some.inj (rowFound.symm.trans rowFound')
        exact eligible_has_archive required guarded.evolves (sameSegment.trans ofSegment) evaluated eligible
      · have kept := stateAt_modify_ne world.db same (LocalRetentionDeletionService.deleting now) fun _ => rfl
        exact guarded.archived (givenUp.imp kept.symm.trans kept.symm.trans)
  | unlinked running => exact (guarded.setFiles _).moveDeletion running rfl
  | unlinkFailed running => exact guarded.moveDeletion running rfl
  | markDeletionFailed running => exact guarded.endDeletion running _ _ fun _ => ⟨rfl, rfl⟩
  | finishDeletion running finished =>
    unfold LocalRetentionDeletionService.finish at finished
    split at finished
    · cases finished
    cases finished
    exact guarded.endDeletion running _ _ fun _ => ⟨rfl, rfl⟩
  | @stopDeletion job =>
    refine guarded.setDeletion (.refl world.db) id job (fun _ isStarted => by cases isStarted) ?_
      (fun _ isStarted => by cases isStarted) guarded.archived
    exact fun _ _ _ _ _ => ⟨rfl, fun _ isStarted => by cases isStarted⟩

/-! ## Runs -/

/-- In a run without a stale failure, a deleted local copy has left an archive copy behind, at any
    time: every state of a run ends a shorter run. -/
theorem deleted_has_archive (env : StorageEnv) (start world : StorageWorld) (actions : List StorageAction)
    (locationId : Uuid) (location : RecordingLocation)
    (found : start.db.locations.get? locationId = some location)
    (available : isLocalAvailable start.db location)
    (required : RequiresArchive start.db location.recordingSegmentId)
    (archivesIdle : ∀ job, start.archives job = none) (deletionsIdle : ∀ job, start.deletions job = none)
    (run : Run (fun before action after => Step env before action after ∧
      ¬ OverwritesArchive locationId location.recordingSegmentId before action) start actions world) :
    stateAt world.db locationId = some .deleted →
      availableArchiveExists world.db location.recordingSegmentId := by
  rw [isLocalAvailable, decide_eq_true_eq] at available
  have startState : stateAt start.db locationId = some .available := by
    rw [stateAt, found, Option.map_some, available.1]
  have startGuarded : Guarded start.db locationId location.recordingSegmentId start :=
    { evolves := .refl start.db
      localCopy := ⟨location, found, available.2⟩
      plans := fun job _ running => by rw [archivesIdle] at running; cases running
      deletions := fun job _ running => by rw [deletionsIdle] at running; cases running
      deleting := fun job _ running => by rw [deletionsIdle] at running; cases running
      single := fun job _ _ _ running => by rw [deletionsIdle] at running; cases running
      archived := by
        rintro (deleting | deleted)
        · cases startState.symm.trans deleting
        · cases startState.symm.trans deleted }
  have guarded := run.invariant
    (fun before action after guarded stepped => guarded.step found rfl required stepped.1 stepped.2)
    startGuarded
  exact fun deleted => guarded.archived (.inr deleted)

/-! ## Two executions of one transfer -/

/-- A root and a path joined, and a remote that needs no secret. -/
def plainEnv : StorageEnv :=
  { resolveRclone := fun _ => .ok { configText := "", objectPath := id }
    resolveWithin := fun root path => some (root ++ "/" ++ path) }

def raceLocal : RecordingLocation :=
  { id := 4, recordingSegmentId := 2, storageTargetId := 5, objectPath := "a.mp4", sizeBytes := 1 }

def raceRemote : RecordingLocation :=
  { id := 10, recordingSegmentId := 2, storageTargetId := 6, objectPath := "a.mp4", state := .archiving
    sizeBytes := 1, lastAttemptAt := some (days 9), createdAt := days 9 }

/-- One final segment, past its deadline, under a policy that requires an archive copy. -/
def raceDatabase (locations : Table RecordingLocation) : Database :=
  { storageTargets := ⟨[{ id := 5, type := .local, role := .recording, config := [("path", .str "/rec")] },
      { id := 6, type := .rclone, role := .archive }], by decide⟩
    locations
    retentionPolicies := ⟨[{ id := 1, scope := .global, ordinaryKeepDays := 7, eventKeepDays := 14
                             manualKeepDays := 30, mode := .hard }], by decide⟩
    segments := ⟨[{ id := 2, cameraId := 3, startedAt := 0, endedAt := 600000000, durationMs := 600000
                    timingStatus := .final, timingSource := .nextSegmentBoundary }], by decide⟩ }

def racePlan : ArchivePlan :=
  { segmentId := 2, remoteLocationId := 10, remoteTargetId := 6, sourceLocationId := 4
    sourcePath := "/rec/a.mp4", objectPath := "a.mp4", remotePath := "a.mp4", expectedSize := 1
    rcloneConfig := "" }

def raceStart : StorageWorld :=
  { db := raceDatabase ⟨[raceLocal], by decide⟩
    files := fun path => if path = "/rec/a.mp4" then some 1 else none }

/-- Both executions are prepared, and the first one has copied the file. -/
def raceCopied : StorageWorld :=
  ((((raceStart.setDb (raceDatabase ⟨[raceLocal, raceRemote], by decide⟩)).setArchive 1
    (some { plan := racePlan, stage := .prepared })).setArchive 2
    (some { plan := racePlan, stage := .prepared })).setArchive 1
    (some { plan := racePlan, stage := .transferring })).setArchive 1
    (some { plan := racePlan, stage := .transferred })

/-- The copy is finished and the deletion has unlinked the file. -/
def raceUnlinked : StorageWorld :=
  let deleting := (((raceCopied.setDb (raceDatabase ⟨[raceLocal,
    ArchiveLifecycleService.madeAvailable 1 (days 9) raceRemote], by decide⟩)).setArchive 1 none).setDb
    (raceDatabase ⟨[LocalRetentionDeletionService.deleting (days 9) raceLocal,
      ArchiveLifecycleService.madeAvailable 1 (days 9) raceRemote], by decide⟩)).setDeletion 3
    (some { locationId := 4, filePath := "/rec/a.mp4", stage := .unlinking })
  { deleting with files := Function.update deleting.files "/rec/a.mp4" none }.setDeletion 3
    (some { locationId := 4, filePath := "/rec/a.mp4", stage := .unlinked })

/-- The deletion is committed; the second execution is still prepared. -/
def raceDeleted : StorageWorld :=
  (raceUnlinked.setDb (raceDatabase ⟨[LocalRetentionDeletionService.deleted (days 9)
      (LocalRetentionDeletionService.deleting (days 9) raceLocal),
    ArchiveLifecycleService.madeAvailable 1 (days 9) raceRemote], by decide⟩)).setDeletion 3 none

theorem not_overwritesArchive {world : StorageWorld} {action : StorageAction}
    (other : ∀ job now, action ≠ .markFailed job now) :
    ¬ OverwritesArchive locationId segmentId world action := by
  rintro ⟨_, job, now, _, _, same, _⟩
  exact other job now same

theorem raceCopied_run :
    Run (fun before action after => Step plainEnv before action after ∧ ¬ OverwritesArchive 4 2 before action)
      raceStart
      [.prepare 1 2 6 10 (days 9), .prepare 2 2 6 11 (days 9), .checkSource 1, .copyToRemote 1 (.ok ())]
      raceCopied := by
  refine .next ⟨.prepare rfl rfl, not_overwritesArchive fun _ _ => StorageAction.noConfusion⟩ ?_
  refine .next ⟨.prepare rfl rfl, not_overwritesArchive fun _ _ => StorageAction.noConfusion⟩ ?_
  refine .next ⟨.checkSource rfl Bool.false_ne_true,
    not_overwritesArchive fun _ _ => StorageAction.noConfusion⟩ ?_
  refine .next ⟨.copyToRemote rfl, not_overwritesArchive fun _ _ => StorageAction.noConfusion⟩ ?_
  exact .done _

theorem raceDeleted_run :
    Run (fun before action after => Step plainEnv before action after ∧ ¬ OverwritesArchive 4 2 before action)
      raceCopied
      [.markAvailable 1 (days 9), .startDeletion 3 4 false (days 9), .unlink 3 false,
        .finishDeletion 3 (days 9)]
      raceDeleted := by
  refine .next ⟨.markAvailable rfl rfl, not_overwritesArchive fun _ _ => StorageAction.noConfusion⟩ ?_
  refine .next ⟨.startDeletion rfl rfl, not_overwritesArchive fun _ _ => StorageAction.noConfusion⟩ ?_
  refine .next ⟨.unlinked rfl, not_overwritesArchive fun _ _ => StorageAction.noConfusion⟩ ?_
  refine .next ⟨.finishDeletion rfl rfl, not_overwritesArchive fun _ _ => StorageAction.noConfusion⟩ ?_
  exact .done _

theorem raceStart_requiresArchive : RequiresArchive raceStart.db 2 := by
  intro segment policy segmentFound policyFound
  cases segmentFound
  cases policyFound
  rfl

/-- The first execution and the deletion alone keep the archive copy. -/
theorem deleted_has_archive_race :
    stateAt raceDeleted.db 4 = some .deleted ∧ availableArchiveExists raceDeleted.db 2 := by
  have isDeleted : stateAt raceDeleted.db 4 = some .deleted := by decide +kernel
  refine ⟨isDeleted, ?_⟩
  exact deleted_has_archive plainEnv raceStart raceDeleted _ 4 raceLocal rfl (by decide) raceStart_requiresArchive
    (fun _ => rfl) (fun _ => rfl) (raceCopied_run.append raceDeleted_run) isDeleted

/-- The failure overwrites the row of the only archive copy. -/
def raceLost : StorageWorld :=
  (((raceDeleted.setArchive 2 (some { plan := racePlan, stage := .sourceMissing })).setArchive 2
    (some { plan := racePlan, stage := .failing "archive_source_missing" })).setDb
    (ArchiveLifecycleService.markFailed raceDeleted.db 10 "archive_source_missing" (days 9))).setArchive 2 none

theorem raceLost_run :
    Run (Step plainEnv) raceDeleted [.checkSource 2, .markSourceMissing 2 (days 9), .markFailed 2 (days 9)]
      raceLost := by
  refine .next (.checkSource rfl Bool.false_ne_true) ?_
  refine .next (.markSourceMissing rfl) ?_
  refine .next (.markFailed rfl) ?_
  exact .done _

/-- The second execution then misses its source file and records a failure on the only copy. -/
theorem stale_failure_loses_archive :
    ¬ ∀ (env : StorageEnv) (start world : StorageWorld) (actions : List StorageAction) (locationId : Uuid)
      (location : RecordingLocation), start.db.locations.get? locationId = some location →
      isLocalAvailable start.db location → RequiresArchive start.db location.recordingSegmentId →
      (∀ job, start.archives job = none) → (∀ job, start.deletions job = none) →
      Run (Step env) start actions world → stateAt world.db locationId = some .deleted →
      availableArchiveExists world.db location.recordingSegmentId := by
  intro keeps
  have toDeleted := (raceCopied_run.append raceDeleted_run).mono fun _ _ _ => And.left
  have archived := keeps plainEnv raceStart raceLost _ 4 raceLocal rfl (by decide) raceStart_requiresArchive
    (fun _ => rfl) (fun _ => rfl) (toDeleted.append raceLost_run) rfl
  exact absurd archived (by decide)

end ZeroNvr.StorageWorld
