import ZeroNvr.Verified.ArchiveBeforeDelete

/-! # Interrupted purges

The planner selects and the executor accepts only locations in the state
`AVAILABLE`.  A purge whose unlink failed leaves `FAILED`, and one whose process
stopped leaves `DELETING`; no pass takes either of them further.
-/

namespace ZeroNvr.StorageWorld

open Lib RetentionPlanner

variable {env : StorageEnv} {world world' : StorageWorld} {action : StorageAction} {locationId : Uuid}

/-! ## Passes -/

/-- A step of a deletion execution. -/
def IsDeletion : StorageAction → Prop
  | .startDeletion .. | .unlink .. | .markDeletionFailed .. | .finishDeletion .. | .stopDeletion .. => True
  | _ => False

/-- An unlink raises, or a process stops. -/
def Interrupts : StorageAction → Prop
  | .unlink _ failed => failed = true
  | .stopDeletion _ => True
  | _ => False

variable (env) in
def DeletionStep (world : StorageWorld) (action : StorageAction) (world' : StorageWorld) : Prop :=
  Step env world action world' ∧ IsDeletion action

variable (env) in
/-- A step with a working file system. -/
def WorkingStep (world : StorageWorld) (action : StorageAction) (world' : StorageWorld) : Prop :=
  DeletionStep env world action world' ∧ ∀ job, action ≠ .unlink job true

variable (env) in
/-- Some passes with a working file system take the location to `DELETED`. -/
def Completable (world : StorageWorld) (locationId : Uuid) : Prop :=
  ∃ actions world', Run (WorkingStep env) world actions world' ∧ stateAt world'.db locationId = some .deleted

/-- An execution that has committed `DELETING` runs on, and its unlink has not failed. -/
def InFlight (world : StorageWorld) (locationId : Uuid) : Prop :=
  ∃ job filePath stage, world.deletions job = some { locationId, filePath, stage } ∧ stage ≠ .unlinkFailed

/-- The purge of the location has begun and is not done. -/
def Begun (world : StorageWorld) (locationId : Uuid) : Prop :=
  stateAt world.db locationId = some .deleting ∨ stateAt world.db locationId = some .failed

/-! ## Executions in flight -/

theorem deletions_setDeletion (world : StorageWorld) (job : Uuid) (execution : Option DeletionExecution) :
    (world.setDeletion job execution).deletions = Function.update world.deletions job execution := rfl

theorem deletions_setDb (world : StorageWorld) (db : Database) : (world.setDb db).deletions = world.deletions := rfl

theorem InFlight.of_clear {job : Uuid} (inFlight : InFlight (world.setDeletion job none) locationId) :
    InFlight world locationId := by
  obtain ⟨own, filePath, stage, running, notFailed⟩ := inFlight
  by_cases same : own = job
  · subst same
    rw [deletions_setDeletion, Function.update_self] at running
    cases running
  · rw [deletions_setDeletion, Function.update_of_ne same] at running
    exact ⟨own, filePath, stage, running, notFailed⟩

theorem InFlight.of_set {job : Uuid} {execution : DeletionExecution}
    (inFlight : InFlight (world.setDeletion job (some execution)) locationId) :
    execution.locationId = locationId ∧ execution.stage ≠ .unlinkFailed ∨ InFlight world locationId := by
  obtain ⟨own, filePath, stage, running, notFailed⟩ := inFlight
  by_cases same : own = job
  · subst same
    rw [deletions_setDeletion, Function.update_self] at running
    cases running
    exact .inl ⟨rfl, notFailed⟩
  · rw [deletions_setDeletion, Function.update_of_ne same] at running
    exact .inr ⟨own, filePath, stage, running, notFailed⟩

theorem InFlight.set (world : StorageWorld) (job : Uuid) {execution : DeletionExecution}
    (notFailed : execution.stage ≠ .unlinkFailed) :
    InFlight (world.setDeletion job (some execution)) execution.locationId :=
  ⟨job, execution.filePath, execution.stage, Function.update_self .., notFailed⟩

/-- Another job's execution may change. -/
theorem InFlight.other {job : Uuid} {execution : Option DeletionExecution} (inFlight : InFlight world locationId)
    (differs : ∀ own ∈ world.deletions job, own.locationId ≠ locationId) :
    InFlight (world.setDeletion job execution) locationId := by
  obtain ⟨own, filePath, stage, running, notFailed⟩ := inFlight
  refine ⟨own, filePath, stage, ?_, notFailed⟩
  have otherJob : own ≠ job := by
    rintro rfl
    exact differs _ running rfl
  rw [deletions_setDeletion, Function.update_of_ne otherJob]
  exact running

theorem stateAt_markFailed {db : Database} (found : (stateAt db locationId).isSome) (other : Uuid)
    (errorCode : String) (now : Int) :
    stateAt (LocalRetentionDeletionService.markFailed db other errorCode now) locationId =
      if other = locationId then some .failed else stateAt db locationId := by
  by_cases same : other = locationId
  · subst same
    obtain ⟨row, isRow⟩ := Option.isSome_iff_exists.mp (Option.isSome_map.symm.trans found)
    rw [if_pos rfl]
    exact stateAt_modify_self isRow (RecordingLocation.failed errorCode now) fun _ => rfl
  · rw [if_neg same]
    exact stateAt_modify_ne db (Ne.symm same) _ _

theorem finish_cases {db db' : Database} {other : Uuid} {now : Int} {result : RetentionDeleteResult}
    (finished : LocalRetentionDeletionService.finish db other now = .ok (db', result)) :
    db' = db.modifyLocation other (LocalRetentionDeletionService.deleted now) := by
  unfold LocalRetentionDeletionService.finish at finished
  split at finished
  · cases finished
  · cases finished
    rfl

/-! ## A purge that nobody carries on -/

/-- The purge has begun, and no execution carries it on. -/
structure Abandoned (world : StorageWorld) (locationId : Uuid) : Prop where
  begun : Begun world locationId
  nobody : ¬ InFlight world locationId

theorem Begun.congr (begun : Begun world locationId)
    (same : stateAt world'.db locationId = stateAt world.db locationId) : Begun world' locationId := by
  unfold Begun at *
  rwa [same]

theorem Begun.isSome (begun : Begun world locationId) : (stateAt world.db locationId).isSome := by
  rcases begun with state | state <;> rw [state] <;> rfl

/-- No pass takes up an abandoned purge: the executor wants the location to be available. -/
theorem Abandoned.step (abandoned : Abandoned world locationId) (step : WorkingStep env world action world') :
    Abandoned world' locationId := by
  obtain ⟨begun, nobody⟩ := abandoned
  obtain ⟨⟨step, isDeletion⟩, works⟩ := step
  cases step with
  | @startDeletion job other pressure now db filePath idle started =>
    obtain ⟨location, _, found, available, _, _, rfl⟩ := start_cases started
    have differs : locationId ≠ other := by
      rintro rfl
      have isAvailable : stateAt world.db locationId = some .available := by rw [stateAt, found, ← available]; rfl
      rcases begun with state | state <;> rw [isAvailable] at state <;> cases state
    refine ⟨begun.congr (stateAt_modify_ne _ differs _ _), fun inFlight => ?_⟩
    rcases inFlight.of_set with ⟨same, _⟩ | before
    · exact differs same.symm
    · exact nobody before
  | unlinked running =>
    refine ⟨begun, fun inFlight => ?_⟩
    rcases inFlight.of_set with ⟨rfl, _⟩ | before
    · exact nobody ⟨_, _, _, running, by decide⟩
    · exact nobody before
  | unlinkFailed => exact absurd rfl (works _)
  | @markDeletionFailed job other filePath now running =>
    refine ⟨?_, fun inFlight => nobody inFlight.of_clear⟩
    have state := stateAt_markFailed begun.isSome other "retention_delete_failed" now
    split at state
    · exact .inr state
    · exact begun.congr state
  | @finishDeletion job other filePath now db result running finished =>
    obtain rfl := finish_cases finished
    have differs : locationId ≠ other := by
      rintro rfl
      exact nobody ⟨_, _, _, running, by decide⟩
    exact ⟨begun.congr (stateAt_modify_ne _ differs _ _), fun inFlight => nobody inFlight.of_clear⟩
  | stopDeletion => exact ⟨begun, fun inFlight => nobody inFlight.of_clear⟩
  | _ => cases isDeletion

theorem Abandoned.not_completable (abandoned : Abandoned world locationId) : ¬ Completable env world locationId := by
  rintro ⟨actions, final, run, isDeleted⟩
  have preserved (before : StorageWorld) (action : StorageAction) (after : StorageWorld)
      (abandoned : Abandoned before locationId) (step : WorkingStep env before action after) :
      Abandoned after locationId := abandoned.step step
  have still := run.invariant preserved abandoned
  rcases still.begun with state | state <;> rw [state] at isDeleted <;> cases isDeleted

/-! ## A purge that is carried on -/

/-- The last commit takes the location to `DELETED`. -/
theorem finishes {job : Uuid} {filePath : String} {row : RecordingLocation}
    (isRow : world.db.locations.get? locationId = some row)
    (running : world.deletions job = some { locationId, filePath, stage := .unlinked }) :
    ∃ world', WorkingStep env world (.finishDeletion job 0) world' ∧
      stateAt world'.db locationId = some .deleted := by
  have finished : LocalRetentionDeletionService.finish world.db locationId 0 =
      .ok (world.db.modifyLocation locationId (LocalRetentionDeletionService.deleted 0),
        { locationId, deleted := true, reason := "deleted" }) := by
    rw [LocalRetentionDeletionService.finish, isRow]
  exact ⟨_, ⟨⟨.finishDeletion running finished, trivial⟩, fun _ => nofun⟩, stateAt_modify_self isRow _ _⟩

theorem InFlight.completable (inFlight : InFlight world locationId) (found : (stateAt world.db locationId).isSome) :
    Completable env world locationId := by
  obtain ⟨job, filePath, stage, running, notFailed⟩ := inFlight
  obtain ⟨row, isRow⟩ := Option.isSome_iff_exists.mp (Option.isSome_map.symm.trans found)
  cases stage with
  | unlinkFailed => exact absurd rfl notFailed
  | unlinked =>
    obtain ⟨final, finish, isDeleted⟩ := finishes isRow running
    exact ⟨_, final, .next finish (.done _), isDeleted⟩
  | unlinking =>
    obtain ⟨next, unlink, sameDb, unlinked⟩ : ∃ next, WorkingStep env world (.unlink job false) next ∧
        next.db = world.db ∧ next.deletions job = some { locationId, filePath, stage := .unlinked } :=
      ⟨_, ⟨⟨.unlinked running, trivial⟩, fun _ => by simp⟩, rfl, Function.update_self ..⟩
    rw [← sameDb] at isRow
    obtain ⟨final, finish, isDeleted⟩ := finishes isRow unlinked
    exact ⟨_, final, .next unlink (.next finish (.done _)), isDeleted⟩

/-! ## Runs without an interruption -/

/-- The location is not failed, and where it is `DELETING` its execution runs on. -/
structure CarriedOn (world : StorageWorld) (locationId : Uuid) : Prop where
  found : (stateAt world.db locationId).isSome
  notFailed : stateAt world.db locationId ≠ some .failed
  deleting : stateAt world.db locationId = some .deleting → InFlight world locationId
  noneFailed : ∀ job, ∀ execution ∈ world.deletions job, execution.stage ≠ .unlinkFailed

theorem CarriedOn.congr {db : Database} (carriedOn : CarriedOn world locationId)
    (same : stateAt db locationId = stateAt world.db locationId) : CarriedOn (world.setDb db) locationId := by
  obtain ⟨found, notFailed, deleting, noneFailed⟩ := carriedOn
  exact ⟨by rwa [setDb, same], by rwa [setDb, same], by rwa [setDb, same], noneFailed⟩

theorem noneFailed_set {job : Uuid} {own : Option DeletionExecution}
    (noneFailed : ∀ job, ∀ execution ∈ world.deletions job, execution.stage ≠ .unlinkFailed)
    (ownStage : ∀ execution ∈ own, execution.stage ≠ .unlinkFailed) (other : Uuid) :
    ∀ execution ∈ (world.setDeletion job own).deletions other, execution.stage ≠ .unlinkFailed := by
  intro execution running
  by_cases same : other = job
  · subst same
    rw [deletions_setDeletion, Function.update_self] at running
    exact ownStage execution running
  · rw [deletions_setDeletion, Function.update_of_ne same] at running
    exact noneFailed other execution running

/-- An execution moves on and leaves the one that carries the purge of the location on. -/
theorem CarriedOn.setOther {job : Uuid} {own : Option DeletionExecution} (carriedOn : CarriedOn world locationId)
    (ownStage : ∀ execution ∈ own, execution.stage ≠ .unlinkFailed)
    (keeps : InFlight world locationId → InFlight (world.setDeletion job own) locationId) :
    CarriedOn (world.setDeletion job own) locationId := by
  obtain ⟨found, notFailed, deleting, noneFailed⟩ := carriedOn
  exact ⟨found, notFailed, fun isDeleting => keeps (deleting isDeleting), noneFailed_set noneFailed ownStage⟩

theorem CarriedOn.step (carriedOn : CarriedOn world locationId) (step : DeletionStep env world action world')
    (works : ¬ Interrupts action) : CarriedOn world' locationId := by
  obtain ⟨step, isDeletion⟩ := step
  cases step with
  | @startDeletion job other pressure now db filePath idle started =>
    obtain ⟨location, _, isLocation, _, _, _, rfl⟩ := start_cases started
    by_cases same : other = locationId
    · subst same
      have state : stateAt ((world.setDb (world.db.modifyLocation other
          (LocalRetentionDeletionService.deleting now))).setDeletion job
          (some { locationId := other, filePath, stage := .unlinking })).db other = some .deleting :=
        stateAt_modify_self isLocation _ _
      refine ⟨by rw [state]; rfl, by rw [state]; decide, fun _ => ?_, noneFailed_set carriedOn.noneFailed (by simp)⟩
      exact InFlight.set _ job UnlinkStage.noConfusion
    · refine (carriedOn.congr (stateAt_modify_ne _ (Ne.symm same) _ _)).setOther (by simp) fun inFlight => ?_
      refine inFlight.other fun own isOwn => ?_
      change own ∈ world.deletions job at isOwn
      rw [idle] at isOwn
      cases isOwn
  | @unlinked job other filePath running =>
    have files : CarriedOn { world with files := Function.update world.files filePath none } locationId :=
      ⟨carriedOn.found, carriedOn.notFailed, carriedOn.deleting, carriedOn.noneFailed⟩
    refine files.setOther (by simp) fun inFlight => ?_
    by_cases same : other = locationId
    · subst same
      exact InFlight.set _ job UnlinkStage.noConfusion
    · refine inFlight.other fun own isOwn => ?_
      change own ∈ world.deletions job at isOwn
      rw [running] at isOwn
      cases isOwn
      exact same
  | unlinkFailed => exact absurd rfl works
  | @markDeletionFailed job other filePath now running => exact absurd rfl (carriedOn.noneFailed _ _ running)
  | @finishDeletion job other filePath now db result running finished =>
    obtain rfl := finish_cases finished
    by_cases same : other = locationId
    · subst same
      obtain ⟨row, isRow⟩ := Option.isSome_iff_exists.mp (Option.isSome_map.symm.trans carriedOn.found)
      have state : stateAt ((world.setDb (world.db.modifyLocation other
          (LocalRetentionDeletionService.deleted now))).setDeletion job none).db other = some .deleted :=
        stateAt_modify_self isRow _ _
      refine ⟨by rw [state]; rfl, by rw [state]; decide, fun isDeleting => ?_,
        noneFailed_set carriedOn.noneFailed (by simp)⟩
      rw [state] at isDeleting
      cases isDeleting
    · refine (carriedOn.congr (stateAt_modify_ne _ (Ne.symm same) _ _)).setOther (by simp) fun inFlight => ?_
      refine inFlight.other fun own isOwn => ?_
      change own ∈ world.deletions job at isOwn
      rw [running] at isOwn
      cases isOwn
      exact same
  | stopDeletion => exact absurd trivial works
  | _ => cases isDeletion

/-- The purge of an available location, in every state that executions reach: once begun it can be completed
    exactly while the execution that began it runs on; and in a run in which no unlink raises and no process
    stops it always can. -/
theorem purge_completable_iff {start : StorageWorld} {actions : List StorageAction}
    (run : Run (DeletionStep env) start actions world) (idle : ∀ job, start.deletions job = none)
    (available : stateAt start.db locationId = some .available) :
    (Begun world locationId → (Completable env world locationId ↔ InFlight world locationId)) ∧
      ((∀ action ∈ actions, ¬ Interrupts action) → Begun world locationId → Completable env world locationId) := by
  constructor
  · intro begun
    refine ⟨fun completable => ?_, fun inFlight => inFlight.completable begun.isSome⟩
    by_contra nobody
    exact Abandoned.not_completable ⟨begun, nobody⟩ completable
  · intro works begun
    have preserved (past : List StorageAction) (before : StorageWorld) (action : StorageAction) (after : StorageWorld)
        (carriedOn : (∀ action ∈ past, ¬ Interrupts action) → CarriedOn before locationId)
        (step : DeletionStep env before action after) (works : ∀ own ∈ past ++ [action], ¬ Interrupts own) :
        CarriedOn after locationId := by
      refine (carriedOn fun own member => works own (List.mem_append_left _ member)).step step ?_
      exact works action (List.mem_append_right _ List.mem_cons_self)
    have starts : CarriedOn start locationId := by
      refine ⟨by rw [available]; rfl, by rw [available]; decide, fun isDeleting => ?_, fun job execution running => ?_⟩
      · rw [available] at isDeleting
        cases isDeleting
      · rw [idle] at running
        cases running
    have ends := Run.invariant_past preserved run [] (fun _ => starts) works
    rcases begun with isDeleting | isFailed
    · exact (ends.deleting isDeleting).completable ends.found
    · exact absurd isFailed ends.notFailed

/-! ## A file that cannot be unlinked -/

def purgeLocal : RecordingLocation :=
  { id := 4, recordingSegmentId := 2, storageTargetId := 5, objectPath := "a.mp4", sizeBytes := 1 }

/-- One final segment, past its deadline, with one local copy. -/
def purgeDatabase (location : RecordingLocation) : Database :=
  { storageTargets := ⟨[{ id := 5, type := .local, role := .recording, config := [("path", .str "/rec")] }], by decide⟩
    locations := ⟨[location], List.nodup_singleton _⟩
    retentionPolicies := ⟨[{ id := 1, scope := .global, ordinaryKeepDays := 7, eventKeepDays := 14
                             manualKeepDays := 30, mode := .hard, requireArchiveBeforeDelete := false }], by decide⟩
    segments := .single { id := 2, cameraId := 3, startedAt := 0, endedAt := 600000000, durationMs := 600000
                          timingStatus := .final, timingSource := .nextSegmentBoundary } }

def purgeStart : StorageWorld :=
  { db := purgeDatabase purgeLocal, files := fun path => if path = "/rec/a.mp4" then some 1 else none }

/-- `DELETING` is committed. -/
def purgeDeleting : StorageWorld :=
  (purgeStart.setDb (purgeDatabase (LocalRetentionDeletionService.deleting (days 9) purgeLocal))).setDeletion 3
    (some { locationId := 4, filePath := "/rec/a.mp4", stage := .unlinking })

/-- The unlink has raised, and the failure is committed. -/
def purgeFailed : StorageWorld :=
  ((purgeDeleting.setDeletion 3 (some { locationId := 4, filePath := "/rec/a.mp4", stage := .unlinkFailed })).setDb
    (purgeDatabase (RecordingLocation.failed "retention_delete_failed" (days 9)
      (LocalRetentionDeletionService.deleting (days 9) purgeLocal)))).setDeletion 3 none

/-- The process has stopped before the unlink. -/
def purgeStopped : StorageWorld := purgeDeleting.setDeletion 3 none

theorem purgeDeleting_run : Run (DeletionStep plainEnv) purgeStart [.startDeletion 3 4 false (days 9)] purgeDeleting :=
  .next ⟨.startDeletion rfl rfl, trivial⟩ (.done _)

theorem purgeFailed_run :
    Run (DeletionStep plainEnv) purgeDeleting [.unlink 3 true, .markDeletionFailed 3 (days 9)] purgeFailed := by
  refine .next ⟨.unlinkFailed rfl, trivial⟩ ?_
  exact .next ⟨.markDeletionFailed rfl, trivial⟩ (.done _)

theorem purgeStopped_run : Run (DeletionStep plainEnv) purgeDeleting [.stopDeletion 3] purgeStopped :=
  .next ⟨.stopDeletion, trivial⟩ (.done _)

theorem nobody_of_idle (idle : ∀ job, world.deletions job = none) : ¬ InFlight world locationId := by
  rintro ⟨job, _, _, running, _⟩
  rw [idle] at running
  cases running

theorem idle_of_clear (job : Uuid) (single : ∀ other, other ≠ job → world.deletions other = none) (other : Uuid) :
    (world.setDeletion job none).deletions other = none := by
  by_cases same : other = job
  · rw [deletions_setDeletion, same, Function.update_self]
  · rw [deletions_setDeletion, Function.update_of_ne same, single other same]

/-- The location is due: made available again it would be deleted. -/
def Due (db : Database) (location : RecordingLocation) (now : Int) : Prop :=
  ∃ decision, evaluate db { location with state := .available } now false = .ok decision ∧ decision.eligibleForDelete

/-- After a failed unlink, and after a stop before the unlink, the purge cannot be completed, though the
    location remains due. -/
theorem failed_purge_is_dead :
    (∃ actions, Run (DeletionStep plainEnv) purgeStart actions purgeFailed ∧
      stateAt purgeFailed.db 4 = some .failed ∧ (∃ location ∈ purgeFailed.db.locations, Due purgeFailed.db location (days 9)) ∧
      ¬ Completable plainEnv purgeFailed 4) ∧
    ∃ actions, Run (DeletionStep plainEnv) purgeStart actions purgeStopped ∧
      stateAt purgeStopped.db 4 = some .deleting ∧
      (∃ location ∈ purgeStopped.db.locations, Due purgeStopped.db location (days 9)) ∧
      ¬ Completable plainEnv purgeStopped 4 := by
  have others : ∀ other, other ≠ 3 → purgeDeleting.deletions other = none := fun other differs =>
    Function.update_of_ne differs ..
  constructor
  · refine ⟨_, purgeDeleting_run.append purgeFailed_run, rfl, ⟨_, List.mem_singleton_self _, _, rfl, rfl⟩, ?_⟩
    refine Abandoned.not_completable ⟨.inr rfl, nobody_of_idle (idle_of_clear 3 fun other differs => ?_)⟩
    rw [deletions_setDb, deletions_setDeletion, Function.update_of_ne differs, others other differs]
  · refine ⟨_, purgeDeleting_run.append purgeStopped_run, rfl, ⟨_, List.mem_singleton_self _, _, rfl, rfl⟩, ?_⟩
    exact Abandoned.not_completable ⟨.inl rfl, nobody_of_idle (idle_of_clear 3 others)⟩

/-- Right after the first commit the purge can be completed. -/
theorem running_purge_completes : Completable plainEnv purgeDeleting 4 :=
  (purge_completable_iff purgeDeleting_run (fun _ => rfl) rfl).2 (by simp [Interrupts]) (.inl rfl)

end ZeroNvr.StorageWorld
