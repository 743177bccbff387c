import ZeroNvr.Cameras.Configuration
import ZeroNvr.Lib.Run

/-! # The fence around the configuration

A change reads the rows of a camera and writes them later; an adapter reads them,
and later passes the fence or not.  Where a change commits on the revision that it
has read, and moves it, the adapter that passes finds what it has read.
-/

namespace ZeroNvr.ConfigFence

open Lib CameraService

/-! ## Changes and adapters -/

inductive ConfigChange where
  | update (changes : CameraChanges)
  | enable (enabled : Bool)
  | retire (retired : Bool)
  | bind (bindings : List StreamBinding)
  | replaceSources (probes : List (Uuid × String))

def ConfigChange.apply (db : Database) (now : Int) (read : CameraRows) : ConfigChange → Result CameraRows
  | .update changes => do
    let camera ← updateCamera db read.camera changes
    .ok { read with camera }
  | .enable enabled => do
    let camera ← setEnabled read.camera enabled
    .ok { read with camera }
  | .retire retired => .ok { read with camera := setRetired read.camera retired now }
  | .bind bindings => replaceBindings db read bindings
  | .replaceSources probes => .ok (OnvifCapabilityRefreshService.applySources read probes)

inductive ChangePhase where
  | idle
  | loaded (change : ConfigChange) (read : CameraRows)
  | finished

/-- An adapter knows how many changes had committed when it read the rows. -/
inductive AdapterPhase where
  | idle
  | working (read : CameraRows) (committed : Nat)
  | finished

/-- What each committed transaction has read and made is kept. -/
structure FenceWorld where
  rows : CameraRows
  committed : List (CameraRows × CameraRows) := []
  change : Nat → ChangePhase := fun _ => .idle
  adapter : Nat → AdapterPhase := fun _ => .idle

namespace FenceWorld

def changing (world : FenceWorld) (change : Nat) (phase : ChangePhase) : FenceWorld :=
  { world with change := Function.update world.change change phase }

def adapting (world : FenceWorld) (adapter : Nat) (phase : AdapterPhase) : FenceWorld :=
  { world with adapter := Function.update world.adapter adapter phase }

def commit (world : FenceWorld) (read new : CameraRows) : FenceWorld :=
  { world with rows := read.flush new world.rows, committed := world.committed ++ [(read, new)] }

end FenceWorld

inductive FenceAction where
  | commit (change : Nat)
  | fence (adapter : Nat)
  | goOn

variable (db : Database)

inductive FenceStep : FenceWorld → FenceAction → FenceWorld → Prop
  | load {world : FenceWorld} {i : Nat} (change : ConfigChange) (idle : world.change i = .idle) :
      FenceStep world .goOn (world.changing i (.loaded change world.rows))
  | commit {world : FenceWorld} {i : Nat} {change : ConfigChange} {read new : CameraRows} {now : Int}
      (at_ : world.change i = .loaded change read) (done : change.apply db now read = .ok new) :
      FenceStep world (.commit i) ((world.commit read new).changing i .finished)
  /-- The change is refused, or stops. -/
  | drop {world : FenceWorld} {i : Nat} : FenceStep world .goOn (world.changing i .finished)
  | read {world : FenceWorld} {i : Nat} (idle : world.adapter i = .idle) :
      FenceStep world .goOn (world.adapting i (.working world.rows world.committed.length))
  /-- The fence passes, and what the adapter has found is written beside the configuration. -/
  | fence {world : FenceWorld} {i : Nat} {read : CameraRows} {committed : Nat} (at_ : world.adapter i = .working read committed)
      (passes : fenceConfigRevision world.rows.camera read.camera.configRevision = .ok ()) :
      FenceStep world (.fence i) (world.adapting i .finished)
  | giveUp {world : FenceWorld} {i : Nat} : FenceStep world .goOn (world.adapting i .finished)

/-! ## What a change does -/

/-- What the fence is to protect, beside the sources. -/
def configuration (rows : CameraRows) : Bool × Option Int × String × List StreamBinding :=
  (rows.camera.enabled, rows.camera.retiredAt, rows.camera.timeSyncMode, rows.bindings)

def Changes (read new : CameraRows) : Prop :=
  configuration new ≠ configuration read ∨ new.streamUri ≠ read.streamUri

/-- If the change replaces sources, one of them is bound. -/
def ConfigChange.Bound (read : CameraRows) : ConfigChange → Prop
  | .replaceSources probes =>
    (∃ probe ∈ probes, read.streamUri probe.1 ≠ some probe.2) →
      ∃ probe ∈ probes, read.streamUri probe.1 ≠ some probe.2 ∧ ∃ binding ∈ read.bindings, binding.2.1 = probe.1
  | _ => True

/-- A change that moves the revision finds the one that it has read; and it moves it if it replaces sources. -/
def Undisturbed (world : FenceWorld) : FenceAction → Prop
  | .commit i =>
    match world.change i with
    | .loaded change read => change.Bound read ∧
      ((∃ now new, change.apply db now read = .ok new ∧ new.camera.configRevision ≠ read.camera.configRevision) →
        world.rows.camera.configRevision = read.camera.configRevision)
    | _ => True
  | _ => True

variable {db} {read new : CameraRows} {now : Int} {change : ConfigChange}

/-- The revision moves, or nothing changes. -/
def Moves (read new : CameraRows) : Prop :=
  new.camera.configRevision = read.camera.configRevision + 1 ∨
    (new.camera.configRevision = read.camera.configRevision ∧ ¬Changes read new)

theorem moves_of_same (revision : new.camera.configRevision = read.camera.configRevision)
    (same : configuration new = configuration read) (sources : new.streamUri = read.streamUri) : Moves read new :=
  .inr ⟨revision, not_or.mpr ⟨not_not.mpr same, not_not.mpr sources⟩⟩

theorem updateCamera_moves {changes : CameraChanges} {camera : Camera} (done : updateCamera db read.camera changes = .ok camera) :
    Moves read { read with camera } := by
  unfold updateCamera at done
  rw [bind_eq_ok] at done
  obtain ⟨mode, -, done⟩ := done
  cases done
  split
  · exact .inl rfl
  next same => exact moves_of_same rfl (by simp [configuration, not_not.mp same]) rfl

theorem setEnabled_moves {enabled : Bool} {camera : Camera} (done : setEnabled read.camera enabled = .ok camera) :
    Moves read { read with camera } := by
  unfold setEnabled at done
  split at done
  · cases done
  · split at done
    · cases done
      exact .inl rfl
    · cases done
      exact moves_of_same rfl rfl rfl

theorem withRetired_frame (camera : Camera) (retired : Bool) (now : Int) :
    (withRetired camera retired now).configRevision = camera.configRevision ∧
      (withRetired camera retired now).timeSyncMode = camera.timeSyncMode := by
  unfold withRetired
  split
  · exact ⟨rfl, rfl⟩
  · split
    · exact ⟨rfl, rfl⟩
    · exact ⟨rfl, rfl⟩

theorem setRetired_moves (read : CameraRows) (retired : Bool) (now : Int) :
    Moves read { read with camera := setRetired read.camera retired now } := by
  obtain ⟨revision, timeSync⟩ := withRetired_frame read.camera retired now
  unfold setRetired
  dsimp only
  split
  · exact .inl (congrArg (· + 1) revision)
  next same =>
    obtain ⟨retiredAt, enabled⟩ := Prod.mk.injEq _ _ _ _ |>.mp (not_not.mp same)
    refine moves_of_same revision ?_ rfl
    simp only [configuration, ← retiredAt, ← enabled, timeSync]

theorem replaceBindings_moves {bindings : List StreamBinding} (done : replaceBindings db read bindings = .ok new) :
    Moves read new := by
  unfold replaceBindings at done
  split at done
  · cases done
  split at done
  · cases done
  split at done
  · cases done
  split at done
  · cases done
    exact moves_of_same rfl rfl rfl
  · cases done
    exact .inl rfl

/-- A bound source that is replaced makes the loop restart. -/
theorem replaceStreamUris_restarts {probes : List (Uuid × String)} {rows : CameraRows} {restarts : Bool} {probe : Uuid × String}
    (member : probe ∈ probes) (bound : ∃ binding ∈ rows.bindings, binding.2.1 = probe.1)
    (differs : restarts = true ∨ rows.streamUri probe.1 ≠ some probe.2) :
    (OnvifCapabilityRefreshService.replaceStreamUris probes (rows, restarts)).2 = true := by
  have isBound : (rows.bindings.any fun binding => binding.2.1 = probe.1) = true := by
    obtain ⟨binding, isBinding, same⟩ := bound
    exact List.any_eq_true.mpr ⟨binding, isBinding, decide_eq_true same⟩
  have once (probes : List (Uuid × String)) (rows : CameraRows) :
      (OnvifCapabilityRefreshService.replaceStreamUris probes (rows, true)).2 = true := by
    induction probes generalizing rows with
    | nil => rfl
    | cons first rest ih =>
      unfold OnvifCapabilityRefreshService.replaceStreamUris
      split
      · exact ih rows
      · exact ih _
  induction probes generalizing rows restarts with
  | nil => cases member
  | cons first rest ih =>
    unfold OnvifCapabilityRefreshService.replaceStreamUris
    split
    next same =>
      rcases List.mem_cons.mp member with rfl | later
      · rw [differs.resolve_right (not_not.mpr same)]
        exact once rest rows
      · exact ih later bound differs isBound
    next replaces =>
      by_cases same : first.1 = probe.1
      · rw [same, isBound, Bool.or_true]
        exact once rest _
      · rcases List.mem_cons.mp member with rfl | later
        · exact absurd rfl same
        · refine ih later bound (differs.imp (fun restarts => by simp [restarts]) fun differs => ?_) isBound
          have unmoved : Function.update rows.streamUri first.1 (some first.2) probe.1 = rows.streamUri probe.1 :=
            Function.update_of_ne (Ne.symm same) _ _
          exact fun replaced => differs (unmoved.symm.trans replaced)

theorem replaceStreamUris_frame (probes : List (Uuid × String)) (rows : CameraRows) (restarts : Bool) :
    (OnvifCapabilityRefreshService.replaceStreamUris probes (rows, restarts)).1.camera = rows.camera ∧
      (OnvifCapabilityRefreshService.replaceStreamUris probes (rows, restarts)).1.bindings = rows.bindings := by
  induction probes generalizing rows restarts with
  | nil => exact ⟨rfl, rfl⟩
  | cons first rest ih =>
    unfold OnvifCapabilityRefreshService.replaceStreamUris
    split
    · exact ih rows restarts
    · exact ih _ _

theorem replaceStreamUris_same {probes : List (Uuid × String)} {rows : CameraRows} {restarts : Bool}
    (same : ∀ probe ∈ probes, rows.streamUri probe.1 = some probe.2) :
    OnvifCapabilityRefreshService.replaceStreamUris probes (rows, restarts) = (rows, restarts) := by
  induction probes with
  | nil => rfl
  | cons first rest ih =>
    obtain ⟨first_, others⟩ := List.forall_mem_cons.mp same
    rw [OnvifCapabilityRefreshService.replaceStreamUris, if_pos first_]
    exact ih others

theorem applySources_moves {probes : List (Uuid × String)} (bound : (ConfigChange.replaceSources probes).Bound read) :
    Moves read (OnvifCapabilityRefreshService.applySources read probes) := by
  obtain ⟨camera, bindings⟩ := replaceStreamUris_frame probes read false
  unfold OnvifCapabilityRefreshService.applySources
  dsimp only
  by_cases replaces : ∃ probe ∈ probes, read.streamUri probe.1 ≠ some probe.2
  · obtain ⟨probe, member, differs, isBound⟩ := bound replaces
    rw [replaceStreamUris_restarts member isBound (.inr differs), if_pos rfl]
    exact .inl (congrArg (Camera.configRevision · + 1) camera)
  · have same : ∀ probe ∈ probes, read.streamUri probe.1 = some probe.2 := by
      simpa only [not_exists, not_and, not_not] using replaces
    rw [replaceStreamUris_same same, if_neg (by simp)]
    exact moves_of_same rfl rfl rfl

theorem apply_moves (bound : change.Bound read) (done : change.apply db now read = .ok new) : Moves read new := by
  cases change with
  | update changes =>
    obtain ⟨camera, changed, same⟩ := bind_eq_ok.mp done
    cases same
    exact updateCamera_moves changed
  | enable enabled =>
    obtain ⟨camera, changed, same⟩ := bind_eq_ok.mp done
    cases same
    exact setEnabled_moves changed
  | retire retired =>
    cases done
    exact setRetired_moves read retired now
  | bind bindings => exact replaceBindings_moves done
  | replaceSources probes =>
    cases done
    exact applySources_moves bound

/-! ## Passing the fence -/

/-- The configuration and the sources are those that the adapter has read, and no change has committed since. -/
structure Unchanged (world : FenceWorld) (read : CameraRows) (committed : Nat) : Prop where
  configuration : configuration world.rows = configuration read
  streamUri : world.rows.streamUri = read.streamUri
  committed : ∀ pair ∈ world.committed.drop committed, ¬Changes pair.1 pair.2

/-- While the revision is the one that an adapter has read, nothing has changed. -/
structure Watched (world : FenceWorld) (read : CameraRows) (committed : Nat) : Prop where
  counted : committed ≤ world.committed.length
  before : read.camera.configRevision ≤ world.rows.camera.configRevision
  unchanged : world.rows.camera.configRevision = read.camera.configRevision → Unchanged world read committed

def Fenced (world : FenceWorld) : Prop :=
  ∀ i read committed, world.adapter i = .working read committed → Watched world read committed

variable {world world' : FenceWorld} {action : FenceAction} {committed : Nat}

theorem configuration_flush (same : configuration new = configuration read) (current : CameraRows) :
    configuration (read.flush new current) = configuration current := by
  simp only [configuration, Prod.mk.injEq] at same
  obtain ⟨enabled, retiredAt, timeSyncMode, bindings⟩ := same
  simp only [configuration, CameraRows.flush, enabled, retiredAt, timeSyncMode, bindings, written_unchanged]

/-- A commit that moves the revision moves it past all that was read. -/
theorem Watched.commit {seen : CameraRows} (watched : Watched world seen committed) (moves : Moves read new)
    (current : new.camera.configRevision ≠ read.camera.configRevision →
      world.rows.camera.configRevision = read.camera.configRevision) :
    Watched (world.commit read new) seen committed := by
  have counted : committed ≤ (world.committed ++ [(read, new)]).length := by
    rw [List.length_append]
    exact watched.counted.trans (Nat.le_add_right _ _)
  rcases moves with moved | ⟨same, nothing⟩
  · have isCurrent := current (by omega)
    have moved' : (world.commit read new).rows.camera.configRevision = world.rows.camera.configRevision + 1 := by
      show written read.camera.configRevision new.camera.configRevision world.rows.camera.configRevision = _
      rw [isCurrent, written_undisturbed, moved]
    have before := watched.before
    exact ⟨counted, by omega, fun same => by omega⟩
  · obtain ⟨sameConfiguration, sameSources⟩ := not_or.mp nothing
    have kept : (world.commit read new).rows.camera.configRevision = world.rows.camera.configRevision := by
      show written read.camera.configRevision new.camera.configRevision world.rows.camera.configRevision = _
      rw [same, written_unchanged]
    refine ⟨counted, kept ▸ watched.before, fun isSeen => ?_⟩
    obtain ⟨configuration_, streamUri, unchanged⟩ := watched.unchanged (kept.symm.trans isSeen)
    refine ⟨(configuration_flush (not_not.mp sameConfiguration) _).trans configuration_, ?_, ?_⟩
    · rw [← streamUri]
      funext profileId
      show written (read.streamUri profileId) (new.streamUri profileId) (world.rows.streamUri profileId) = _
      rw [not_not.mp sameSources, written_unchanged]
    · show ∀ pair ∈ (world.committed ++ [(read, new)]).drop committed, _
      rw [List.drop_append_of_le_length watched.counted]
      intro pair member
      rcases List.mem_append.mp member with earlier | isNew
      · exact unchanged pair earlier
      · rw [List.mem_singleton.mp isNew]
        exact nothing

theorem Fenced.adapting (fenced : Fenced world) {i : Nat} {phase : AdapterPhase}
    (watched : ∀ read committed, phase = .working read committed → Watched world read committed) :
    Fenced (world.adapting i phase) := by
  intro other read committed at_
  simp only [FenceWorld.adapting, Function.update_apply] at at_
  have kept : Watched world read committed := by
    split at at_
    · exact watched read committed at_
    · exact fenced other read committed at_
  exact ⟨kept.counted, kept.before, fun same => ⟨(kept.unchanged same).configuration, (kept.unchanged same).streamUri,
    (kept.unchanged same).committed⟩⟩

theorem Fenced.changing (fenced : Fenced world) (i : Nat) (phase : ChangePhase) : Fenced (world.changing i phase) := by
  intro other read committed at_
  have kept := fenced other read committed at_
  exact ⟨kept.counted, kept.before, fun same => ⟨(kept.unchanged same).configuration, (kept.unchanged same).streamUri,
    (kept.unchanged same).committed⟩⟩

theorem Fenced.step (fenced : Fenced world) (step : FenceStep db world action world') (undisturbed : Undisturbed db world action) :
    Fenced world' := by
  cases step with
  | load change idle => exact fenced.changing _ _
  | @commit i change read new now at_ done =>
    simp only [Undisturbed, at_] at undisturbed
    obtain ⟨bound, current⟩ := undisturbed
    have committed : Fenced (world.commit read new) := fun other seen committed at' =>
      (fenced other seen committed at').commit (apply_moves bound done) fun moved => current ⟨now, new, done, moved⟩
    exact committed.changing _ _
  | drop => exact fenced.changing _ _
  | read idle =>
    refine fenced.adapting fun read committed same => ?_
    cases same
    exact ⟨le_rfl, le_rfl, fun _ => ⟨rfl, rfl, by simp⟩⟩
  | fence at_ passes => exact fenced.adapting (by simp)
  | giveUp => exact fenced.adapting (by simp)

/-- In every run whose commits are undisturbed, an adapter that passes the fence finds the configuration and the sources that
it has read, and no change has committed since. -/
theorem fence_unchanged {start : FenceWorld} {actions : List FenceAction} (idle : start.adapter = fun _ => .idle)
    (run : Run (fun world action world' => FenceStep db world action world' ∧ Undisturbed db world action) start actions world)
    {i : Nat} (at_ : world.adapter i = .working read committed)
    (passes : fenceConfigRevision world.rows.camera read.camera.configRevision = .ok ()) : Unchanged world read committed := by
  have fenced : Fenced world := by
    refine @Run.invariant _ _ _ Fenced (fun _ _ _ fenced step => fenced.step step.1 step.2) _ _ _ run ?_
    intro other read committed at_
    rw [idle] at at_
    cases at_
  refine (fenced i read committed at_).unchanged ?_
  unfold fenceConfigRevision at passes
  split at passes
  next same => exact same
  · cases passes

/-! ## Two changes and one adapter -/

def gate : FenceWorld where
  rows := { camera := { id := 1, timeSyncMode := "ignore", configRevision := 5 } }

/-- Both changes have read revision 5 and write revision 6; the adapter reads between their commits. -/
theorem revision_used_twice : ∃ actions world read committed,
    Run (FenceStep {}) gate actions world ∧ world.adapter 0 = .working read committed ∧
      fenceConfigRevision world.rows.camera read.camera.configRevision = .ok () ∧
        world.rows.camera.retiredAt = some 0 ∧ read.camera.retiredAt = none :=
  ⟨_, _, _, _,
    .next (@FenceStep.load _ _ 0 (.enable false) rfl) <| .next (@FenceStep.load _ _ 1 (.retire true) rfl) <|
    .next (@FenceStep.commit _ _ 0 (.enable false) _ _ 0 rfl rfl) <| .next (@FenceStep.read _ _ 0 rfl) <|
    .next (@FenceStep.commit _ _ 1 (.retire true) _ _ 0 rfl rfl) <| .done _, rfl, rfl, rfl, rfl⟩

theorem fence_passes_over_change : ¬∀ (db : Database) (start world : FenceWorld) (actions : List FenceAction) (i : Nat)
    (read : CameraRows) (committed : Nat), (start.adapter = fun _ => .idle) → Run (FenceStep db) start actions world →
    world.adapter i = .working read committed →
    fenceConfigRevision world.rows.camera read.camera.configRevision = .ok () → Unchanged world read committed := by
  intro always
  obtain ⟨actions, world, read, committed, run, at_, passes, retired, active⟩ := revision_used_twice
  have same := (always _ _ _ _ 0 read committed rfl run at_ passes).configuration
  simp only [configuration, Prod.mk.injEq] at same
  rw [retired, active] at same
  cases same.2.1

/-- An adapter that reads after one change and before none. -/
theorem adapter_after_change : ∃ actions world read committed,
    Run (fun world action world' => FenceStep {} world action world' ∧ Undisturbed {} world action) gate actions world ∧
      world.adapter 0 = .working read committed ∧
      fenceConfigRevision world.rows.camera read.camera.configRevision = .ok () ∧ read.camera.configRevision = 6 :=
  ⟨_, _, _, _,
    .next ⟨@FenceStep.load _ _ 0 (.enable false) rfl, trivial⟩ <|
    .next ⟨@FenceStep.commit _ _ 0 (.enable false) _ _ 0 rfl rfl, trivial, fun _ => rfl⟩ <|
    .next ⟨@FenceStep.read _ _ 0 rfl, trivial⟩ <| .done _, rfl, rfl, rfl⟩

theorem fence_unchanged_after_change : ∃ world read committed, read.camera.configRevision = 6 ∧ Unchanged world read committed := by
  obtain ⟨actions, world, read, committed, run, at_, passes, revision⟩ := adapter_after_change
  exact ⟨world, read, committed, revision, fence_unchanged rfl run at_ passes⟩

end ZeroNvr.ConfigFence
