import ZeroNvr.Verified.StorageHealth
import ZeroNvr.Zlm.SourceHealth

/-! # Incidents and the recording source

The hooks open and close the incident of the camera that has the stream bound at the
time of the hook.  So an incident follows the source as long as no source that is
up is bound in the middle of one.
-/

namespace ZeroNvr.SourceLoss

open Lib SystemEventService AlertEvaluationService

variable {env : CatalogEnv} {uuid4 : Supply Uuid}

/-! ## Incidents -/

theorem isOpenSourceLoss_iff (cameraId : Uuid) (event : Event) :
    isOpenSourceLoss cameraId event = true ↔
      isSourceLoss event = true ∧ event.cameraId = some cameraId ∧ event.endedAt = none := by
  rw [isOpenSourceLoss, decide_eq_true_eq, Option.isNone_iff_eq_none]

theorem sourceLossEvent_open (cameraId : Uuid) (observedAt : Int) (id : Uuid) :
    isOpenSourceLoss cameraId (sourceLossEvent cameraId observedAt id) = true := by
  simp [isOpenSourceLoss, isSourceLoss, sourceLossEvent]

theorem camera_of_open {left right : Uuid} {event : Event} (isLeft : isOpenSourceLoss left event = true)
    (isRight : isOpenSourceLoss right event = true) : left = right := by
  rw [isOpenSourceLoss_iff] at isLeft isRight
  exact Option.some.inj (isLeft.2.1.symm.trans isRight.2.1)

def HasIncident (db : Database) (cameraId : Uuid) : Prop := ∃ event ∈ db.events, isOpenSourceLoss cameraId event = true

/-- A camera has at most one incident, and the alerts of the incidents that are over are resolved. -/
structure Incidents (db : Database) : Prop where
  single : ∀ cameraId, ∀ event ∈ db.events, ∀ other ∈ db.events, isOpenSourceLoss cameraId event = true →
    isOpenSourceLoss cameraId other = true → event = other
  resolved : ∀ event ∈ db.events, isSourceLoss event = true → event.endedAt.isSome →
    ∀ alert ∈ db.alerts, alert.eventId = event.id → alert.state = .resolved

theorem openSourceLoss_some {db : Database} {cameraId : Uuid} {event : Event}
    (found : openSourceLoss db cameraId = some event) : event ∈ db.events ∧ isOpenSourceLoss cameraId event = true :=
  Table.mem_of_firstBy? found

theorem openSourceLoss_none {db : Database} {cameraId : Uuid} (found : openSourceLoss db cameraId = none) :
    ¬HasIncident db cameraId := by
  rintro ⟨event, member, isOpen⟩
  rw [Table.firstBy?_eq_none_iff.mp found event member] at isOpen
  cases isOpen

/-! ## Recovery -/

theorem mem_recovered {db : Database} {event : Event} (member : event ∈ db.events) {observedAt : Int} {after : Event} :
    after ∈ db.events.modify event.id (recovered observedAt) (recovered_key observedAt) →
      (after ∈ db.events ∧ after.id ≠ event.id) ∨ after = recovered observedAt event := by
  rw [Table.mem_modify]
  rintro ⟨row, isRow, rfl⟩
  by_cases same : Keyed.key row = event.id
  · rw [if_pos same]
    exact .inr (congrArg _ (Table.eq_of_key_eq isRow member same))
  · rw [if_neg same]
    exact .inl ⟨isRow, same⟩

theorem recovered_closed (cameraId : Uuid) (observedAt : Int) (event : Event) :
    isOpenSourceLoss cameraId (recovered observedAt event) = false := by
  simp [isOpenSourceLoss, recovered]

/-- What a recovery does: the camera has no incident any more, and the others have theirs. -/
theorem sourceRecovered_spec {db : Database} (incidents : Incidents db) (cameraId : Uuid) (observedAt now : Int) :
    let result := sourceRecovered db cameraId observedAt
    let after := match result.2 with
      | some event => (resolveEventAlerts result.1 event now).1
      | none => result.1
    Incidents after ∧ ¬HasIncident after cameraId ∧ (∀ other, HasIncident after other → HasIncident db other) ∧
      after.cameras = db.cameras ∧ after.streamProfiles = db.streamProfiles := by
  dsimp only [sourceRecovered]
  cases found : openSourceLoss db cameraId with
  | none => exact ⟨incidents, openSourceLoss_none found, fun _ has => has, rfl, rfl⟩
  | some event =>
    obtain ⟨member, isOpen⟩ := openSourceLoss_some found
    dsimp only
    have wasOpen {other : Uuid} {after : Event}
        (inAfter : after ∈ db.events.modify event.id (recovered observedAt) (recovered_key observedAt))
        (stillOpen : isOpenSourceLoss other after = true) : after ∈ db.events ∧ after.id ≠ event.id := by
      rcases mem_recovered member inAfter with old | rfl
      · exact old
      · rw [recovered_closed] at stillOpen
        cases stillOpen
    refine ⟨⟨?_, ?_⟩, ?_, ?_, rfl, rfl⟩
    · intro other left inLeft right inRight leftOpen rightOpen
      exact incidents.single other left (wasOpen inLeft leftOpen).1 right (wasOpen inRight rightOpen).1 leftOpen rightOpen
    · intro after inAfter isLoss isOver alert inAlerts ofAfter
      obtain ⟨resolvedIfSame, old, isOld, sameEvent, stays⟩ := CapacityGuard.mem_resolveEventAlerts inAlerts
      rcases mem_recovered member inAfter with ⟨kept, _⟩ | rfl
      · exact stays (incidents.resolved after kept isLoss isOver old isOld (sameEvent.trans ofAfter))
      · exact resolvedIfSame ofAfter
    · rintro ⟨after, inAfter, stillOpen⟩
      obtain ⟨old, differs⟩ := wasOpen inAfter stillOpen
      exact differs (congrArg Event.id (incidents.single cameraId after old event member stillOpen isOpen))
    · rintro other ⟨after, inAfter, stillOpen⟩
      exact ⟨after, (wasOpen inAfter stillOpen).1, stillOpen⟩

/-! ## Loss -/

/-- The alerts that evaluating an event adds are alerts of the event. -/
theorem evaluateEvent_alerts {db : Database} {event : Event} {now : Int} {acc : Database × AlertEvaluationResult}
    (done : evaluateEvent env.zoneInfo uuid4 db event now = .ok acc) :
    ∀ alert ∈ acc.1.alerts, alert ∈ db.alerts ∨ alert.eventId = event.id := by
  unfold evaluateEvent at done
  split at done
  · cases done
    exact fun alert member => .inl member
  · let OfEvent (acc : Database × AlertEvaluationResult) : Prop :=
      ∀ alert ∈ acc.1.alerts, alert ∈ db.alerts ∨ alert.eventId = event.id
    have step : ∀ acc, ∀ policy ∈ (db.alertPolicies.select AlertPolicy.enabled).insertionSort
        (fun left right => left.id ≤ right.id), ∀ acc', OfEvent acc →
        evaluatePolicy env.zoneInfo uuid4 event now acc policy = .ok acc' → OfEvent acc' := by
      intro acc policy _ acc' soFar evaluated
      rcases evaluatePolicy_cases evaluated with rfl | ⟨_, _, _, deliveries, isProtected⟩
      · exact soFar
      · obtain ⟨protections, changed⟩ := protect_frame isProtected
        intro alert member
        rw [changed] at member
        have inCreated := @Table.mem_create _ _ _ acc.1.alerts uuid4 (openedAlert policy event) (fun _ => rfl) alert
        rcases inCreated.mp member with old | rfl
        · exact soFar alert old
        · exact .inr rfl
    exact foldlM_invariant _ step (fun alert member => .inl member) done

/-- Evaluating an event that is open leaves the incidents as they are. -/
theorem Incidents.evaluated {db : Database} (incidents : Incidents db) {event : Event} (member : event ∈ db.events)
    (isOpen : event.endedAt = none) {now : Int} {acc : Database × AlertEvaluationResult}
    (done : evaluateEvent env.zoneInfo uuid4 db event now = .ok acc) :
    Incidents acc.1 ∧ acc.1.events = db.events ∧ acc.1.cameras = db.cameras ∧ acc.1.streamProfiles = db.streamProfiles := by
  have ofEvent := evaluateEvent_alerts done
  obtain ⟨alerts, deliveries, protections, changed⟩ := evaluateEvent_frame done
  rw [changed] at ofEvent ⊢
  refine ⟨⟨incidents.single, fun other inEvents isLoss isOver alert inAlerts ofOther => ?_⟩, rfl, rfl, rfl⟩
  rcases ofEvent alert inAlerts with old | new
  · exact incidents.resolved other inEvents isLoss isOver alert old ofOther
  · have same : other = event := Table.eq_of_key_eq inEvents member (ofOther.symm.trans new)
    rw [same, isOpen] at isOver
    cases isOver

/-- What a loss does: no other camera gets an incident. -/
theorem sourceLost_spec {db : Database} (incidents : Incidents db) {cameraId : Uuid} {observedAt now : Int}
    {acc : Database × AlertEvaluationResult}
    (done : evaluateEvent env.zoneInfo uuid4 (sourceLost uuid4 db cameraId observedAt).1
      (sourceLost uuid4 db cameraId observedAt).2 now = .ok acc) :
    Incidents acc.1 ∧ (∀ other, other ≠ cameraId → HasIncident acc.1 other → HasIncident db other) ∧
      acc.1.cameras = db.cameras ∧ acc.1.streamProfiles = db.streamProfiles := by
  unfold sourceLost at done
  cases found : openSourceLoss db cameraId with
  | some existing =>
    rw [found] at done
    obtain ⟨member, isOpen⟩ := openSourceLoss_some found
    obtain ⟨kept, sameEvents, sameCameras, sameProfiles⟩ :=
      incidents.evaluated member ((isOpenSourceLoss_iff _ _).mp isOpen).2.2 done
    refine ⟨kept, fun other _ has => ?_, sameCameras, sameProfiles⟩
    rwa [HasIncident, sameEvents] at has
  | none =>
    rw [found] at done
    dsimp only at done
    have noIncident := openSourceLoss_none found
    generalize isNew : sourceLossEvent cameraId observedAt (db.events.newKey uuid4) = new at done
    have newOpen : isOpenSourceLoss cameraId new = true := isNew ▸ sourceLossEvent_open _ _ _
    have members {event : Event} : event ∈ db.events.create uuid4 (sourceLossEvent cameraId observedAt)
        (sourceLossEvent_key _ _) ↔ event ∈ db.events ∨ event = new := by
      rw [Table.mem_create, isNew]
    have opened : Incidents { db with
        events := db.events.create uuid4 (sourceLossEvent cameraId observedAt) (sourceLossEvent_key _ _) } := by
      refine ⟨fun other left inLeft right inRight leftOpen rightOpen => ?_, fun event inEvents isLoss isOver alert => ?_⟩
      · rcases members.mp inLeft with oldLeft | rfl
        · rcases members.mp inRight with oldRight | rfl
          · exact incidents.single other left oldLeft right oldRight leftOpen rightOpen
          · rw [camera_of_open rightOpen newOpen] at leftOpen
            exact absurd ⟨left, oldLeft, leftOpen⟩ noIncident
        · rcases members.mp inRight with oldRight | rfl
          · rw [camera_of_open leftOpen newOpen] at rightOpen
            exact absurd ⟨right, oldRight, rightOpen⟩ noIncident
          · rfl
      · rcases members.mp inEvents with old | rfl
        · exact incidents.resolved event old isLoss isOver alert
        · rw [((isOpenSourceLoss_iff _ _).mp newOpen).2.2] at isOver
          cases isOver
    obtain ⟨kept, sameEvents, sameCameras, sameProfiles⟩ :=
      opened.evaluated (members.mpr (.inr rfl)) ((isOpenSourceLoss_iff _ _).mp newOpen).2.2 done
    refine ⟨kept, ?_, sameCameras, sameProfiles⟩
    rintro other differs ⟨event, inEvents, isOpen⟩
    rw [sameEvents] at inEvents
    rcases members.mp inEvents with old | rfl
    · exact ⟨event, old, isOpen⟩
    · exact absurd (camera_of_open isOpen newOpen) differs

/-! ## Restarts -/

/-- A restart adds events that are no incidents. -/
theorem addRestart_spec {db : Database} (incidents : Incidents db) (observedAt : Int) (cameraId : Uuid) :
    Incidents (addRestart uuid4 observedAt db cameraId) ∧
      ∀ other, HasIncident (addRestart uuid4 observedAt db cameraId) other → HasIncident db other := by
  have noLoss (id : Uuid) : isSourceLoss (runtimeRestartEvent cameraId observedAt id) = false := by
    simp [isSourceLoss, runtimeRestartEvent, runtimeHealthCategory, sourceConnectivityCategory]
  have wasLoss {event : Event} (inEvents : event ∈ (addRestart uuid4 observedAt db cameraId).events)
      (isLoss : isSourceLoss event = true) : event ∈ db.events := by
    have inCreated := @Table.mem_create _ _ _ db.events uuid4 (runtimeRestartEvent cameraId observedAt)
      (runtimeRestartEvent_key _ _) event
    rcases inCreated.mp inEvents with old | rfl
    · exact old
    · rw [noLoss] at isLoss
      cases isLoss
  have isLoss {other : Uuid} {event : Event} (isOpen : isOpenSourceLoss other event = true) : isSourceLoss event = true :=
    ((isOpenSourceLoss_iff _ _).mp isOpen).1
  refine ⟨⟨?_, ?_⟩, ?_⟩
  · intro other left inLeft right inRight leftOpen rightOpen
    exact incidents.single other left (wasLoss inLeft (isLoss leftOpen)) right (wasLoss inRight (isLoss rightOpen))
      leftOpen rightOpen
  · exact fun event inEvents loss => incidents.resolved event (wasLoss inEvents loss) loss
  · rintro other ⟨event, inEvents, isOpen⟩
    exact ⟨event, wasLoss inEvents (isLoss isOpen), isOpen⟩

theorem runtimeRestarted_spec {db : Database} (incidents : Incidents db) (cameraIds : List Uuid) (observedAt : Int) :
    Incidents (runtimeRestarted uuid4 db cameraIds observedAt) ∧
      (∀ other, HasIncident (runtimeRestarted uuid4 db cameraIds observedAt) other → HasIncident db other) ∧
      (runtimeRestarted uuid4 db cameraIds observedAt).cameras = db.cameras ∧
      (runtimeRestarted uuid4 db cameraIds observedAt).streamProfiles = db.streamProfiles := by
  unfold runtimeRestarted
  generalize cameraIds.dedup.insertionSort (· ≤ ·) = ordered
  induction ordered generalizing db with
  | nil => exact ⟨incidents, fun _ has => has, rfl, rfl⟩
  | cons cameraId rest ih =>
    obtain ⟨added, was⟩ := addRestart_spec incidents observedAt cameraId
    obtain ⟨all, wasBefore, cameras, profiles⟩ := ih added
    exact ⟨all, fun other has => was other (wasBefore other has), cameras, profiles⟩

/-! ## Hooks and changes of the configuration -/

/-- The catalog, the bindings, and what the last hook about the source of each profile has reported. -/
structure SourceWorld where
  db : Database
  bindings : StreamBindings := fun _ => []
  reported : Uuid → Option Bool := fun _ => none

inductive SourceAction where
  | streamChanged (body : ZlmStreamChangedHook) (boundaryAt now : Int)
  | serverStarted (observedAt : Int)
  | replaceBindings (cameraId : Uuid) (bindings : List StreamBinding)
  | setEnabled (cameraId : Uuid) (enabled : Bool)
  | setRetired (cameraId : Uuid) (retired : Bool) (now : Int)

/-- What a hook reports about the source of a profile. -/
def reportedBy (env : CatalogEnv) (body : ZlmStreamChangedHook) (reported : Uuid → Option Bool) : Uuid → Option Bool :=
  if ¬ZlmHooks.isSourceHook body then reported
  else
    match RecordingCatalogService.profileIdFromStream env body.stream with
    | .ok profileId => Function.update reported profileId (some body.regist)
    | .error _ => reported

def withCamera (db : Database) (camera : Camera) : Database := { db with cameras := db.cameras.put camera }

def SourceWorld.hooked (env : CatalogEnv) (uuid4 : Supply Uuid) (world : SourceWorld) (body : ZlmStreamChangedHook)
    (boundaryAt now : Int) : SourceWorld :=
  { world with
    db := ZlmHooks.recordTransition env uuid4 world.db world.bindings body boundaryAt now
    reported := reportedBy env body world.reported }

/-- One hook or call that goes through; a call that is rejected changes nothing. -/
inductive SourceStep (env : CatalogEnv) (uuid4 : Supply Uuid) : SourceWorld → SourceAction → SourceWorld → Prop
  | streamChanged {world : SourceWorld} (body : ZlmStreamChangedHook) (boundaryAt now : Int) :
      SourceStep env uuid4 world (.streamChanged body boundaryAt now) (world.hooked env uuid4 body boundaryAt now)
  | serverStarted {world : SourceWorld} (observedAt : Int) :
      SourceStep env uuid4 world (.serverStarted observedAt)
        { world with db := ZlmHooks.serverStarted uuid4 world.db observedAt }
  | replaceBindings {world : SourceWorld} {cameraId : Uuid} {camera : Camera} {rows : CameraRows}
      {bindings : List StreamBinding} (found : world.db.cameras.get? cameraId = some camera)
      (done : CameraService.replaceBindings world.db { camera, bindings := world.bindings cameraId } bindings = .ok rows) :
      SourceStep env uuid4 world (.replaceBindings cameraId bindings)
        { world with
          db := withCamera world.db rows.camera
          bindings := Function.update world.bindings cameraId rows.bindings }
  | setEnabled {world : SourceWorld} {cameraId : Uuid} {camera changed : Camera} {enabled : Bool}
      (found : world.db.cameras.get? cameraId = some camera) (done : CameraService.setEnabled camera enabled = .ok changed) :
      SourceStep env uuid4 world (.setEnabled cameraId enabled) { world with db := withCamera world.db changed }
  | setRetired {world : SourceWorld} {cameraId : Uuid} {camera : Camera} {retired : Bool} {now : Int}
      (found : world.db.cameras.get? cameraId = some camera) :
      SourceStep env uuid4 world (.setRetired cameraId retired now)
        { world with db := withCamera world.db (CameraService.setRetired camera retired now) }

/-- No source that was last reported registered is bound for recording in the middle of an incident. -/
def BindsQuietly (world : SourceWorld) : SourceAction → Prop
  | .replaceBindings cameraId bindings => HasIncident world.db cameraId →
      ∀ binding ∈ bindings, binding.1 = "RECORD" → world.reported binding.2.1 ≠ some true
  | _ => True

/-! ## The invariant -/

/-- The bindings are those of a camera: each purpose once, and profiles of its own. -/
structure Bound (world : SourceWorld) : Prop where
  once : ∀ cameraId, ((world.bindings cameraId).map Prod.fst).Nodup
  known : ∀ cameraId, ∀ binding ∈ world.bindings cameraId, ∃ camera, world.db.cameras.get? cameraId = some camera
  own : ∀ cameraId, ∀ binding ∈ world.bindings cameraId, ∃ profile,
    world.db.streamProfiles.get? binding.2.1 = some profile ∧ profile.cameraId = cameraId

structure Sound (world : SourceWorld) : Prop where
  incidents : Incidents world.db
  bound : Bound world
  quiet : ∀ cameraId, ∀ binding ∈ world.bindings cameraId, binding.1 = "RECORD" →
    world.reported binding.2.1 = some true → ¬HasIncident world.db cameraId

/-- The camera of a hook is the one that records the profile. -/
theorem recordingCameraId_iff {world : SourceWorld} (bound : Bound world) {stream : String} {profileId : Uuid}
    (isProfile : RecordingCatalogService.profileIdFromStream env stream = .ok profileId) (cameraId : Uuid) :
    ZlmHooks.recordingCameraId env world.db world.bindings stream = some cameraId ↔
      ∃ binding ∈ world.bindings cameraId, binding.1 = "RECORD" ∧ binding.2.1 = profileId := by
  have records (cameraId : Uuid) : ZlmHooks.recordsProfile world.bindings profileId cameraId = true ↔
      ∃ binding ∈ world.bindings cameraId, binding.1 = "RECORD" ∧ binding.2.1 = profileId := by
    simp only [ZlmHooks.recordsProfile, List.any_eq_true, decide_eq_true_eq]
  have unique {left right : Uuid} (isLeft : ZlmHooks.recordsProfile world.bindings profileId left = true)
      (isRight : ZlmHooks.recordsProfile world.bindings profileId right = true) : left = right := by
    obtain ⟨binding, member, _, rfl⟩ := (records left).mp isLeft
    obtain ⟨other, otherMember, _, same⟩ := (records right).mp isRight
    obtain ⟨profile, found, ofLeft⟩ := bound.own left binding member
    obtain ⟨profile', found', ofRight⟩ := bound.own right other otherMember
    rw [same, found] at found'
    rw [← ofLeft, ← ofRight, Option.some.inj found']
  have recording {camera : Camera} (found : (world.db.cameras.rows.find? fun camera =>
      ZlmHooks.recordsProfile world.bindings profileId camera.id) = some camera) :
      ZlmHooks.recordsProfile world.bindings profileId camera.id = true := by
    have accepted := List.find?_some found
    exact accepted
  rw [← records, ZlmHooks.recordingCameraId, isProfile]
  dsimp only
  rw [Option.map_eq_some_iff]
  constructor
  · rintro ⟨camera, found, rfl⟩
    exact recording found
  · intro isRecording
    obtain ⟨binding, member, _⟩ := (records cameraId).mp isRecording
    obtain ⟨camera, isCamera⟩ := bound.known cameraId binding member
    have sameId : camera.id = cameraId := Table.key_of_get? isCamera
    cases found : world.db.cameras.rows.find? fun camera => ZlmHooks.recordsProfile world.bindings profileId camera.id with
    | none =>
      have noCamera := List.find?_eq_none.mp found camera (Table.mem_of_get? isCamera)
      exact absurd (sameId ▸ isRecording) noCamera
    | some other => exact ⟨other, rfl, unique (recording found) isRecording⟩

/-- A purpose is served by one profile. -/
theorem Bound.unique {world : SourceWorld} (bound : Bound world) {cameraId : Uuid} {left right : StreamBinding}
    (inLeft : left ∈ world.bindings cameraId) (inRight : right ∈ world.bindings cameraId) (same : left.1 = right.1) :
    left = right :=
  List.inj_on_of_nodup_map (bound.once cameraId) inLeft inRight same

/-! ## Steps -/

/-- A change that starts no incident and leaves the cameras alone. -/
theorem Sound.calmer {world : SourceWorld} (sound : Sound world) {db : Database} (incidents : Incidents db)
    (was : ∀ cameraId, HasIncident db cameraId → HasIncident world.db cameraId) (cameras : db.cameras = world.db.cameras)
    (profiles : db.streamProfiles = world.db.streamProfiles) : Sound { world with db } := by
  refine ⟨incidents, ⟨sound.bound.once, ?_, ?_⟩, fun cameraId binding member isRecord isUp has => ?_⟩
  · rw [cameras]
    exact sound.bound.known
  · rw [profiles]
    exact sound.bound.own
  · exact sound.quiet cameraId binding member isRecord isUp (was cameraId has)

/-- What a hook leaves, and which cameras it leaves without an incident. -/
theorem recordTransition_spec {world : SourceWorld} (sound : Sound world) (body : ZlmStreamChangedHook)
    (boundaryAt now : Int) (isSource : ZlmHooks.isSourceHook body = true) :
    let after := ZlmHooks.recordTransition env uuid4 world.db world.bindings body boundaryAt now
    let camera := ZlmHooks.recordingCameraId env world.db world.bindings body.stream
    Incidents after ∧ after.cameras = world.db.cameras ∧ after.streamProfiles = world.db.streamProfiles ∧
      (∀ cameraId, HasIncident after cameraId →
        HasIncident world.db cameraId ∨ (body.regist = false ∧ camera = some cameraId)) ∧
      (body.regist = true → ∀ cameraId, camera = some cameraId → ¬HasIncident after cameraId) := by
  have unchanged : Incidents world.db ∧ world.db.cameras = world.db.cameras ∧
      world.db.streamProfiles = world.db.streamProfiles := ⟨sound.incidents, rfl, rfl⟩
  simp only [ZlmHooks.recordTransition, isSource, not_true_eq_false, if_false, ZlmHooks.persistTransition]
  cases isCamera : ZlmHooks.recordingCameraId env world.db world.bindings body.stream with
  | none => exact ⟨sound.incidents, rfl, rfl, fun _ has => .inl has, nofun⟩
  | some cameraId =>
    cases regist : body.regist with
    | true =>
      have spec := sourceRecovered_spec sound.incidents cameraId boundaryAt now
      dsimp only at spec ⊢
      rw [if_pos rfl]
      cases isRecovered : (sourceRecovered world.db cameraId boundaryAt).2 with
      | none =>
        rw [isRecovered] at spec
        obtain ⟨incidents, closed, was, cameras, profiles⟩ := spec
        refine ⟨incidents, cameras, profiles, fun other has => .inl (was other has), ?_⟩
        rintro - other ⟨⟩
        exact closed
      | some event =>
        rw [isRecovered] at spec
        obtain ⟨incidents, closed, was, cameras, profiles⟩ := spec
        refine ⟨incidents, cameras, profiles, fun other has => .inl (was other has), ?_⟩
        rintro - other ⟨⟩
        exact closed
    | false =>
      dsimp only
      rw [if_neg Bool.false_ne_true]
      cases done : evaluateEvent env.zoneInfo uuid4 (sourceLost uuid4 world.db cameraId boundaryAt).1
          (sourceLost uuid4 world.db cameraId boundaryAt).2 now with
      | error error => exact ⟨sound.incidents, rfl, rfl, fun _ has => .inl has, nofun⟩
      | ok acc =>
        obtain ⟨incidents, was, cameras, profiles⟩ := sourceLost_spec sound.incidents done
        refine ⟨incidents, cameras, profiles, fun other has => ?_, nofun⟩
        by_cases same : other = cameraId
        · exact .inr ⟨rfl, same ▸ rfl⟩
        · exact .inl (was other same has)

theorem Sound.streamChanged {world : SourceWorld} (sound : Sound world) (body : ZlmStreamChangedHook)
    (boundaryAt now : Int) : Sound (world.hooked env uuid4 body boundaryAt now) := by
  unfold SourceWorld.hooked
  cases isSource : ZlmHooks.isSourceHook body with
  | false =>
    simp only [ZlmHooks.recordTransition, reportedBy, isSource, Bool.false_eq_true, not_false_eq_true, if_true]
    exact sound
  | true =>
    obtain ⟨incidents, cameras, profiles, started, closed⟩ :=
      @recordTransition_spec env uuid4 world sound body boundaryAt now isSource
    refine ⟨incidents, ⟨sound.bound.once, ?_, ?_⟩, ?_⟩
    · dsimp only
      rw [cameras]
      exact sound.bound.known
    · dsimp only
      rw [profiles]
      exact sound.bound.own
    intro cameraId binding member isRecord isUp has
    dsimp only at member isUp has
    cases isProfile : RecordingCatalogService.profileIdFromStream env body.stream with
    | error error =>
      have sameReports : reportedBy env body world.reported = world.reported := by
        simp only [reportedBy, isSource, not_true_eq_false, if_false, isProfile]
      rw [sameReports] at isUp
      have noCamera : ZlmHooks.recordingCameraId env world.db world.bindings body.stream = none := by
        simp only [ZlmHooks.recordingCameraId, isProfile]
      rcases started cameraId has with before | ⟨_, isCamera⟩
      · exact sound.quiet cameraId binding member isRecord isUp before
      · rw [noCamera] at isCamera
        cases isCamera
    | ok profileId =>
      have reports : reportedBy env body world.reported = Function.update world.reported profileId (some body.regist) := by
        simp only [reportedBy, isSource, not_true_eq_false, if_false, isProfile]
      rw [reports] at isUp
      have camera_iff := recordingCameraId_iff sound.bound isProfile cameraId
      by_cases same : binding.2.1 = profileId
      · -- The hook is about the source bound here.
        rw [same, Function.update_self] at isUp
        exact closed (Option.some.inj isUp) cameraId (camera_iff.mpr ⟨binding, member, isRecord, same⟩) has
      · rw [Function.update_of_ne same] at isUp
        rcases started cameraId has with before | ⟨_, isCamera⟩
        · exact sound.quiet cameraId binding member isRecord isUp before
        · obtain ⟨other, otherMember, otherRecord, ofProfile⟩ := camera_iff.mp isCamera
          exact same (sound.bound.unique member otherMember (isRecord.trans otherRecord.symm) ▸ ofProfile)

/-- A change of a camera's own row. -/
theorem Sound.withCamera_ {world : SourceWorld} (sound : Sound world) (changed : Camera) :
    Sound { world with db := withCamera world.db changed } := by
  refine ⟨⟨sound.incidents.single, sound.incidents.resolved⟩, ⟨sound.bound.once, ?_, sound.bound.own⟩, sound.quiet⟩
  intro other binding member
  obtain ⟨camera', isCamera⟩ := sound.bound.known other binding member
  by_cases isChanged : other = Keyed.key changed
  · exact ⟨changed, (Table.get?_put other).trans (if_pos isChanged)⟩
  · exact ⟨camera', ((Table.get?_put other).trans (if_neg isChanged)).trans isCamera⟩

theorem replaceBindings_cases {db : Database} {rows rows' : CameraRows} {bindings : List StreamBinding}
    (done : CameraService.replaceBindings db rows bindings = .ok rows') :
    rows' = rows ∨ (rows'.camera.id = rows.camera.id ∧ rows'.bindings = bindings ∧ (bindings.map Prod.fst).Nodup ∧
      ∀ binding ∈ bindings, ∃ profile, db.streamProfiles.get? binding.2.1 = some profile ∧ profile.cameraId = rows.camera.id) := by
  unfold CameraService.replaceBindings at done
  split at done
  · cases done
  next once =>
  split at done
  · cases done
  split at done
  · cases done
  next own =>
  split at done
  · cases done
    exact .inl rfl
  · cases done
    refine .inr ⟨rfl, rfl, not_not.mp once, fun binding member => ?_⟩
    have isOwn := List.all_eq_true.mp (not_not.mp own) binding member
    cases isProfile : db.streamProfiles.get? binding.2.1 with
    | none =>
      rw [isProfile] at isOwn
      cases isOwn
    | some profile =>
      rw [isProfile] at isOwn
      exact ⟨profile, rfl, of_decide_eq_true isOwn⟩

theorem Sound.replaceBindings {world : SourceWorld} (sound : Sound world) {cameraId : Uuid} {camera : Camera}
    {rows : CameraRows} {bindings : List StreamBinding} (found : world.db.cameras.get? cameraId = some camera)
    (done : CameraService.replaceBindings world.db { camera, bindings := world.bindings cameraId } bindings = .ok rows)
    (quietly : BindsQuietly world (.replaceBindings cameraId bindings)) :
    Sound { world with
      db := withCamera world.db rows.camera
      bindings := Function.update world.bindings cameraId rows.bindings } := by
  have isCamera : camera.id = cameraId := Table.key_of_get? found
  rcases replaceBindings_cases done with rfl | ⟨sameId, rfl, once, own⟩
  · rw [Function.update_eq_self]
    exact sound.withCamera_ camera
  · have changed := sound.withCamera_ rows.camera
    refine ⟨changed.incidents, ⟨?_, ?_, ?_⟩, ?_⟩
    · intro other
      by_cases same : other = cameraId
      · subst same
        simpa only [Function.update_self] using once
      · simpa only [Function.update_of_ne same] using changed.bound.once other
    · intro other binding member
      by_cases same : other = cameraId
      · subst same
        exact ⟨rows.camera, (Table.get?_put other).trans (if_pos (isCamera.symm.trans sameId.symm))⟩
      · simp only [Function.update_of_ne same] at member
        exact changed.bound.known other binding member
    · intro other binding member
      by_cases same : other = cameraId
      · subst same
        simp only [Function.update_self] at member
        exact isCamera ▸ own binding member
      · simp only [Function.update_of_ne same] at member
        exact changed.bound.own other binding member
    · intro other binding member isRecord isUp has
      by_cases same : other = cameraId
      · subst same
        simp only [Function.update_self] at member
        exact quietly has binding member isRecord isUp
      · simp only [Function.update_of_ne same] at member
        exact changed.quiet other binding member isRecord isUp has

theorem Sound.step {world world' : SourceWorld} {action : SourceAction} (sound : Sound world)
    (quietly : BindsQuietly world action) (step : SourceStep env uuid4 world action world') : Sound world' := by
  cases step with
  | streamChanged body boundaryAt now => exact sound.streamChanged body boundaryAt now
  | serverStarted observedAt =>
    obtain ⟨incidents, was, cameras, profiles⟩ := @runtimeRestarted_spec uuid4 world.db sound.incidents
      ((world.db.recordingPolicies.select RecordingPolicy.enabled).map RecordingPolicy.cameraId) observedAt
    exact sound.calmer incidents was cameras profiles
  | replaceBindings found done => exact sound.replaceBindings found done quietly
  | setEnabled found done => exact sound.withCamera_ _
  | setRetired found => exact sound.withCamera_ _

/-! ## The result -/

/-- The incidents follow the sources: a camera has at most one, and none, with no alert left over, while
    the source bound for recording was last reported registered. -/
structure Follows (world : SourceWorld) : Prop where
  single : ∀ cameraId, ∀ event ∈ world.db.events, ∀ other ∈ world.db.events,
    isOpenSourceLoss cameraId event = true → isOpenSourceLoss cameraId other = true → event = other
  none_open : ∀ cameraId, ∀ binding ∈ world.bindings cameraId, binding.1 = "RECORD" →
    world.reported binding.2.1 = some true → ∀ event ∈ world.db.events, isOpenSourceLoss cameraId event = false
  none_unresolved : ∀ cameraId, ∀ binding ∈ world.bindings cameraId, binding.1 = "RECORD" →
    world.reported binding.2.1 = some true → ∀ event ∈ world.db.events, isSourceLoss event = true →
      event.cameraId = some cameraId → ∀ alert ∈ world.db.alerts, alert.eventId = event.id → alert.state = .resolved

theorem Sound.follows {world : SourceWorld} (sound : Sound world) : Follows world := by
  have noneOpen {cameraId : Uuid} {binding : StreamBinding} (member : binding ∈ world.bindings cameraId)
      (isRecord : binding.1 = "RECORD") (isUp : world.reported binding.2.1 = some true) {event : Event}
      (inEvents : event ∈ world.db.events) : isOpenSourceLoss cameraId event = false := by
    rw [Bool.eq_false_iff]
    exact fun isOpen => sound.quiet cameraId binding member isRecord isUp ⟨event, inEvents, isOpen⟩
  refine ⟨sound.incidents.single, fun _ _ member isRecord isUp _ => noneOpen member isRecord isUp, ?_⟩
  intro cameraId binding member isRecord isUp event inEvents isLoss ofCamera
  have closed := noneOpen member isRecord isUp inEvents
  refine sound.incidents.resolved event inEvents isLoss (Option.isSome_iff_ne_none.mpr fun isOpen => ?_)
  rw [(isOpenSourceLoss_iff cameraId event).mpr ⟨isLoss, ofCamera, isOpen⟩] at closed
  cases closed

/-- From a catalog without incidents, as long as no source that is up is bound in the middle of one. -/
theorem incidents_follow {start last : SourceWorld} {actions : List SourceAction} (bound : Bound start)
    (fresh : ∀ event ∈ start.db.events, isSourceLoss event = false)
    (run : Run (fun world action world' => BindsQuietly world action ∧ SourceStep env uuid4 world action world') start
      actions last) : Follows last := by
  have notLoss {event : Event} (member : event ∈ start.db.events) {cameraId : Uuid} :
      isOpenSourceLoss cameraId event ≠ true := by
    intro isOpen
    have isLoss := ((isOpenSourceLoss_iff _ _).mp isOpen).1
    rw [fresh event member] at isLoss
    cases isLoss
  have startSound : Sound start := by
    refine ⟨⟨?_, ?_⟩, bound, ?_⟩
    · exact fun _ event member _ _ isOpen => absurd isOpen (notLoss member)
    · intro event member isLoss
      rw [fresh event member] at isLoss
      cases isLoss
    · rintro cameraId binding _ _ _ ⟨event, member, isOpen⟩
      exact notLoss member isOpen
  have sound : Sound last :=
    @Run.invariant _ _ _ Sound (fun _ _ _ kept step => kept.step step.1 step.2) _ _ _ run startSound
  exact sound.follows

/-! ## A camera with two profiles -/

def uuidCatalog : CatalogEnv where
  zoneInfo := RecordingPolicyService.utcOnly
  paths := { resolveRoot := some, isAbsolute := fun _ => true, relativeTo := fun _ path => some path }
  parseUuid := uuidOfText
  fromTimestamp value := value.num * 1000000 / value.den
  roundMs value := value.num * 1000 / value.den

def sourceHook (stream : String) (regist : Bool) : ZlmStreamChangedHook :=
  { vhost := "__defaultVhost__", app := "zero-nvr", stream, schema := "rtsp", regist }

def mainStream : String := "profile-00000000-0000-0000-0000-00000000000b"

def subStream : String := "profile-00000000-0000-0000-0000-00000000000c"

def mainRecords : List StreamBinding := [("RECORD", 11, "manual")]

def subRecords : List StreamBinding := [("RECORD", 12, "manual")]

/-- The profiles 11 and 12 of the camera, the first of them bound for recording. -/
def oneCamera : SourceWorld where
  db := { cameras := .single { id := 1 }
          streamProfiles := ⟨[{ id := 11, cameraId := 1 }, { id := 12, cameraId := 1 }], by decide⟩ }
  bindings := Function.update (fun _ => []) 1 mainRecords

theorem bound_oneCamera : Bound oneCamera := by
  have others {cameraId : Uuid} (differs : cameraId ≠ 1) : oneCamera.bindings cameraId = [] := by
    dsimp only [oneCamera]
    exact Function.update_of_ne differs _ _
  have isMain {cameraId : Uuid} {binding : StreamBinding} (member : binding ∈ oneCamera.bindings cameraId) :
      cameraId = 1 ∧ binding = ("RECORD", 11, "manual") := by
    by_cases same : cameraId = 1
    · subst same
      exact ⟨rfl, List.mem_singleton.mp member⟩
    · rw [others same] at member
      cases member
  refine ⟨fun cameraId => ?_, fun cameraId binding member => ?_, fun cameraId binding member => ?_⟩
  · by_cases same : cameraId = 1
    · subst same
      exact List.nodup_singleton _
    · rw [others same]
      exact List.nodup_nil
  · obtain ⟨rfl, -⟩ := isMain member
    exact ⟨_, rfl⟩
  · obtain ⟨rfl, rfl⟩ := isMain member
    exact ⟨_, rfl, rfl⟩

/-- The recording source is lost. -/
def mainLost : SourceWorld := oneCamera.hooked uuidCatalog .counting (sourceHook mainStream false) 1 1

theorem mainLost_frame : mainLost.db.cameras = oneCamera.db.cameras ∧
    mainLost.db.streamProfiles = oneCamera.db.streamProfiles := by
  have none_ {event : Event} (member : event ∈ oneCamera.db.events) : False := List.not_mem_nil member
  have sound : Sound oneCamera := ⟨⟨fun _ _ member => (none_ member).elim, fun _ member => (none_ member).elim⟩,
    bound_oneCamera, fun _ _ _ _ _ has => has.elim fun _ isOpen => none_ isOpen.1⟩
  obtain ⟨_, cameras, profiles, _⟩ := @recordTransition_spec uuidCatalog .counting oneCamera sound
    (sourceHook mainStream false) 1 1 (by decide)
  exact ⟨cameras, profiles⟩

/-- The camera is told to record the other source before that one comes up. -/
theorem incidents_follow_rebinding :
    ∃ last, Run (fun world action world' => BindsQuietly world action ∧ SourceStep uuidCatalog .counting world action world')
        oneCamera [.streamChanged (sourceHook mainStream false) 1 1, .replaceBindings 1 subRecords,
          .streamChanged (sourceHook subStream true) 2 2] last ∧
      Follows last := by
  have notUp : ∀ binding ∈ subRecords, binding.1 = "RECORD" → mainLost.reported binding.2.1 ≠ some true := by
    decide +kernel
  have isCamera : mainLost.db.cameras.get? 1 = some { id := 1 } := by
    rw [mainLost_frame.1]
    rfl
  obtain ⟨rows, done⟩ : ∃ rows, CameraService.replaceBindings mainLost.db
      { camera := { id := 1 }, bindings := mainRecords } subRecords = .ok rows := by
    unfold CameraService.replaceBindings
    rw [mainLost_frame.2]
    exact ⟨_, rfl⟩
  have run : Run (fun world action world' => BindsQuietly world action ∧ SourceStep uuidCatalog .counting world action world')
      oneCamera [.streamChanged (sourceHook mainStream false) 1 1, .replaceBindings 1 subRecords,
        .streamChanged (sourceHook subStream true) 2 2] _ :=
    .next (t := mainLost) ⟨trivial, .streamChanged _ _ _⟩ <| .next ⟨fun _ => notUp, .replaceBindings isCamera done⟩ <|
      .next ⟨trivial, .streamChanged _ _ _⟩ <| .done _
  exact ⟨_, run, incidents_follow bound_oneCamera (fun _ member => absurd member List.not_mem_nil) run⟩

/-- The recording source is lost while the other one is up, and the camera is told to record the other one:
    the incident stays open. -/
theorem incident_outlives_rebinding :
    ∃ last, Run (SourceStep uuidCatalog .counting) oneCamera
        [.streamChanged (sourceHook subStream true) 0 0, .streamChanged (sourceHook mainStream false) 1 1,
          .replaceBindings 1 subRecords] last ∧
      ¬Follows last := by
  refine ⟨_, .next (.streamChanged _ _ _) <| .next (.streamChanged _ _ _) <|
    .next (@SourceStep.replaceBindings _ _ _ 1 { id := 1 } _ _ rfl rfl) <| .done _, fun follows => ?_⟩
  have noneOpen := follows.none_open 1 ("RECORD", 12, "manual") (List.mem_singleton.mpr rfl) rfl (by decide +kernel)
    (sourceLossEvent 1 1 1) (List.mem_singleton.mpr (by rfl))
  exact absurd noneOpen (by decide +kernel)

end ZeroNvr.SourceLoss
