import ZeroNvr.Events.Onvif
import ZeroNvr.Lib.Run

/-! # The open ONVIF events

Events are opened, found and closed by camera, category, label and topic, the
subject of a notification.  A subject has an open event exactly when the last
report about it that was taken in said so; a notification whose own event has
already ended is a replay and is not taken in.
-/

namespace ZeroNvr.OnvifEventIngestService

open Lib EventService

variable {redactText : String → String} {uuid4 : Supply Uuid} {deviceId : Uuid} {db db' : Database}

/-! ## Subjects -/

/-- What an event is found by. -/
structure Subject where
  camera : Option Uuid
  category : String
  label : String
  topic : String
  deriving DecidableEq

def subjectOf (deviceId : Uuid) (db : Database) (normalized : OnvifNormalizedNotification) : Subject where
  camera := cameraId db deviceId normalized
  category := normalized.category
  label := normalized.label
  topic := normalized.topic

/-- The event belongs to the device. -/
def OfDevice (deviceId : Uuid) (event : Event) : Prop :=
  event.source = source ∧ event.sourceInstanceId = some (sourceInstanceId deviceId)

structure HasSubject (event : Event) (subject : Subject) : Prop where
  camera : event.cameraId = subject.camera
  category : event.category = subject.category
  label : event.label = some subject.label
  topic : Dict.get event.metadata "topic" = some (.str subject.topic)

/-- The event is an open event of the device on the subject. -/
structure OpenOn (deviceId : Uuid) (db : Database) (subject : Subject) (event : Event) : Prop where
  member : event ∈ db.events
  ofDevice : OfDevice deviceId event
  subject : HasSubject event subject
  isOpen : event.endedAt = none

/-- One event is new, in the place of an old one or beside the others. -/
def Replaces (db db' : Database) (old : Option Event) (new : Event) : Prop :=
  ∀ event, event ∈ db'.events ↔ event = new ∨ event ∈ db.events ∧ old ≠ some event

/-- A report that was taken in. -/
structure Report where
  subject : Subject
  sourceItems : List (String × String)
  value : Bool

/-- The last report about a subject. -/
def lastReport (reports : List Report) (subject : Subject) : Option Bool :=
  (reports.filter fun report => report.subject = subject).getLast?.map Report.value

/-- The catalog, the notifications taken so far, and the reports among them. -/
structure OnvifState where
  db : Database
  seen : List OnvifNormalizedNotification := []
  reports : List Report := []

/-- The notification says once more that its own event, which has ended, has begun. -/
def isReplay (deviceId : Uuid) (db : Database) (normalized : OnvifNormalizedNotification) : Bool :=
  normalized.state = some true && (endedEvent deviceId db normalized).isSome

/-- What a notification reports: its state, unless it is a replay. -/
def reported (deviceId : Uuid) (db : Database) (normalized : OnvifNormalizedNotification) : List Report :=
  match normalized.state with
  | none => []
  | some value =>
    if isReplay deviceId db normalized then []
    else [{ subject := subjectOf deviceId db normalized, sourceItems := normalized.sourceItems, value }]

/-- The cameras by which notifications are mapped. -/
structure SameCameras (db found : Database) : Prop where
  cameras : found.cameras = db.cameras
  streamProfiles : found.streamProfiles = db.streamProfiles

/-- The open events of the device follow the reports. -/
structure Follows (deviceId : Uuid) (state : OnvifState) : Prop where
  origin : ∀ event ∈ state.db.events, OfDevice deviceId event → ∃ normalized ∈ state.seen,
    event.sourceEventId = some normalized.sourceEventId ∧ HasSubject event (subjectOf deviceId state.db normalized) ∧
      (event.endedAt = none → normalized.state = some true)
  unique : ∀ event ∈ state.db.events, ∀ other ∈ state.db.events, OfDevice deviceId event → OfDevice deviceId other →
    event.sourceEventId = other.sourceEventId → event = other
  single : ∀ subject event other, OpenOn deviceId state.db subject event → OpenOn deviceId state.db subject other →
    event = other
  open_iff : ∀ subject, (∃ event, OpenOn deviceId state.db subject event) ↔
    lastReport state.reports subject = some true

/-- The part of the invariant about open events. -/
structure Tracked (deviceId : Uuid) (db : Database) (reports : List Report) : Prop where
  single : ∀ subject event other, OpenOn deviceId db subject event → OpenOn deviceId db subject other → event = other
  open_iff : ∀ subject, (∃ event, OpenOn deviceId db subject event) ↔ lastReport reports subject = some true

theorem Follows.tracked {state : OnvifState} (before : Follows deviceId state) :
    Tracked deviceId state.db state.reports := ⟨before.single, before.open_iff⟩

theorem Tracked.kept {reports : List Report} (before : Tracked deviceId db reports)
    (same : ∀ subject event, OpenOn deviceId db' subject event ↔ OpenOn deviceId db subject event) :
    Tracked deviceId db' reports := by
  refine ⟨fun subject event other left right => ?_, fun subject => ?_⟩
  · exact before.single subject event other ((same subject event).mp left) ((same subject other).mp right)
  · simp only [same]
    exact before.open_iff subject

/-- A report about one subject: afterwards it has the given open event, or none. -/
theorem Tracked.reported {reports reports' : List Report} (before : Tracked deviceId db reports)
    (subject : Subject) (cell : Option Event)
    (opens : ∀ other event, OpenOn deviceId db' other event ↔
      if other = subject then cell = some event else OpenOn deviceId db other event)
    (last : ∀ other, lastReport reports' other = if other = subject then some cell.isSome else lastReport reports other) :
    Tracked deviceId db' reports' := by
  refine ⟨fun other event event' left right => ?_, fun other => ?_⟩
  · rw [opens] at left right
    by_cases same : other = subject
    · rw [if_pos same] at left right
      exact Option.some.inj (left.symm.trans right)
    · rw [if_neg same] at left right
      exact before.single other event event' left right
  · simp only [opens, last]
    by_cases same : other = subject
    · simp only [if_pos same, Option.some.injEq]
      exact Option.isSome_iff_exists.symm
    · simp only [if_neg same]
      exact before.open_iff other

/-- The two other parts, when one event is new or takes the place of another under its id. -/
theorem Follows.replaced {state : OnvifState} {normalized : OnvifNormalizedNotification} {reports : List Report}
    {old : Option Event} {new : Event} (before : Follows deviceId state)
    (sameSubjects : ∀ other, subjectOf deviceId db' other = subjectOf deviceId state.db other)
    (replaces : Replaces state.db db' old new)
    (origin : ∃ source ∈ state.seen ++ [normalized], new.sourceEventId = some source.sourceEventId ∧
      HasSubject new (subjectOf deviceId state.db source) ∧ (new.endedAt = none → source.state = some true))
    (fresh : ∀ event ∈ state.db.events, OfDevice deviceId event → event.sourceEventId = new.sourceEventId →
      old = some event)
    (tracked : Tracked deviceId db' reports) :
    Follows deviceId { db := db', seen := state.seen ++ [normalized], reports } := by
  refine ⟨fun event member ofDevice => ?_, fun event member other otherMember ofDevice otherDevice same => ?_,
    tracked.single, tracked.open_iff⟩
  · simp only [sameSubjects]
    rcases (replaces event).mp member with rfl | ⟨oldMember, _⟩
    · exact origin
    · obtain ⟨source, seen, isOrigin⟩ := before.origin event oldMember ofDevice
      exact ⟨source, List.mem_append_left _ seen, isOrigin⟩
  · rcases (replaces event).mp member with rfl | ⟨oldMember, differs⟩
    · rcases (replaces other).mp otherMember with rfl | ⟨oldOther, differs⟩
      · rfl
      · exact absurd (fresh other oldOther otherDevice same.symm) differs
    · rcases (replaces other).mp otherMember with rfl | ⟨oldOther, _⟩
      · exact absurd (fresh event oldMember ofDevice same) differs
      · exact before.unique event oldMember other oldOther ofDevice otherDevice same

/-- Every report that was counted was made by a notification taken so far. -/
def Reported (deviceId : Uuid) (state : OnvifState) : Prop :=
  ∀ report ∈ state.reports, ∃ normalized ∈ state.seen, normalized.state = some report.value ∧
    report.subject = subjectOf deviceId state.db normalized ∧ report.sourceItems = normalized.sourceItems

theorem subjectOf_found {found : Database} (same : SameCameras db found) (normalized : OnvifNormalizedNotification) :
    subjectOf deviceId found normalized = subjectOf deviceId db normalized := by
  simp only [subjectOf, cameraId, activeCameras, profileCamera, same.cameras, same.streamProfiles]

theorem openOn_found {found : Database} (same : found.events = db.events) (subject : Subject) (event : Event) :
    OpenOn deviceId found subject event ↔ OpenOn deviceId db subject event := by
  constructor
  · rintro ⟨member, ofDevice, onSubject, isOpen⟩
    exact ⟨same ▸ member, ofDevice, onSubject, isOpen⟩
  · rintro ⟨member, ofDevice, onSubject, isOpen⟩
    exact ⟨same ▸ member, ofDevice, onSubject, isOpen⟩

theorem Follows.found {state : OnvifState} {found : Database} (before : Follows deviceId state)
    (sameEvents : found.events = state.db.events) (sameCameras : SameCameras state.db found) :
    Follows deviceId { state with db := found } := by
  refine ⟨fun event member ofDevice => ?_, fun event member other otherMember => ?_, ?_, ?_⟩
  · simp only [subjectOf_found sameCameras]
    exact before.origin event (sameEvents ▸ member) ofDevice
  · exact before.unique event (sameEvents ▸ member) other (sameEvents ▸ otherMember)
  · simp only [openOn_found sameEvents]
    exact before.single
  · simp only [openOn_found sameEvents]
    exact before.open_iff

/-- What holds after the given notifications. -/
structure Settled (deviceId : Uuid) (past : List OnvifNormalizedNotification) (state : OnvifState) : Prop where
  seen : state.seen = past
  follows : Follows deviceId state
  reported : Reported deviceId state

/-- No notification of the device has been taken yet. -/
structure Fresh (deviceId : Uuid) (state : OnvifState) : Prop where
  noEvents : ∀ event ∈ state.db.events, ¬ OfDevice deviceId event
  seen : state.seen = []
  reports : state.reports = []

theorem Fresh.settled {state : OnvifState} (fresh : Fresh deviceId state) : Settled deviceId [] state := by
  refine ⟨fresh.seen, ⟨fun event member ofDevice => ?_, fun event member _ _ ofDevice => ?_,
    fun _ event _ isOpen => ?_, fun subject => iff_of_false ?_ ?_⟩, ?_⟩
  · exact absurd ofDevice (fresh.noEvents event member)
  · exact absurd ofDevice (fresh.noEvents event member)
  · exact absurd isOpen.ofDevice (fresh.noEvents event isOpen.member)
  · rintro ⟨event, isOpen⟩
    exact fresh.noEvents event isOpen.member isOpen.ofDevice
  · simp [lastReport, fresh.reports]
  · simp [Reported, fresh.reports]

/-- A device with one camera, of which nothing was reported. -/
def oneCamera : OnvifState where
  db := { cameras := ⟨[{ id := 1, deviceId := some 1 }], List.nodup_singleton _⟩ }

end ZeroNvr.OnvifEventIngestService
