import ZeroNvr.Core.Errors
import ZeroNvr.Core.Redaction
import ZeroNvr.Lib.Outcome
import ZeroNvr.Models

/-! # Event ingest

An event of a provider is identified by its source, the instance of the source
and the provider's own id.  An ingest under an identity that is known overwrites
the event field by field, and otherwise creates it.
-/

namespace ZeroNvr

open Lib

structure EventIngest where
  source : String
  category : String
  startedAt : Int
  sourceInstanceId : Option String := none
  sourceEventId : Option String := none
  cameraId : Option Uuid := none
  label : Option String := none
  endedAt : Option Int := none
  confidence : Option ℚ := none
  severity : Option String := none
  zone : Option String := none
  snapshotRef : Option String := none
  correlationId : Option String := none
  metadata : Dict := []

structure EventUpsertResult where
  event : Event
  created : Bool

/-- The identifying texts of an ingest, once checked. -/
structure EventIdentity where
  source : String
  category : String
  sourceInstanceId : Option String
  sourceEventId : Option String
  deriving DecidableEq

/-- The describing texts of an ingest, once checked. -/
structure EventTexts where
  label : Option String
  severity : Option String
  zone : Option String
  snapshotRef : Option String
  correlationId : Option String

namespace EventService

/-! ## Checked texts -/

def tooLong (fieldName : String) : PyError :=
  apiError 422 "event_field_too_long" (fieldName ++ " is too long.")

/-- `_text` with `required`. -/
def requiredText (value : String) (fieldName : String) (maxLength : Nat) : Result String :=
  let normalized := strip value
  if normalized = "" then .error (apiError 422 "event_field_required" (fieldName ++ " is required."))
  else if maxLength < normalized.length then .error (tooLong fieldName)
  else .ok normalized

/-- `_text` without `required`. -/
def text (value : Option String) (fieldName : String) (maxLength : Option Nat) : Result (Option String) :=
  match value with
  | none => .ok none
  | some value =>
    let normalized := strip value
    if normalized = "" then .ok none
    else if maxLength.any (· < normalized.length) then .error (tooLong fieldName)
    else .ok (some normalized)

theorem text_some {value : Option String} {fieldName : String} {maxLength : Option Nat} {stored : String}
    (checked : text value fieldName maxLength = .ok (some stored)) : strip stored = stored ∧ stored ≠ "" := by
  unfold text at checked
  split at checked
  · cases checked
  next value =>
  dsimp only at checked
  split at checked
  · cases checked
  next nonempty =>
  split at checked
  · cases checked
  · cases checked
    exact ⟨strip_strip value, nonempty⟩

/-- A text that needs no stripping is stored as it is. -/
theorem text_stripped {value fieldName : String} {maxLength : Option Nat} {stored : Option String}
    (stripped : strip value = value) (nonempty : value ≠ "")
    (checked : text (some value) fieldName maxLength = .ok stored) : stored = some value := by
  unfold text at checked
  dsimp only at checked
  rw [stripped, if_neg nonempty] at checked
  split at checked
  · cases checked
  · cases checked
    rfl

theorem requiredText_stripped {value fieldName stored : String} {maxLength : Nat} (stripped : strip value = value)
    (checked : requiredText value fieldName maxLength = .ok stored) : stored = value := by
  unfold requiredText at checked
  dsimp only at checked
  rw [stripped] at checked
  split at checked
  · cases checked
  split at checked
  · cases checked
  · cases checked
    rfl

def identity (item : EventIngest) : Result EventIdentity := do
  let source ← requiredText item.source "source" 64
  let category ← requiredText item.category "category" 64
  let sourceInstanceId ← text item.sourceInstanceId "source_instance_id" (some 256)
  let sourceEventId ← text item.sourceEventId "source_event_id" (some 512)
  if sourceEventId.isSome ∧ sourceInstanceId.isNone then
    .error (apiError 422 "event_source_instance_required"
      "source_instance_id is required when source_event_id is provided.")
  else .ok { source, category, sourceInstanceId, sourceEventId }

theorem identity_ok {item : EventIngest} {own : EventIdentity} (isOwn : identity item = .ok own) :
    requiredText item.source "source" 64 = .ok own.source ∧
      requiredText item.category "category" 64 = .ok own.category ∧
      text item.sourceInstanceId "source_instance_id" (some 256) = .ok own.sourceInstanceId ∧
      text item.sourceEventId "source_event_id" (some 512) = .ok own.sourceEventId ∧
      (own.sourceEventId.isSome → own.sourceInstanceId.isSome) := by
  unfold identity at isOwn
  simp only [bind_eq_ok] at isOwn
  obtain ⟨source, isSource, category, isCategory, sourceInstanceId, isInstance, sourceEventId, isEvent, checked⟩ := isOwn
  split at checked
  · cases checked
  next complete =>
    cases checked
    refine ⟨isSource, isCategory, isInstance, isEvent, fun hasEvent => ?_⟩
    by_contra noInstance
    exact complete ⟨hasEvent, by simpa using noInstance⟩

def texts (item : EventIngest) : Result EventTexts := do
  let label ← text item.label "label" (some 128)
  let severity ← text item.severity "severity" (some 32)
  let zone ← text item.zone "zone" (some 128)
  let snapshotRef ← text item.snapshotRef "snapshot_ref" none
  let correlationId ← text item.correlationId "correlation_id" (some 128)
  .ok { label, severity, zone, snapshotRef, correlationId }

/-- The event is the one a provider knows under the given id. -/
def isProviderEvent (source : String) (sourceInstanceId : Option String) (sourceEventId : String)
    (event : Event) : Bool :=
  event.source = source ∧ event.sourceInstanceId = sourceInstanceId ∧ event.sourceEventId = some sourceEventId

def providerEvent (db : Database) (source : String) (sourceInstanceId : Option String)
    (sourceEventId : String) : Option Event :=
  db.events.first? (isProviderEvent source sourceInstanceId sourceEventId)

def existingEvent (db : Database) (identity : EventIdentity) : Option Event :=
  identity.sourceEventId.bind (providerEvent db identity.source identity.sourceInstanceId)

/-- The existing event is mapped to another camera than the ingest. -/
def cameraConflict (existing : Option Event) (cameraId : Option Uuid) : Bool :=
  existing.any fun event => event.cameraId.isSome && cameraId.isSome && event.cameraId != cameraId

variable (redactText : String → String)

/-- What the row listeners do to an event before it is written. -/
def flushed (event : Event) : Event := { event with metadata := redactFields redactText event.metadata }

/-- The event after the ingest's fields are assigned and flushed. -/
def assign (item : EventIngest) (identity : EventIdentity) (texts : EventTexts) (event : Event) : Event :=
  flushed redactText { event with
    cameraId := item.cameraId.or event.cameraId
    category := identity.category
    label := texts.label
    startedAt := item.startedAt
    endedAt := item.endedAt
    confidence := item.confidence
    severity := texts.severity
    zone := texts.zone
    snapshotRef := texts.snapshotRef
    correlationId := texts.correlationId
    metadata := redactFields redactText item.metadata }

theorem assign_key (item : EventIngest) (identity : EventIdentity) (texts : EventTexts) (event : Event) :
    Keyed.key (assign redactText item identity texts event) = Keyed.key event := rfl

/-- A new event of the identity. -/
def newEvent (item : EventIngest) (identity : EventIdentity) (texts : EventTexts) (id : Uuid) : Event :=
  assign redactText item identity texts {
    id
    source := identity.source
    sourceInstanceId := identity.sourceInstanceId
    sourceEventId := identity.sourceEventId
    category := identity.category
    startedAt := item.startedAt }

theorem newEvent_key (item : EventIngest) (identity : EventIdentity) (texts : EventTexts) (id : Uuid) :
    Keyed.key (newEvent redactText item identity texts id) = id := rfl

/-- The catalog with the fields of an event overwritten. -/
def overwrite (db : Database) (item : EventIngest) (identity : EventIdentity) (texts : EventTexts)
    (event : Event) : Database :=
  let assigned := assign redactText item identity texts
  { db with events := db.events.modify event.id assigned (assign_key redactText item identity texts) }

variable (uuid4 : Supply Uuid)

/-- The catalog with a new event. -/
def add (db : Database) (item : EventIngest) (identity : EventIdentity) (texts : EventTexts) : Database :=
  let make := newEvent redactText item identity texts
  { db with events := db.events.create uuid4 make (newEvent_key redactText item identity texts) }

def upsertProviderEvent (db : Database) (item : EventIngest) : Result (Database × EventUpsertResult) := do
  let identity ← identity item
  if item.endedAt.any (· < item.startedAt) then
    .error (apiError 422 "event_time_range_invalid" "Event end must not be before event start.")
  else if item.confidence.any fun confidence => ¬ (0 ≤ confidence ∧ confidence ≤ 1) then
    .error (apiError 422 "event_confidence_invalid" "Event confidence must be between 0 and 1.")
  else if item.cameraId.any fun cameraId => (db.cameras.get? cameraId).isNone then
    .error (apiError 422 "event_camera_unknown" "Event camera does not exist.")
  else if cameraConflict (existingEvent db identity) item.cameraId then
    .error (apiError 409 "event_camera_identity_conflict"
      "Provider event identity is already mapped to another camera.")
  else do
    let texts ← texts item
    match existingEvent db identity with
    | some event =>
      .ok (overwrite redactText db item identity texts event,
        { event := assign redactText item identity texts event, created := false })
    | none =>
      .ok (add redactText uuid4 db item identity texts,
        { event := newEvent redactText item identity texts (db.events.newKey uuid4), created := true })

/-! ## What an upsert does -/

variable {redactText uuid4} {db db' : Database} {item : EventIngest} {result : EventUpsertResult}

theorem mem_overwrite {own : EventIdentity} {texts : EventTexts} {event row : Event} :
    row ∈ (overwrite redactText db item own texts event).events ↔
      ∃ old ∈ db.events, (if Keyed.key old = event.id then assign redactText item own texts old else old) = row := by
  have inModified : row ∈ db.events.modify event.id (assign redactText item own texts)
    (assign_key redactText item own texts) ↔ _ := Table.mem_modify
  exact inModified

theorem mem_add {own : EventIdentity} {texts : EventTexts} {row : Event} :
    row ∈ (add redactText uuid4 db item own texts).events ↔
      row ∈ db.events ∨ row = newEvent redactText item own texts (db.events.newKey uuid4) := by
  have inCreated : row ∈ db.events.create uuid4 (newEvent redactText item own texts)
    (newEvent_key redactText item own texts) ↔ _ := Table.mem_create
  exact inCreated

theorem upsertProviderEvent_cases (upserted : upsertProviderEvent redactText uuid4 db item = .ok (db', result)) :
    ∃ own texts_, identity item = .ok own ∧ texts item = .ok texts_ ∧
      (∀ ended ∈ item.endedAt, item.startedAt ≤ ended) ∧
      cameraConflict (existingEvent db own) item.cameraId = false ∧
      ((∃ event, existingEvent db own = some event ∧
          result = { event := assign redactText item own texts_ event, created := false } ∧
          db' = overwrite redactText db item own texts_ event) ∨
        existingEvent db own = none ∧
          result = { event := newEvent redactText item own texts_ (db.events.newKey uuid4), created := true } ∧
          db' = add redactText uuid4 db item own texts_) := by
  unfold upsertProviderEvent at upserted
  rw [bind_eq_ok] at upserted
  obtain ⟨own, isOwn, upserted⟩ := upserted
  split at upserted
  · cases upserted
  next ordered =>
  split at upserted
  · cases upserted
  split at upserted
  · cases upserted
  split at upserted
  · cases upserted
  next noConflict =>
  rw [bind_eq_ok] at upserted
  obtain ⟨texts_, isTexts, upserted⟩ := upserted
  refine ⟨own, texts_, isOwn, isTexts, ?_, by simpa using noConflict, ?_⟩
  · intro ended isEnded
    by_contra before
    exact ordered (Option.any_eq_true _ _ |>.mpr ⟨ended, isEnded, by simpa using before⟩)
  · cases existing : existingEvent db own with
    | some event =>
      rw [existing] at upserted
      cases upserted
      exact .inl ⟨event, rfl, rfl, rfl⟩
    | none =>
      rw [existing] at upserted
      cases upserted
      exact .inr ⟨rfl, rfl, rfl⟩

theorem providerEvent_overwrite (own : EventIdentity) (texts : EventTexts) (event : Event) (source : String)
    (sourceInstanceId : Option String) (sourceEventId : String) :
    providerEvent (overwrite redactText db item own texts event) source sourceInstanceId sourceEventId =
      (providerEvent db source sourceInstanceId sourceEventId).map fun row =>
        if Keyed.key row = event.id then assign redactText item own texts row else row :=
  Table.first?_modify (assign_key redactText item own texts) fun _ => rfl

theorem providerEvent_add (own : EventIdentity) (texts : EventTexts) (source : String)
    (sourceInstanceId : Option String) (sourceEventId : String) :
    let new := newEvent redactText item own texts (db.events.newKey uuid4)
    providerEvent (add redactText uuid4 db item own texts) source sourceInstanceId sourceEventId =
      (providerEvent db source sourceInstanceId sourceEventId).or
        (if isProviderEvent source sourceInstanceId sourceEventId new then some new else none) :=
  Table.first?_create (newEvent_key redactText item own texts) _

/-- The fields of the event an upsert returns. -/
theorem upsertProviderEvent_event (upserted : upsertProviderEvent redactText uuid4 db item = .ok (db', result))
    {own : EventIdentity} (isOwn : identity item = .ok own) :
    result.event.startedAt = item.startedAt ∧ result.event.endedAt = item.endedAt ∧
      (∀ sourceEventId, own.sourceEventId = some sourceEventId →
        isProviderEvent own.source own.sourceInstanceId sourceEventId result.event = true) := by
  obtain ⟨own', texts_, isOwn', _, _, _, cases_⟩ := upsertProviderEvent_cases upserted
  obtain rfl : own = own' := Except.ok.inj (isOwn.symm.trans isOwn')
  rcases cases_ with ⟨event, existing, rfl, rfl⟩ | ⟨_, rfl, rfl⟩
  · refine ⟨rfl, rfl, fun sourceEventId hasId => ?_⟩
    rw [existingEvent, hasId, Option.bind_some] at existing
    exact (Table.mem_of_first? existing).2
  · refine ⟨rfl, rfl, fun sourceEventId hasId => ?_⟩
    simp [isProviderEvent, newEvent, assign, flushed, hasId]

/-- An event on a camera stays there. -/
theorem upsertProviderEvent_camera (upserted : upsertProviderEvent redactText uuid4 db item = .ok (db', result))
    {cameraId : Uuid} (onCamera : item.cameraId = some cameraId) : result.event.cameraId = some cameraId := by
  obtain ⟨_, _, _, _, _, _, cases_⟩ := upsertProviderEvent_cases upserted
  rcases cases_ with ⟨event, _, rfl, _⟩ | ⟨_, rfl, _⟩
  · change item.cameraId.or _ = _
    rw [onCamera, Option.some_or]
  · change item.cameraId.or _ = _
    rw [onCamera, Option.some_or]

/-- Afterwards the identity of the ingest names the event that was returned. -/
theorem providerEvent_upsert (upserted : upsertProviderEvent redactText uuid4 db item = .ok (db', result))
    {own : EventIdentity} (isOwn : identity item = .ok own) {sourceEventId : String}
    (hasId : own.sourceEventId = some sourceEventId) :
    providerEvent db' own.source own.sourceInstanceId sourceEventId = some result.event := by
  have isNamed := (upsertProviderEvent_event upserted isOwn).2.2 sourceEventId hasId
  obtain ⟨own', texts_, isOwn', _, _, _, cases_⟩ := upsertProviderEvent_cases upserted
  obtain rfl : own = own' := Except.ok.inj (isOwn.symm.trans isOwn')
  rcases cases_ with ⟨event, existing, rfl, rfl⟩ | ⟨existing, rfl, rfl⟩
  · rw [existingEvent, hasId, Option.bind_some] at existing
    rw [providerEvent_overwrite, existing]
    simp [Keyed.key]
  · rw [existingEvent, hasId, Option.bind_some] at existing
    rw [providerEvent_add, existing, Option.none_or]
    exact if_pos isNamed

/-- Events that the provider knows under other ids stay as they are. -/
theorem providerEvent_upsert_other (upserted : upsertProviderEvent redactText uuid4 db item = .ok (db', result))
    {source : String} {sourceInstanceId : Option String} {sourceEventId : String}
    (differs : isProviderEvent source sourceInstanceId sourceEventId result.event = false) :
    providerEvent db' source sourceInstanceId sourceEventId =
      providerEvent db source sourceInstanceId sourceEventId := by
  obtain ⟨own, texts_, _, _, _, _, cases_⟩ := upsertProviderEvent_cases upserted
  rcases cases_ with ⟨event, existing, rfl, rfl⟩ | ⟨_, rfl, rfl⟩
  · rw [providerEvent_overwrite]
    cases found : providerEvent db source sourceInstanceId sourceEventId with
    | none => rfl
    | some row =>
      obtain ⟨member, isRow⟩ := Table.mem_of_first? found
      have notOwn : Keyed.key row ≠ event.id := by
        intro same
        obtain ⟨_, _, isEvent⟩ := Option.bind_eq_some_iff.mp existing
        have sameRow : row = event := Table.eq_of_key_eq member (Table.mem_of_first? isEvent).1 same
        rw [← sameRow] at differs
        exact Bool.false_ne_true (differs.symm.trans isRow)
      rw [Option.map_some, if_neg notOwn]
  · rw [providerEvent_add, if_neg (by rw [differs]; exact Bool.false_ne_true), Option.or_none]

/-- An upsert changes events only. -/
theorem upsertProviderEvent_frame (upserted : upsertProviderEvent redactText uuid4 db item = .ok (db', result)) :
    db' = { db with events := db'.events } := by
  obtain ⟨_, _, _, _, _, _, cases_⟩ := upsertProviderEvent_cases upserted
  rcases cases_ with ⟨_, _, _, rfl⟩ | ⟨_, _, rfl⟩ <;> rfl

end EventService

end ZeroNvr
