import ZeroNvr.Recordings.Catalog
import ZeroNvr.Storage.Retention

/-! # The manual minimum

Whether a segment is in the manual class is decided by the reasons written down
when it was ingested.  The planner looks at the triggers that overlap a segment
again, but puts it in the event class for every one of them.  So a segment that
was ingested before its manual trigger existed keeps the manual minimum only
where another class reaches as far.
-/

namespace ZeroNvr.ManualRetention

open Lib RetentionPlanner RecordingTriggerService RecordingCatalogService

variable {db : Database} {segment : RecordingSegment} {policy : RetentionPolicy}

/-- The segment as it was ingested with the given reasons. -/
def ingestedWith (segment : RecordingSegment) (reasons : List String) : RecordingSegment :=
  { segment with recordingReasons := reasons }

/-- The deadline of the segment under the given reasons. -/
def deadline (db : Database) (segment : RecordingSegment) (policy : RetentionPolicy) (reasons : List String) :
    Option Int :=
  (retentionHorizon db (ingestedWith segment reasons) policy).deadline

/-- The segment is kept for the manual minimum; no deadline stands for one that is still to come. -/
def KeepsManual (segment : RecordingSegment) (policy : RetentionPolicy) (deadline : Option Int) : Prop :=
  ∀ instant ∈ deadline, manualDeadline segment policy ≤ instant

/-! ## The longest deadline -/

theorem longer_snd (left right : RetentionClass × Int) : (longer left right).2 = max left.2 right.2 := by
  unfold longer
  split
  next later => omega
  next earlier => omega

theorem foldl_longer_snd (deadlines : List (RetentionClass × Int)) (start : RetentionClass × Int) :
    (deadlines.foldl longer start).2 = deadlines.foldl (fun bound deadline => max bound deadline.2) start.2 := by
  induction deadlines generalizing start with
  | nil => rfl
  | cons deadline deadlines ih => rw [List.foldl_cons, List.foldl_cons, ih, longer_snd]

/-- What the other classes give a segment that a closed trigger or event overlaps. -/
def withoutManual (db : Database) (segment : RecordingSegment) (policy : RetentionPolicy) : Int :=
  max (ordinaryDeadline segment policy) (eventDeadline db segment policy)

theorem deadline_of_overlap (overlaps : (overlappingEnds db segment).isEmpty = false) (reasons : List String) :
    deadline db segment policy reasons =
      if activeEvent db segment then none
      else some (if inManualClass (ingestedWith segment reasons) then
        max (withoutManual db segment policy) (manualDeadline segment policy) else withoutManual db segment policy) := by
  have isEvent : inEventClass db (ingestedWith segment reasons) = true := by
    rw [inEventClass, Bool.or_eq_true, Bool.not_eq_true']
    exact .inr overlaps
  have isActive : activeEvent db (ingestedWith segment reasons) = activeEvent db segment := rfl
  unfold deadline retentionHorizon
  rw [isActive]
  split
  · rfl
  · simp only [extraDeadlines, isEvent, if_true, foldl_longer_snd]
    split <;> rfl

/-! ## The anchor of the event class -/

theorem le_foldl_max_iff (ends : List (Option Int)) (anchor bound : Int) :
    bound ≤ ends.foldl (fun anchor ended => max anchor (ended.getD anchor)) anchor ↔
      bound ≤ anchor ∨ ∃ ended, some ended ∈ ends ∧ bound ≤ ended := by
  induction ends generalizing anchor with
  | nil => simp
  | cons head tail ih =>
    rw [List.foldl_cons, ih]
    cases head with
    | none => simp
    | some ended =>
      simp only [Option.getD_some, le_max_iff, List.mem_cons, Option.some.injEq, or_and_right, exists_or,
        exists_eq_left, or_assoc]

/-- The manual minimum is reached by another class: by its own length, or because something that overlaps
    the segment ended late. -/
def ReachedByOthers (db : Database) (segment : RecordingSegment) (policy : RetentionPolicy) : Prop :=
  policy.manualKeepDays ≤ policy.ordinaryKeepDays ∨ policy.manualKeepDays ≤ policy.eventKeepDays ∨
    ∃ ended, some ended ∈ overlappingEnds db segment ∧
      segment.endedAt + days policy.manualKeepDays ≤ ended + days policy.eventKeepDays

theorem manualDeadline_le_iff :
    manualDeadline segment policy ≤ withoutManual db segment policy ↔ ReachedByOthers db segment policy := by
  have byOrdinary : manualDeadline segment policy ≤ ordinaryDeadline segment policy ↔
      policy.manualKeepDays ≤ policy.ordinaryKeepDays := by
    unfold manualDeadline ordinaryDeadline days
    omega
  have byEvent : manualDeadline segment policy ≤ eventDeadline db segment policy ↔
      manualDeadline segment policy - days policy.eventKeepDays ≤ eventAnchor db segment := by
    unfold eventDeadline
    omega
  have byLength : manualDeadline segment policy - days policy.eventKeepDays ≤ segment.endedAt ↔
      policy.manualKeepDays ≤ policy.eventKeepDays := by
    unfold manualDeadline days
    omega
  rw [withoutManual, le_max_iff, byOrdinary, byEvent, eventAnchor, le_foldl_max_iff, byLength]
  simp only [ReachedByOthers, manualDeadline, sub_le_iff_le_add]

/-! ## Ingest before and after the request -/

theorem inManualClass_iff {zoneInfo : String → Result TimeZone} {cameraId : Uuid} {startedAt endedAt : Int}
    {reasons : List String} (isReasons : recordingReasons zoneInfo db cameraId startedAt endedAt = .ok reasons) :
    inManualClass (ingestedWith segment reasons) ↔
      ∃ trigger ∈ overlapping db cameraId startedAt endedAt, isManual trigger := by
  rw [← manual_mem_recordingReasons isReasons, inManualClass, hasReason, List.any_eq_true]
  constructor
  · rintro ⟨reason, member, isWord⟩
    rw [decide_eq_true_eq, lower_recordingReasons isReasons reason member] at isWord
    exact isWord ▸ member
  · intro member
    exact ⟨"manual", member, by rw [decide_eq_true_eq, lower_recordingReasons isReasons _ member]⟩

/-- A segment that a manual trigger overlaps keeps the manual minimum when it is ingested in a catalog that
    holds the trigger.  Ingested in another catalog, before the trigger was stored, it keeps the minimum, and
    the same deadline, exactly when another manual trigger had marked it already, something that overlaps it
    is still open, or another class reaches as far. -/
theorem manualDeadline_orderIndependent_iff {zoneInfo : String → Result TimeZone} {before after final : Database}
    {stored closed : RecordingTrigger} {startedAt endedAt : Int} {reasonsBefore reasonsAfter : List String}
    (overlapsIngest : stored ∈ overlapping after segment.cameraId startedAt endedAt) (manual : isManual stored)
    (overlapsPurge : closed ∈ overlappingTriggers final segment)
    (ingestedBefore : recordingReasons zoneInfo before segment.cameraId startedAt endedAt = .ok reasonsBefore)
    (ingestedAfter : recordingReasons zoneInfo after segment.cameraId startedAt endedAt = .ok reasonsAfter) :
    KeepsManual segment policy (deadline final segment policy reasonsAfter) ∧
    (deadline final segment policy reasonsBefore = deadline final segment policy reasonsAfter ∧
        KeepsManual segment policy (deadline final segment policy reasonsBefore) ↔
      (∃ other ∈ overlapping before segment.cameraId startedAt endedAt, isManual other) ∨
        activeEvent final segment ∨ ReachedByOthers final segment policy) := by
  have overlaps : (overlappingEnds final segment).isEmpty = false := by
    rw [List.isEmpty_eq_false_iff_exists_mem]
    exact ⟨closed.plannedEndAt, List.mem_append_left _ (List.mem_map_of_mem overlapsPurge)⟩
  have manualAfter : inManualClass (ingestedWith segment reasonsAfter) = true :=
    (inManualClass_iff ingestedAfter).mpr ⟨stored, overlapsIngest, manual⟩
  have manualBefore : inManualClass (ingestedWith segment reasonsBefore) ↔ _ := inManualClass_iff ingestedBefore
  rw [← manualBefore, ← manualDeadline_le_iff]
  simp only [deadline_of_overlap overlaps, manualAfter, if_true]
  cases activeEvent final segment with
  | true => simp [KeepsManual]
  | false =>
    cases inManualClass (ingestedWith segment reasonsBefore) with
    | true => simp [KeepsManual]
    | false =>
      simp only [KeepsManual, Bool.false_eq_true, if_false, Option.mem_some_iff, forall_eq', Option.some.injEq,
        false_or, left_eq_sup, le_max_right, and_self]

/-! ## A request after the fact -/

def keepAMonth : RetentionPolicy where
  id := 7
  scope := .global
  ordinaryKeepDays := 1
  eventKeepDays := 7
  manualKeepDays := 30
  mode := .hard

/-- A camera that records continuously and on request. -/
def oneCamera : Database where
  cameras := .single { id := 1 }
  recordingPolicies := ⟨[{ cameraId := 1, eventRecordingEnabled := true }], List.nodup_singleton _⟩
  retentionPolicies := ⟨[keepAMonth], List.nodup_singleton _⟩

/-- The ten seconds before the request. -/
def preRoll : RecordingSegment where
  id := 3
  cameraId := 1
  startedAt := seconds 100
  endedAt := seconds 110
  durationMs := 10000
  timingStatus := .final
  timingSource := .nextSegmentBoundary

/-- The trigger of a request at second 112, and the same trigger stopped at second 120. -/
def pressed : RecordingTrigger := newManual { cameraId := 1, eventRecordingEnabled := true } none (seconds 112) none 1

def released : RecordingTrigger := stopped (seconds 120) pressed

def afterRequest : Database := { oneCamera with triggers := ⟨[pressed], List.nodup_singleton _⟩ }

def afterStop : Database := { oneCamera with triggers := ⟨[released], List.nodup_singleton _⟩ }

theorem mem_pressed : pressed ∈ overlapping afterRequest 1 preRoll.startedAt preRoll.endedAt := by
  rw [overlapping, List.mem_insertionSort]
  exact List.mem_filter.mpr ⟨List.mem_singleton_self pressed, by decide⟩

theorem mem_released : released ∈ overlappingTriggers afterStop preRoll :=
  List.mem_filter.mpr ⟨List.mem_singleton_self released, by decide⟩

/-- The pre-roll is deleted when the event class ends, weeks before the manual minimum. -/
theorem preRoll_loses_manual :
    createManual .counting oneCamera 1 (seconds 112) none none = .ok (afterRequest, pressed, true) ∧
    stopManual afterRequest pressed (seconds 120) = .ok (afterStop, released) ∧
    released ∈ overlappingTriggers afterStop preRoll ∧ isManual released ∧ released.plannedEndAt ≠ none ∧
    recordingReasons RecordingPolicyService.utcOnly oneCamera 1 preRoll.startedAt preRoll.endedAt =
      .ok ["continuous"] ∧
    recordingReasons RecordingPolicyService.utcOnly afterRequest 1 preRoll.startedAt preRoll.endedAt =
      .ok ["continuous", "manual"] ∧
    deadline afterStop preRoll keepAMonth ["continuous"] = some (seconds 130 + days 7) ∧
    deadline afterStop preRoll keepAMonth ["continuous", "manual"] = some (seconds 110 + days 30) ∧
    ¬ KeepsManual preRoll keepAMonth (deadline afterStop preRoll keepAMonth ["continuous"]) := by
  refine ⟨rfl, rfl, mem_released, by decide, by decide, by decide, by decide, by decide, by decide, ?_⟩
  have early : deadline afterStop preRoll keepAMonth ["continuous"] = some (seconds 130 + days 7) := by decide
  intro keeps
  have reached := keeps _ early
  exact absurd reached (by decide)

/-- A policy that keeps events for a month as well. -/
def keepEventsToo : RetentionPolicy := { keepAMonth with eventKeepDays := 30 }

theorem preRoll_keeps_manual :
    deadline afterStop preRoll keepEventsToo ["continuous"] =
        deadline afterStop preRoll keepEventsToo ["continuous", "manual"] ∧
      KeepsManual preRoll keepEventsToo (deadline afterStop preRoll keepEventsToo ["continuous"]) := by
  have longEvents : keepEventsToo.manualKeepDays ≤ keepEventsToo.eventKeepDays := le_refl _
  have ingestedBefore : recordingReasons RecordingPolicyService.utcOnly oneCamera 1 preRoll.startedAt
      preRoll.endedAt = .ok ["continuous"] := by decide
  have ingestedAfter : recordingReasons RecordingPolicyService.utcOnly afterRequest 1 preRoll.startedAt
      preRoll.endedAt = .ok ["continuous", "manual"] := by decide
  refine (manualDeadline_orderIndependent_iff mem_pressed (by decide) mem_released ingestedBefore
    ingestedAfter).2.mpr ?_
  exact .inr (.inr (.inr (.inl longEvents)))

end ZeroNvr.ManualRetention
