import ZeroNvr.Recordings.Policy
import ZeroNvr.Recordings.Triggers

/-! # The recording catalog

What is written down about a segment when its file is complete.
-/

namespace ZeroNvr

open Lib

namespace RecordingCatalogService

variable (zoneInfo : String → Result TimeZone)

/-! ## The reasons of a recording -/

/-- `timedelta / 2`, to the nearest microsecond and half of one to an even number. -/
def half (duration : Int) : Int :=
  if duration % 2 = 0 ∨ duration / 2 % 2 = 0 then duration / 2 else duration / 2 + 1

/-- What the baseline of the policy contributes. -/
def baselineReasons (policy : Option RecordingPolicy) (startedAt endedAt : Int) : Result (List String) :=
  match policy with
  | none => .ok []
  | some policy =>
    if ¬ policy.enabled then .ok []
    else do
      let records ← RecordingPolicyService.baselineShouldRecord zoneInfo policy
        (startedAt + half (endedAt - startedAt))
      if records then .ok [if policy.baselineMode = .continuous then "continuous" else "schedule"]
      else .ok []

def triggerReason (trigger : RecordingTrigger) : String :=
  if RecordingTriggerService.isManual trigger then "manual" else "event"

/-- All reasons there are, in their order. -/
def allReasons : List String := ["continuous", "event", "manual", "schedule"]

def recordingReasons (db : Database) (cameraId : Uuid) (startedAt endedAt : Int) : Result (List String) := do
  let baseline ← baselineReasons zoneInfo (db.recordingPolicies.get? cameraId) startedAt endedAt
  let triggered := (RecordingTriggerService.overlapping db cameraId startedAt endedAt).map triggerReason
  .ok (allReasons.filter fun reason => reason ∈ baseline ++ triggered)

variable {zoneInfo} {db : Database} {cameraId : Uuid} {startedAt endedAt : Int} {reasons : List String}

theorem baselineReasons_mem {policy : Option RecordingPolicy}
    (isBaseline : baselineReasons zoneInfo policy startedAt endedAt = .ok reasons) {reason : String}
    (member : reason ∈ reasons) : reason = "continuous" ∨ reason = "schedule" := by
  unfold baselineReasons at isBaseline
  split at isBaseline
  · cases isBaseline
    cases member
  split at isBaseline
  · cases isBaseline
    cases member
  rw [bind_eq_ok] at isBaseline
  obtain ⟨records, _, isBaseline⟩ := isBaseline
  split at isBaseline
  · cases isBaseline
    rw [List.mem_singleton.mp member]
    split
    · exact .inl rfl
    · exact .inr rfl
  · cases isBaseline
    cases member

/-- A segment is recorded as manual exactly when a manual trigger overlaps it. -/
theorem manual_mem_recordingReasons
    (isReasons : recordingReasons zoneInfo db cameraId startedAt endedAt = .ok reasons) :
    "manual" ∈ reasons ↔
      ∃ trigger ∈ RecordingTriggerService.overlapping db cameraId startedAt endedAt,
        RecordingTriggerService.isManual trigger := by
  unfold recordingReasons at isReasons
  rw [bind_eq_ok] at isReasons
  obtain ⟨baseline, isBaseline, same⟩ := isReasons
  cases same
  have notBaseline : "manual" ∉ baseline := by
    intro member
    rcases baselineReasons_mem isBaseline member with same | same
    · exact absurd same (by decide)
    · exact absurd same (by decide)
  rw [List.mem_filter, decide_eq_true_eq, List.mem_append, List.mem_map]
  constructor
  · rintro ⟨_, inBaseline | ⟨trigger, member, isManual⟩⟩
    · exact absurd inBaseline notBaseline
    · refine ⟨trigger, member, ?_⟩
      unfold triggerReason at isManual
      split at isManual
      next manual => exact manual
      next => exact absurd isManual (by decide)
  · rintro ⟨trigger, member, manual⟩
    exact ⟨by simp [allReasons], .inr ⟨trigger, member, if_pos manual⟩⟩

/-- The reasons are lower case words. -/
theorem lower_recordingReasons (isReasons : recordingReasons zoneInfo db cameraId startedAt endedAt = .ok reasons) :
    ∀ reason ∈ reasons, lower reason = reason := by
  unfold recordingReasons at isReasons
  rw [bind_eq_ok] at isReasons
  obtain ⟨baseline, _, same⟩ := isReasons
  cases same
  intro reason member
  have known : ∀ reason ∈ allReasons, lower reason = reason := by decide
  exact known reason (List.mem_filter.mp member).1

end RecordingCatalogService

end ZeroNvr
