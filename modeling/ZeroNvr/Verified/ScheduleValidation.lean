import ZeroNvr.Verified.ScheduleTransitions

/-! # What validating a schedule can raise

A time that matches the pattern may hold a digit of another script or end with a
newline; neither is a time for `time.fromisoformat`.  A malformed timezone key is
a `ValueError` too.  What is accepted is evaluated without an error, and only the
days with their times matter.
-/

namespace ZeroNvr.RecordingPolicyService

open Lib

/-- A value, or an error of the client. -/
def Answered {α : Type} (outcome : Result α) : Prop :=
  (∃ value, outcome = .ok value) ∨ ∃ error, outcome = .error (.api error)

/-! ## Times -/

/-- Five ASCII characters. -/
def PlainTime (value : String) : Prop := value.toList.length = 5 ∧ ∀ c ∈ value.toList, c.toNat < 128

theorem digit?_of_isDecimal {c : Char} (isDigit : isDecimal c = true) (isAscii : c.toNat < 128) :
    digit? c = some ((c.toNat : Int) - 48) ∧ 48 ≤ c.toNat ∧ c.toNat ≤ 57 := by
  have inRange : 48 ≤ c.toNat ∧ c.toNat ≤ 57 := by
    rw [isDecimal, List.any_eq_true] at isDigit
    obtain ⟨first, member, inBlock⟩ := isDigit
    simp only [Bool.and_eq_true, decide_eq_true_iff] at inBlock
    simp only [decimalZeros, List.mem_cons, List.not_mem_nil, or_false] at member
    omega
  refine ⟨?_, inRange⟩
  rw [digit?, if_pos]
  exact ⟨inRange.1, inRange.2⟩

theorem not_digit?_of_not_ascii {c : Char} (notAscii : ¬c.toNat < 128) : digit? c = none := by
  rw [digit?, if_neg]
  rintro ⟨_, atMost⟩
  have : c.toNat ≤ 57 := atMost
  omega

/-- What the pattern says about the characters. -/
theorem timeReMatch_cases {value : String} (matched : timeReMatch value = true) :
    ∃ h₁ h₂ m₁ m₂ : Char,
      (value.toList = [h₁, h₂, ':', m₁, m₂] ∨ value.toList = [h₁, h₂, ':', m₁, m₂, '\n']) ∧
        ((h₁ = '0' ∨ h₁ = '1') ∧ isDecimal h₂ = true ∨ h₁ = '2' ∧ '0' ≤ h₂ ∧ h₂ ≤ '3') ∧
          '0' ≤ m₁ ∧ m₁ ≤ '5' ∧ isDecimal m₂ = true := by
  rw [timeReMatch] at matched
  dsimp only at matched
  split at matched
  · next h₁ h₂ m₁ m₂ shape =>
    simp only [Bool.and_eq_true, Bool.or_eq_true, decide_eq_true_iff, beq_iff_eq] at matched
    exact ⟨h₁, h₂, m₁, m₂, .inl shape, by tauto⟩
  · next h₁ h₂ m₁ m₂ shape =>
    simp only [Bool.and_eq_true, Bool.or_eq_true, decide_eq_true_iff, beq_iff_eq] at matched
    exact ⟨h₁, h₂, m₁, m₂, .inr shape, by tauto⟩
  · cases matched

theorem digit?_of_le {c : Char} (atLeast : '0' ≤ c) (atMost : c ≤ '9') : digit? c = some ((c.toNat : Int) - 48) :=
  if_pos ⟨atLeast, atMost⟩

/-- A plain time is the time it shows. -/
theorem timeFromisoformat_plain {value : String} (matched : timeReMatch value = true) (plain : PlainTime value) :
    ∃ h₁ h₂ m₁ m₂ : Char, value.toList = [h₁, h₂, ':', m₁, m₂] ∧
      (∀ c ∈ [h₁, h₂, m₁, m₂], 48 ≤ c.toNat ∧ c.toNat ≤ 57) ∧ m₁.toNat ≤ 53 ∧
        ∃ time, timeFromisoformat value = .ok time ∧
          time.micros = (((h₁.toNat : Int) - 48) * 10 + (h₂.toNat - 48)) * 3600000000 +
            (((m₁.toNat : Int) - 48) * 10 + (m₂.toNat - 48)) * 60000000 := by
  obtain ⟨h₁, h₂, m₁, m₂, shape, hours, fromZero, toFive, isDigit⟩ := timeReMatch_cases matched
  have shape : value.toList = [h₁, h₂, ':', m₁, m₂] := shape.resolve_right fun newline => by
    have length := plain.1
    rw [newline] at length
    cases length
  have ascii : ∀ c ∈ [h₁, h₂, ':', m₁, m₂], c.toNat < 128 := fun c member => plain.2 c (by rwa [shape])
  have lastDigit := digit?_of_isDecimal isDigit (ascii m₂ (by simp))
  have minuteLow : 48 ≤ m₁.toNat := fromZero
  have minuteHigh : m₁.toNat ≤ 53 := toFive
  have hourDigits : 48 ≤ h₁.toNat ∧ h₁.toNat ≤ 50 ∧ 48 ≤ h₂.toNat ∧ h₂.toNat ≤ 57 ∧ (h₁.toNat = 50 → h₂.toNat ≤ 51) := by
    rcases hours with ⟨rfl | rfl, isDecimal⟩ | ⟨rfl, low, high⟩
    · have second := digit?_of_isDecimal isDecimal (ascii h₂ (by simp))
      exact ⟨by decide, by decide, second.2.1, second.2.2, fun isTwo => absurd isTwo (by decide)⟩
    · have second := digit?_of_isDecimal isDecimal (ascii h₂ (by simp))
      exact ⟨by decide, by decide, second.2.1, second.2.2, fun isTwo => absurd isTwo (by decide)⟩
    · have low : 48 ≤ h₂.toNat := low
      have high : h₂.toNat ≤ 51 := high
      exact ⟨by decide, by decide, low, by omega, fun _ => high⟩
  obtain ⟨h₁Low, h₁High, h₂Low, h₂High, atMostThree⟩ := hourDigits
  refine ⟨h₁, h₂, m₁, m₂, shape, fun c member => ?_, minuteHigh, ?_⟩
  · simp only [List.mem_cons, List.not_mem_nil, or_false] at member
    rcases member with rfl | rfl | rfl | rfl
    · omega
    · omega
    · omega
    · exact lastDigit.2
  · have digit {c : Char} (low : 48 ≤ c.toNat) (high : c.toNat ≤ 57) : digit? c = some ((c.toNat : Int) - 48) :=
      digit?_of_le low high
    rw [timeFromisoformat, shape]
    simp only [digit h₁Low (by omega), digit h₂Low h₂High, digit minuteLow (by omega), lastDigit.1, Option.bind_eq_bind,
      Option.bind_some]
    rw [dif_pos (by omega)]
    exact ⟨_, rfl, rfl⟩

theorem timeFromisoformat_not_plain {value : String} (matched : timeReMatch value = true) (notPlain : ¬PlainTime value) :
    ∃ message, timeFromisoformat value = .error (.valueError message) := by
  obtain ⟨h₁, h₂, m₁, m₂, shape | newline, hours, fromZero, toFive, isDigit⟩ := timeReMatch_cases matched
  · have low : h₁.toNat < 128 := by
      rcases hours with ⟨rfl | rfl, _⟩ | ⟨rfl, _⟩
      · decide
      · decide
      · decide
    have middle : m₁.toNat ≤ 53 := toFive
    have foreign : ¬h₂.toNat < 128 ∨ ¬m₂.toNat < 128 := by
      rw [← not_and_or]
      rintro ⟨second, last⟩
      refine notPlain ⟨by rw [shape]; rfl, fun c member => ?_⟩
      rw [shape] at member
      simp only [List.mem_cons, List.not_mem_nil, or_false] at member
      rcases member with rfl | rfl | rfl | rfl | rfl
      · exact low
      · exact second
      · decide
      · omega
      · exact last
    rw [timeFromisoformat, shape]
    rcases foreign with second | last
    · simp only [not_digit?_of_not_ascii second]
      cases digit? h₁ with
      | none => exact ⟨_, rfl⟩
      | some _ => exact ⟨_, rfl⟩
    · simp only [not_digit?_of_not_ascii last]
      cases digit? h₁ with
      | none => exact ⟨_, rfl⟩
      | some _ =>
        cases digit? h₂ with
        | none => exact ⟨_, rfl⟩
        | some _ =>
          cases digit? m₁ with
          | none => exact ⟨_, rfl⟩
          | some _ => exact ⟨_, rfl⟩
  · rw [timeFromisoformat, newline]
    exact ⟨_, rfl⟩

/-- Plain times differ as their texts do. -/
theorem timeFromisoformat_injective {left right : String} (leftMatched : timeReMatch left = true)
    (rightMatched : timeReMatch right = true) (leftPlain : PlainTime left) (rightPlain : PlainTime right)
    (same : timeFromisoformat left = timeFromisoformat right) : left = right := by
  obtain ⟨h₁, h₂, m₁, m₂, leftShape, leftDigits, leftMinute, leftTime, leftParsed, leftMicros⟩ :=
    timeFromisoformat_plain leftMatched leftPlain
  obtain ⟨h₁', h₂', m₁', m₂', rightShape, rightDigits, rightMinute, rightTime, rightParsed, rightMicros⟩ :=
    timeFromisoformat_plain rightMatched rightPlain
  rw [leftParsed, rightParsed] at same
  have micros : leftTime.micros = rightTime.micros := congrArg TimeOfDay.micros (Except.ok.inj same)
  rw [leftMicros, rightMicros] at micros
  simp only [List.forall_mem_cons, List.not_mem_nil, false_imp_iff, implies_true, and_true] at leftDigits rightDigits
  have firstHour : h₁.toNat = h₁'.toNat := by omega
  have secondHour : h₂.toNat = h₂'.toNat := by omega
  have firstMinute : m₁.toNat = m₁'.toNat := by omega
  have secondMinute : m₂.toNat = m₂'.toNat := by omega
  have injective {a b : Char} (equal : a.toNat = b.toNat) : a = b := Char.toNat_inj.mp equal
  rw [← String.toList_inj, leftShape, rightShape, injective firstHour, injective secondHour, injective firstMinute,
    injective secondMinute]

/-! ## Windows -/

/-- Three fields: weekdays, and two texts that look like times. -/
def Timed (raw : Json) (days : List Int) (startValue endValue : String) : Prop :=
  ∃ window rawDays, raw = .obj window ∧ (∀ field ∈ window, field.1 ∈ ["days", "start", "end"]) ∧
    Dict.get window "days" = some (.arr rawDays) ∧ Dict.get window "start" = some (.str startValue) ∧
      Dict.get window "end" = some (.str endValue) ∧ intList? rawDays = some days ∧ rawDays ≠ [] ∧
        (∀ day ∈ days, 0 ≤ day ∧ day ≤ 6) ∧ timeReMatch startValue = true ∧ timeReMatch endValue = true

/-- A window of two different times. -/
def Acceptable (raw : Json) : Prop :=
  ∃ days startValue endValue, Timed raw days startValue endValue ∧ PlainTime startValue ∧ PlainTime endValue ∧
    startValue ≠ endValue

/-- One of the texts that look like times is none. -/
def Unparsable (raw : Json) : Prop :=
  ∃ days startValue endValue, Timed raw days startValue endValue ∧ ¬(PlainTime startValue ∧ PlainTime endValue)

theorem Timed.matched {raw : Json} {days : List Int} {startValue endValue : String}
    (timed : Timed raw days startValue endValue) : timeReMatch startValue = true ∧ timeReMatch endValue = true := by
  obtain ⟨_, _, _, _, _, _, _, _, _, _, startMatched, endMatched⟩ := timed
  exact ⟨startMatched, endMatched⟩

theorem Timed.validateWindow {raw : Json} {days : List Int} {startValue endValue : String}
    (timed : Timed raw days startValue endValue) :
    validateWindow raw = (do
      let startTime ← timeFromisoformat startValue
      let endTime ← timeFromisoformat endValue
      if startTime = endTime then .error (scheduleInvalid "Schedule start and end times must differ.")
      else .ok { days := days.dedup.insertionSort (· ≤ ·), startTime, endTime }) := by
  obtain ⟨window, rawDays, rfl, fields, hasDays, hasStart, hasEnd, isList, nonempty, inWeek, startMatched, endMatched⟩ :=
    timed
  have threeFields : window.all (fun field => field.1 ∈ ["days", "start", "end"]) = true ∧
      (Dict.get window "days").isSome = true ∧ (Dict.get window "start").isSome = true ∧
        (Dict.get window "end").isSome = true := by
    refine ⟨List.all_eq_true.mpr fun field member => decide_eq_true (fields field member), ?_, ?_, ?_⟩
    · rw [hasDays, Option.isSome_some]
    · rw [hasStart, Option.isSome_some]
    · rw [hasEnd, Option.isSome_some]
  have matched : ¬(rawDays.isEmpty = true ∨ ¬timeReMatch startValue = true ∨ ¬timeReMatch endValue = true) := by
    simp [nonempty, startMatched, endMatched]
  have days : ¬(days.any fun day => decide (day < 0 ∨ 6 < day)) = true := by
    rw [List.any_eq_true]
    rintro ⟨day, member, outside⟩
    have := inWeek day member
    have := of_decide_eq_true outside
    omega
  rw [RecordingPolicyService.validateWindow]
  rw [if_pos threeFields, hasDays, hasStart, hasEnd]
  dsimp only
  rw [isList]
  dsimp only
  rw [if_neg matched, if_neg days]

/-- A window that is not timed is an error of the client. -/
theorem validateWindow_of_not_timed {raw : Json} (notTimed : ∀ days startValue endValue, ¬Timed raw days startValue endValue) :
    ∃ error, validateWindow raw = .error (.api error) := by
  rw [validateWindow.eq_def]
  split
  · next window =>
    split
    · next threeFields =>
      split
      · next rawDays startValue endValue hasDays hasStart hasEnd =>
        split
        · next days isList =>
          split
          · exact ⟨_, rfl⟩
          · next matched =>
            simp only [not_or, not_not, List.isEmpty_iff] at matched
            split
            · exact ⟨_, rfl⟩
            · next inWeek =>
              refine absurd ⟨window, rawDays, rfl, fun field member => ?_, hasDays, hasStart, hasEnd, isList, matched.1,
                fun day member => ?_, matched.2.1, matched.2.2⟩ (notTimed days startValue endValue)
              · exact of_decide_eq_true (List.all_eq_true.mp threeFields.1 field member)
              · rw [List.any_eq_true] at inWeek
                by_contra outside
                exact inWeek ⟨day, member, decide_eq_true (by omega)⟩
        · exact ⟨_, rfl⟩
      · exact ⟨_, rfl⟩
    · exact ⟨_, rfl⟩
  · exact ⟨_, rfl⟩

/-- A window is accepted, raises what is not caught, or is an error of the client. -/
theorem validateWindow_cases (raw : Json) :
    (Acceptable raw ∧ ¬Unparsable raw ∧ ∃ window, validateWindow raw = .ok window) ∨
      (¬Acceptable raw ∧ Unparsable raw ∧ ∃ message, validateWindow raw = .error (.valueError message)) ∨
        (¬Acceptable raw ∧ ¬Unparsable raw ∧ ∃ error, validateWindow raw = .error (.api error)) := by
  have unique {days days' : List Int} {s s' e e' : String} (timed : Timed raw days s e) (timed' : Timed raw days' s' e') :
      s = s' ∧ e = e' := by
    obtain ⟨window, _, rfl, _, _, hasStart, hasEnd, _⟩ := timed
    obtain ⟨window', _, same, _, _, hasStart', hasEnd', _⟩ := timed'
    cases same
    rw [hasStart] at hasStart'
    rw [hasEnd] at hasEnd'
    exact ⟨Json.str.inj (Option.some.inj hasStart'), Json.str.inj (Option.some.inj hasEnd')⟩
  by_cases isTimed : ∃ days startValue endValue, Timed raw days startValue endValue
  · obtain ⟨days, startValue, endValue, timed⟩ := isTimed
    obtain ⟨startMatched, endMatched⟩ := timed.matched
    have acceptable : Acceptable raw ↔ (PlainTime startValue ∧ PlainTime endValue) ∧ startValue ≠ endValue := by
      constructor
      · rintro ⟨days', s', e', timed', startPlain, endPlain, differ⟩
        obtain ⟨rfl, rfl⟩ := unique timed timed'
        exact ⟨⟨startPlain, endPlain⟩, differ⟩
      · exact fun ⟨⟨startPlain, endPlain⟩, differ⟩ => ⟨days, _, _, timed, startPlain, endPlain, differ⟩
    have unparsable : Unparsable raw ↔ ¬(PlainTime startValue ∧ PlainTime endValue) := by
      constructor
      · rintro ⟨days', s', e', timed', notPlain⟩
        obtain ⟨rfl, rfl⟩ := unique timed timed'
        exact notPlain
      · exact fun notPlain => ⟨days, _, _, timed, notPlain⟩
    rw [acceptable, unparsable, timed.validateWindow]
    by_cases startPlain : PlainTime startValue
    · obtain ⟨_, _, _, _, _, _, _, startTime, startParsed, _⟩ := timeFromisoformat_plain startMatched startPlain
      by_cases endPlain : PlainTime endValue
      · obtain ⟨_, _, _, _, _, _, _, endTime, endParsed, _⟩ := timeFromisoformat_plain endMatched endPlain
        have plain : PlainTime startValue ∧ PlainTime endValue := ⟨startPlain, endPlain⟩
        rw [startParsed, endParsed]
        simp only [bind, Except.bind]
        by_cases same : startTime = endTime
        · rw [if_pos same]
          have sameText : startValue = endValue :=
            timeFromisoformat_injective startMatched endMatched startPlain endPlain (by rw [startParsed, endParsed, same])
          exact .inr (.inr ⟨fun accepted => accepted.2 sameText, not_not.mpr plain, _, rfl⟩)
        · rw [if_neg same]
          refine .inl ⟨⟨plain, fun sameText => same ?_⟩, not_not.mpr plain, _, rfl⟩
          rw [sameText, endParsed] at startParsed
          exact (Except.ok.inj startParsed).symm
      · obtain ⟨message, failed⟩ := timeFromisoformat_not_plain endMatched endPlain
        rw [startParsed, failed]
        exact .inr (.inl ⟨fun accepted => endPlain accepted.1.2, fun plain => endPlain plain.2, message, rfl⟩)
    · obtain ⟨message, failed⟩ := timeFromisoformat_not_plain startMatched startPlain
      rw [failed]
      exact .inr (.inl ⟨fun accepted => startPlain accepted.1.1, fun plain => startPlain plain.1, message, rfl⟩)
  · push Not at isTimed
    obtain ⟨error, refused⟩ := validateWindow_of_not_timed isTimed
    refine .inr (.inr ⟨?_, ?_, error, refused⟩)
    · exact fun ⟨days, s, e, timed, _⟩ => isTimed days s e timed
    · exact fun ⟨days, s, e, timed, _⟩ => isTimed days s e timed

/-- No window that cannot be parsed comes after accepted ones only. -/
def ParsedFirst (rawWindows : List Json) : Prop :=
  ∀ before raw after, rawWindows = before ++ raw :: after → (∀ earlier ∈ before, Acceptable earlier) → ¬Unparsable raw

theorem mapM_answered_iff (rawWindows : List Json) : Answered (rawWindows.mapM validateWindow) ↔ ParsedFirst rawWindows := by
  induction rawWindows with
  | nil =>
    refine iff_of_true (.inl ⟨[], rfl⟩) fun before raw after isSplit => ?_
    exact absurd isSplit.symm (by simp)
  | cons first rest ih =>
    rw [List.mapM_cons]
    rcases validateWindow_cases first with
      ⟨acceptable, parsable, window, isOk⟩ | ⟨_, unparsable, message, failed⟩ | ⟨refusable, parsable, error, refused⟩
    · rw [isOk]
      have sameAnswer : Answered (do
          let window ← (.ok window : Result WeeklyWindow)
          let windows ← rest.mapM validateWindow
          pure (window :: windows)) ↔ Answered (rest.mapM validateWindow) := by
        simp only [bind, Except.bind]
        cases rest.mapM validateWindow with
        | ok windows => exact iff_of_true (.inl ⟨_, rfl⟩) (.inl ⟨_, rfl⟩)
        | error e =>
          constructor
          · rintro (⟨_, impossible⟩ | ⟨error, same⟩)
            · cases impossible
            · exact .inr ⟨error, congrArg _ (Except.error.inj same)⟩
          · rintro (⟨_, impossible⟩ | ⟨error, same⟩)
            · cases impossible
            · exact .inr ⟨error, congrArg _ (Except.error.inj same)⟩
      refine sameAnswer.trans (ih.trans ⟨fun parsed before raw after isSplit accepted => ?_,
        fun parsed before raw after isSplit accepted => ?_⟩)
      · cases before with
        | nil =>
          obtain ⟨rfl, rfl⟩ := List.cons.inj isSplit
          exact parsable
        | cons head tail =>
          obtain ⟨rfl, isRest⟩ := List.cons.inj isSplit
          exact parsed tail raw after isRest fun earlier member => accepted earlier (List.mem_cons_of_mem _ member)
      · refine parsed (first :: before) raw after (by rw [isSplit, List.cons_append]) fun earlier member => ?_
        rcases List.mem_cons.mp member with rfl | inRest
        · exact acceptable
        · exact accepted earlier inRest
    · rw [failed]
      refine iff_of_false ?_ fun parsed => parsed [] first rest rfl (fun _ member => by cases member) unparsable
      rintro (⟨_, impossible⟩ | ⟨_, impossible⟩)
      · cases impossible
      · cases impossible
    · rw [refused]
      refine iff_of_true (.inr ⟨error, rfl⟩) fun before raw after isSplit accepted => ?_
      cases before with
      | nil =>
        obtain ⟨rfl, rfl⟩ := List.cons.inj isSplit
        exact parsable
      | cons head tail =>
        obtain ⟨rfl, _⟩ := List.cons.inj isSplit
        exact absurd (accepted _ List.mem_cons_self) refusable

/-! ## Schedules -/

section Schedules

variable (zoneInfo : String → Result TimeZone)

/-- The timezone key is well formed, and no window that cannot be parsed comes after accepted ones only. -/
def CleanSchedule (baselineMode : BaselineMode) (scheduleJson : Dict) (scheduleTimezone : Option String) : Prop :=
  baselineMode = .schedule → scheduleTimezone.getD "" ≠ "" →
    (∀ message, zoneInfo (scheduleTimezone.getD "") ≠ .error (.valueError message)) ∧
      ((∃ zone, zoneInfo (scheduleTimezone.getD "") = .ok zone) → (∀ field ∈ scheduleJson, field.1 = "weekly") →
        ∀ rawWindows, Dict.get scheduleJson "weekly" = some (.arr rawWindows) → rawWindows.length ≤ 64 →
          ParsedFirst rawWindows)

/-- `ZoneInfo` returns a zone, does not know the key or finds it malformed. -/
def ZoneErrors : Prop :=
  ∀ key, (∃ zone, zoneInfo key = .ok zone) ∨ zoneInfo key = .error (.zoneInfoNotFoundError key) ∨
    ∃ message, zoneInfo key = .error (.valueError message)

theorem answered_api {α : Type} (statusCode : Nat) (code message : String) :
    Answered (.error (apiError statusCode code message) : Result α) := .inr ⟨_, rfl⟩

variable {zoneInfo}

theorem validateSchedule_answered_iff (zoneErrors : ZoneErrors zoneInfo) (baselineMode : BaselineMode) (scheduleJson : Dict)
    (scheduleTimezone : Option String) :
    Answered (validateSchedule zoneInfo baselineMode scheduleJson scheduleTimezone) ↔
      CleanSchedule zoneInfo baselineMode scheduleJson scheduleTimezone := by
  rw [validateSchedule, CleanSchedule]
  split
  · next notSchedule =>
    refine iff_of_true ?_ fun isSchedule => absurd isSchedule notSchedule
    split
    · exact answered_api _ _ _
    split
    · exact answered_api _ _ _
    · exact .inl ⟨[], rfl⟩
  next isSchedule =>
  have isSchedule := not_not.mp isSchedule
  dsimp only
  split
  · next isEmpty => exact iff_of_true (answered_api _ _ _) fun _ nonempty => absurd isEmpty nonempty
  next nonempty =>
  rw [checkTimezone]
  rcases zoneErrors (scheduleTimezone.getD "") with ⟨zone, known⟩ | unknown | ⟨message, malformed⟩
  · rw [known]
    simp only [bind, Except.bind]
    have conditions : (baselineMode = .schedule → scheduleTimezone.getD "" ≠ "" →
        (∀ message, (.ok zone : Result TimeZone) ≠ .error (.valueError message)) ∧
          ((∃ zone', (.ok zone : Result TimeZone) = .ok zone') → (∀ field ∈ scheduleJson, field.1 = "weekly") →
            ∀ rawWindows, Dict.get scheduleJson "weekly" = some (.arr rawWindows) → rawWindows.length ≤ 64 →
              ParsedFirst rawWindows)) ↔
        ((∀ field ∈ scheduleJson, field.1 = "weekly") →
          ∀ rawWindows, Dict.get scheduleJson "weekly" = some (.arr rawWindows) → rawWindows.length ≤ 64 →
            ParsedFirst rawWindows) :=
      ⟨fun clean => (clean isSchedule nonempty).2 ⟨zone, rfl⟩,
        fun clean _ _ => ⟨fun message same => (by cases same), fun _ => clean⟩⟩
    rw [conditions]
    split
    · next unsupported =>
      refine iff_of_true (answered_api _ _ _) fun fields => absurd unsupported ?_
      rw [List.any_eq_true]
      rintro ⟨field, member, differs⟩
      exact absurd (fields field member) (of_decide_eq_true differs)
    next supported =>
    have fields : ∀ field ∈ scheduleJson, field.1 = "weekly" := fun field member => by
      by_contra differs
      exact supported (List.any_eq_true.mpr ⟨field, member, decide_eq_true differs⟩)
    split
    · next rawWindows weekly =>
      split
      · next isEmpty =>
        refine iff_of_true (answered_api _ _ _) fun _ other isOther _ before raw after isSplit => ?_
        rw [weekly] at isOther
        cases isOther
        rw [List.isEmpty_iff.mp isEmpty] at isSplit
        exact absurd isSplit.symm (by simp)
      split
      · next isLong =>
        refine iff_of_true (answered_api _ _ _) fun _ other isOther isShort => ?_
        rw [weekly] at isOther
        cases isOther
        omega
      · next isShort =>
        refine (mapM_answered_iff rawWindows).trans ⟨fun parsed _ other isOther _ => ?_, fun clean => ?_⟩
        · rw [weekly] at isOther
          cases isOther
          exact parsed
        · exact clean fields rawWindows weekly (by omega)
    · next notList =>
      exact iff_of_true (answered_api _ _ _) fun _ rawWindows isList => absurd isList (notList rawWindows)
  · rw [unknown]
    refine iff_of_true (answered_api _ _ _) fun _ _ => ⟨fun message same => (by cases same), fun ⟨_, same⟩ => (by cases same)⟩
  · rw [malformed]
    refine iff_of_false ?_ fun clean => (clean isSchedule nonempty).1 message rfl
    rintro (⟨_, impossible⟩ | ⟨_, impossible⟩)
    · cases impossible
    · cases impossible

/-! ## Evaluation -/

variable {policy : RecordingPolicy} {windows : List WeeklyWindow}

/-- A schedule that is accepted has a zone. -/
theorem zoneOf_of_windowsOf (accepted : windowsOf zoneInfo policy = .ok windows) (scheduled : policy.baselineMode = .schedule) :
    policy.scheduleTimezone.getD "" ≠ "" ∧ ∃ zone, zoneOf zoneInfo policy = .ok zone := by
  rw [windowsOf, validateSchedule, if_neg (not_not.mpr scheduled)] at accepted
  dsimp only at accepted
  split at accepted
  · cases accepted
  · next nonempty =>
    refine ⟨nonempty, ?_⟩
    rw [checkTimezone] at accepted
    rw [zoneOf]
    cases found : zoneInfo (policy.scheduleTimezone.getD "") with
    | ok zone => exact ⟨zone, rfl⟩
    | error e =>
      rw [found] at accepted
      cases e <;> cases accepted

theorem nextBaselineTransition_schedule {zone : TimeZone} (windowsFound : windowsOf zoneInfo policy = .ok windows)
    (zoneFound : zoneOf zoneInfo policy = .ok zone) (enabled : policy.enabled = true)
    (scheduled : policy.baselineMode = .schedule) (nonempty : policy.scheduleTimezone.getD "" ≠ "") (after : Int) :
    nextBaselineTransition zoneInfo policy after =
      .ok (((candidates windows zone (WallClock.date (zone.astimezone after).wall)).filter (after < ·)).insertionSort
        (· ≤ ·)).head? := by
  rw [nextBaselineTransition, if_neg (by simp [enabled, scheduled, nonempty]), windowsFound, zoneFound]
  rfl

/-- An accepted schedule is evaluated at every instant. -/
theorem baseline_evaluates (accepted : windowsOf zoneInfo policy = .ok windows) (instant : Int) :
    (∃ recording, baselineShouldRecord zoneInfo policy instant = .ok recording) ∧
      ∃ next, nextBaselineTransition zoneInfo policy instant = .ok next := by
  cases enabled : policy.enabled with
  | false =>
    refine ⟨⟨false, ?_⟩, none, ?_⟩
    · rw [baselineShouldRecord, if_pos (by simp [enabled])]
    · rw [nextBaselineTransition, if_pos (by simp [enabled])]
  | true =>
    cases mode : policy.baselineMode with
    | continuous =>
      refine ⟨⟨true, ?_⟩, none, ?_⟩
      · rw [baselineShouldRecord, if_neg (by simp [enabled]), mode]
      · rw [nextBaselineTransition, if_pos (by simp [mode])]
    | disabled =>
      refine ⟨⟨false, ?_⟩, none, ?_⟩
      · rw [baselineShouldRecord, if_neg (by simp [enabled]), mode]
      · rw [nextBaselineTransition, if_pos (by simp [mode])]
    | schedule =>
      obtain ⟨nonempty, zone, zoneFound⟩ := zoneOf_of_windowsOf accepted mode
      exact ⟨⟨_, baselineShouldRecord_schedule accepted zoneFound enabled mode instant⟩,
        _, nextBaselineTransition_schedule accepted zoneFound enabled mode nonempty instant⟩

/-! ## Days with their times -/

/-- The day, the start and the end. -/
def triples (windows : List WeeklyWindow) : List (Int × TimeOfDay × TimeOfDay) :=
  windows.flatMap fun window => window.days.map fun day => (day, window.startTime, window.endTime)

theorem mem_triples {windows : List WeeklyWindow} {day : Int} {startTime endTime : TimeOfDay} :
    (day, startTime, endTime) ∈ triples windows ↔
      ∃ window ∈ windows, day ∈ window.days ∧ window.startTime = startTime ∧ window.endTime = endTime := by
  simp only [triples, List.mem_flatMap, List.mem_map, Prod.mk.injEq]
  constructor
  · rintro ⟨window, member, _, inDays, rfl, isStart, isEnd⟩
    exact ⟨window, member, inDays, isStart, isEnd⟩
  · rintro ⟨window, member, inDays, isStart, isEnd⟩
    exact ⟨window, member, day, inDays, rfl, isStart, isEnd⟩

/-- What a day of some window has is what some triple has. -/
theorem exists_triple {windows : List WeeklyWindow} (day : Int) (holds : TimeOfDay → TimeOfDay → Prop) :
    (∃ window ∈ windows, day ∈ window.days ∧ holds window.startTime window.endTime) ↔
      ∃ startTime endTime, (day, startTime, endTime) ∈ triples windows ∧ holds startTime endTime := by
  constructor
  · rintro ⟨window, member, inDays, held⟩
    exact ⟨_, _, mem_triples.mpr ⟨window, member, inDays, rfl, rfl⟩, held⟩
  · rintro ⟨startTime, endTime, isTriple, held⟩
    obtain ⟨window, member, inDays, rfl, rfl⟩ := mem_triples.mp isTriple
    exact ⟨window, member, inDays, held⟩

variable {other : List WeeklyWindow}

theorem exists_window_congr (same : ∀ triple, triple ∈ triples windows ↔ triple ∈ triples other) (day : Int)
    (holds : TimeOfDay → TimeOfDay → Prop) :
    (∃ window ∈ windows, day ∈ window.days ∧ holds window.startTime window.endTime) ↔
      ∃ window ∈ other, day ∈ window.days ∧ holds window.startTime window.endTime := by
  rw [exists_triple, exists_triple]
  exact exists_congr fun startTime => exists_congr fun endTime => and_congr_left fun _ => same _

theorem windowContains_iff (window : WeeklyWindow) (day : Int) (localTime : TimeOfDay) :
    windowContains window day localTime = true ↔
      weekday day ∈ window.days ∧ (window.startTime.micros ≤ localTime.micros ∧
          (window.startTime.micros < window.endTime.micros → localTime.micros < window.endTime.micros)) ∨
        (weekday day - 1) % 7 ∈ window.days ∧ (¬window.startTime.micros < window.endTime.micros ∧
          localTime.micros < window.endTime.micros) := by
  rw [windowContains]
  split
  · next sameDay =>
    have sameDay : window.startTime.micros < window.endTime.micros := of_decide_eq_true sameDay
    rw [decide_eq_true_iff]
    tauto
  · next crossing =>
    have crossing : ¬window.startTime.micros < window.endTime.micros := fun before => crossing (decide_eq_true before)
    rw [decide_eq_true_iff]
    tauto

theorem scheduleContains_congr (same : ∀ triple, triple ∈ triples windows ↔ triple ∈ triples other) (wall : Int) :
    scheduleContains windows wall = scheduleContains other wall := by
  rw [scheduleContains, scheduleContains, Bool.eq_iff_iff, List.any_eq_true, List.any_eq_true]
  simp only [windowContains_iff, and_or_left, exists_or]
  exact or_congr (exists_window_congr same _ fun startTime endTime =>
      startTime.micros ≤ (WallClock.time wall).micros ∧
        (startTime.micros < endTime.micros → (WallClock.time wall).micros < endTime.micros))
    (exists_window_congr same _ fun startTime endTime =>
      ¬startTime.micros < endTime.micros ∧ (WallClock.time wall).micros < endTime.micros)

theorem listed_congr (same : ∀ triple, triple ∈ triples windows ↔ triple ∈ triples other) (zone : TimeZone)
    (startDate instant : Int) : Listed windows zone startDate instant ↔ Listed other zone startDate instant := by
  have byDay (windows : List WeeklyWindow) : Listed windows zone startDate instant ↔
      ∃ day wall, startDate ≤ day ∧ day ≤ startDate + 8 ∧ instant = wall - zone.wallOffset wall ∧
        ∃ window ∈ windows, weekday day ∈ window.days ∧ (wall = WallClock.combine day window.startTime ∨
          wall = WallClock.combine (if window.startTime.micros < window.endTime.micros then day else day + 1)
            window.endTime) := by
    have endDay (window : WeeklyWindow) (day : Int) : window.endDay day =
        if window.startTime.micros < window.endTime.micros then day else day + 1 := by
      rw [WeeklyWindow.endDay, WeeklyWindow.sameDay]
      simp only [decide_eq_true_iff]
    simp only [Listed, Edge, endDay]
    constructor
    · rintro ⟨window, member, day, wall, first, last, edge, isInstant⟩
      exact ⟨day, wall, first, last, isInstant, window, member, edge⟩
    · rintro ⟨day, wall, first, last, isInstant, window, member, edge⟩
      exact ⟨window, member, day, wall, first, last, edge, isInstant⟩
  rw [byDay, byDay]
  refine exists_congr fun day => exists_congr fun wall => ?_
  rw [exists_window_congr same (weekday day) fun startTime endTime =>
    wall = WallClock.combine day startTime ∨
      wall = WallClock.combine (if startTime.micros < endTime.micros then day else day + 1) endTime]

/-- The least of the items is the same when the items are. -/
theorem head?_insertionSort_congr {items others : List Int} (same : ∀ item, item ∈ items ↔ item ∈ others) :
    (items.insertionSort (· ≤ ·)).head? = (others.insertionSort (· ≤ ·)).head? := by
  cases first : (items.insertionSort (· ≤ ·)).head? with
  | none =>
    have isEmpty : items = [] := by
      have noneSorted := List.head?_eq_none_iff.mp first
      have lengths := (List.perm_insertionSort (· ≤ ·) items).length_eq
      rw [noneSorted] at lengths
      exact List.eq_nil_of_length_eq_zero lengths.symm
    have othersEmpty : others = [] := List.eq_nil_iff_forall_not_mem.mpr fun item member => by
      have inItems := (same item).mpr member
      rw [isEmpty] at inItems
      cases inItems
    rw [othersEmpty]
    rfl
  | some least =>
    obtain ⟨member, isLeast⟩ := head?_insertionSort first
    cases second : (others.insertionSort (· ≤ ·)).head? with
    | none =>
      have noneSorted := List.head?_eq_none_iff.mp second
      have sorted := (List.perm_insertionSort (· ≤ ·) others).mem_iff.mpr ((same least).mp member)
      rw [noneSorted] at sorted
      cases sorted
    | some otherLeast =>
      obtain ⟨otherMember, otherIsLeast⟩ := head?_insertionSort second
      exact congrArg some (le_antisymm (isLeast _ ((same _).mpr otherMember)) (otherIsLeast _ ((same _).mp member)))

/-- Two schedules with the same triples are evaluated to the same. -/
theorem baseline_congr {otherPolicy : RecordingPolicy} (accepted : windowsOf zoneInfo policy = .ok windows)
    (otherAccepted : windowsOf zoneInfo otherPolicy = .ok other) (sameEnabled : otherPolicy.enabled = policy.enabled)
    (sameMode : otherPolicy.baselineMode = policy.baselineMode)
    (sameZone : otherPolicy.scheduleTimezone = policy.scheduleTimezone)
    (same : ∀ triple, triple ∈ triples windows ↔ triple ∈ triples other) (instant : Int) :
    baselineShouldRecord zoneInfo policy instant = baselineShouldRecord zoneInfo otherPolicy instant ∧
      nextBaselineTransition zoneInfo policy instant = nextBaselineTransition zoneInfo otherPolicy instant := by
  by_cases isSchedule : policy.enabled = true ∧ policy.baselineMode = .schedule
  · obtain ⟨enabled, scheduled⟩ := isSchedule
    obtain ⟨nonempty, zone, zoneFound⟩ := zoneOf_of_windowsOf accepted scheduled
    have otherZone : zoneOf zoneInfo otherPolicy = .ok zone := by
      rw [zoneOf, sameZone]
      exact zoneFound
    constructor
    · rw [baselineShouldRecord_schedule accepted zoneFound enabled scheduled,
        baselineShouldRecord_schedule otherAccepted otherZone (sameEnabled.trans enabled) (sameMode.trans scheduled),
        scheduleContains_congr same]
    · rw [nextBaselineTransition_schedule accepted zoneFound enabled scheduled nonempty,
        nextBaselineTransition_schedule otherAccepted otherZone (sameEnabled.trans enabled) (sameMode.trans scheduled)
          (sameZone ▸ nonempty)]
      refine congrArg Except.ok (head?_insertionSort_congr fun candidate => ?_)
      rw [List.mem_filter, List.mem_filter, mem_candidates, mem_candidates, listed_congr same]
  · rw [not_and] at isSchedule
    rw [baselineShouldRecord, baselineShouldRecord, nextBaselineTransition, nextBaselineTransition, sameEnabled, sameMode]
    cases enabled : policy.enabled with
    | false => exact ⟨rfl, rfl⟩
    | true =>
      have notScheduled := isSchedule enabled
      cases mode : policy.baselineMode with
      | continuous => exact ⟨rfl, by rw [if_pos (by simp), if_pos (by simp)]⟩
      | disabled => exact ⟨rfl, by rw [if_pos (by simp), if_pos (by simp)]⟩
      | schedule => exact absurd mode notScheduled

/-- Validation answers if and only if the schedule is clean; what it accepts is evaluated at every instant, and
    to the same for all schedules with the same triples. -/
theorem validateSchedule_sufficient (zoneErrors : ZoneErrors zoneInfo) :
    (∀ baselineMode scheduleJson scheduleTimezone,
      Answered (validateSchedule zoneInfo baselineMode scheduleJson scheduleTimezone) ↔
        CleanSchedule zoneInfo baselineMode scheduleJson scheduleTimezone) ∧
    (∀ policy windows instant, windowsOf zoneInfo policy = .ok windows →
      (∃ recording, baselineShouldRecord zoneInfo policy instant = .ok recording) ∧
        ∃ next, nextBaselineTransition zoneInfo policy instant = .ok next) ∧
    ∀ policy otherPolicy windows other instant, windowsOf zoneInfo policy = .ok windows →
      windowsOf zoneInfo otherPolicy = .ok other → otherPolicy.enabled = policy.enabled →
        otherPolicy.baselineMode = policy.baselineMode → otherPolicy.scheduleTimezone = policy.scheduleTimezone →
          (∀ triple, triple ∈ triples windows ↔ triple ∈ triples other) →
            baselineShouldRecord zoneInfo policy instant = baselineShouldRecord zoneInfo otherPolicy instant ∧
              nextBaselineTransition zoneInfo policy instant = nextBaselineTransition zoneInfo otherPolicy instant :=
  ⟨validateSchedule_answered_iff zoneErrors, fun _ _ instant accepted => baseline_evaluates accepted instant,
    fun _ _ _ _ instant accepted otherAccepted sameEnabled sameMode sameZone same =>
      baseline_congr accepted otherAccepted sameEnabled sameMode sameZone same instant⟩

end Schedules

/-! ## A digit of another script -/

theorem utcOnly_zoneErrors : ZoneErrors utcOnly := by
  intro key
  rw [utcOnly]
  split
  · exact .inl ⟨_, rfl⟩
  · exact .inr (.inl rfl)

/-- Mondays to half past eight, with a zero in Arabic digits. -/
def arabicDigit : Dict :=
  [("weekly", .arr [.obj [("days", .arr [.int 0]), ("start", .str "07:00"),
    ("end", .str (String.ofList ['0', '8', ':', '3', Char.ofNat 0x660]))]])]

/-- The pattern takes the digit, and the parser does not. -/
theorem validateSchedule_arabicDigit :
    ¬∀ (zoneInfo : String → Result TimeZone), ZoneErrors zoneInfo → ∀ baselineMode scheduleJson scheduleTimezone,
      Answered (validateSchedule zoneInfo baselineMode scheduleJson scheduleTimezone) := by
  intro claim
  have failed : validateSchedule utcOnly .schedule arabicDigit (some "UTC") =
      .error (.valueError ("Invalid isoformat string: " ++ String.ofList ['0', '8', ':', '3', Char.ofNat 0x660])) := by
    rfl
  rcases claim utcOnly utcOnly_zoneErrors .schedule arabicDigit (some "UTC") with ⟨_, impossible⟩ | ⟨_, impossible⟩
  · rw [failed] at impossible
    cases impossible
  · rw [failed] at impossible
    cases impossible

/-- The night of Monday is accepted and evaluated. -/
theorem validateSchedule_sufficient_mondayNight :
    Answered (validateSchedule utcOnly .continuous [] none) ∧
      (∃ recording, baselineShouldRecord utcOnly mondayNight 1704150000000000 = .ok recording) ∧
        ∃ next, nextBaselineTransition utcOnly mondayNight 1704150000000000 = .ok next := by
  obtain ⟨answered, evaluates, _⟩ := validateSchedule_sufficient utcOnly_zoneErrors
  have accepted : ∃ windows, windowsOf utcOnly mondayNight = .ok windows := ⟨_, rfl⟩
  obtain ⟨windows, isOk⟩ := accepted
  exact ⟨(answered .continuous [] none).mpr fun isSchedule => (by cases isSchedule),
    evaluates mondayNight windows 1704150000000000 isOk⟩

end ZeroNvr.RecordingPolicyService
