import ZeroNvr.Alerts.Policies

/-! # What an alert policy matches

The filters of a request, and what it means that an event passes them.  The stored
filters are compared with them one by one; the weekdays are heeded only with a
timezone, and a time of day only when its digits are ASCII.
-/

namespace ZeroNvr.AlertMatching

open Lib AlertPolicyService AlertEvaluationService

variable {zoneInfo : String → Result TimeZone} {db : Database} {value result : Dict} {event : Event} {policy : AlertPolicy}
  {key : String}

/-! ## Passing the filters -/

section Filters

variable (zoneInfo : String → Result TimeZone) (value : Dict) (event : Event)

/-- The items of a list filter. -/
def itemsOf (value : Option Json) : List Json :=
  match value with
  | some (.arr items) => items
  | _ => []

/-- A list that is not empty has the text. -/
def TextListed (key : String) (text : Option String) : Prop :=
  itemsOf (Dict.get value key) ≠ [] →
    ∃ raw, Json.str raw ∈ itemsOf (Dict.get value key) ∧ text = some (strip raw)

/-- Ids are compared by their texts. -/
def CameraListed : Prop :=
  itemsOf (Dict.get value "camera_ids") ≠ [] →
    ∃ raw ∈ itemsOf (Dict.get value "camera_ids"), ∃ listed cameraId, uuidOf raw = some listed ∧
      event.cameraId = some cameraId ∧ UUID.text cameraId = UUID.text listed

def AtLeast (key : String) (actual : Option ℚ) : Prop :=
  ∀ least, (Dict.get value key).bind Json.number? = some least → ∃ number, actual = some number ∧ least ≤ number

def duration : Option ℚ := event.endedAt.map fun ended => ((ended - event.startedAt : Int) : ℚ) / 1000000

structure PassesOthers : Prop where
  camera : CameraListed value event
  source : TextListed value "sources" (some event.source)
  category : TextListed value "categories" (some event.category)
  label : TextListed value "labels" event.label
  zone : TextListed value "zones" event.zone
  severity : TextListed value "severities" event.severity
  confidence : AtLeast value "min_confidence" event.confidence
  duration : AtLeast value "min_duration_seconds" (duration event)

/-- The configured timezone, or UTC. -/
def timezoneOf : TimeZone :=
  match Dict.get value "timezone" with
  | some (.str timezone) =>
    match zoneInfo (strip timezone) with
    | .ok zone => zone
    | .error _ => .fixed 0
  | _ => .fixed 0

/-- What the clocks in the timezone show when the event starts. -/
def wall : Int := ((timezoneOf zoneInfo value).astimezone event.startedAt).wall

def OnWeekday : Prop :=
  ∀ days, Dict.get value "weekdays" = some (.arr days) → Json.int (weekday (WallClock.date (wall zoneInfo value event))) ∈ days

/-- The time of day of `hh:mm`, in digits of any script. -/
def clock (text : String) : Int :=
  let digit (c : Char) : Int := ((decimal? c).getD 0 : Nat)
  match text.toList with
  | [h₁, h₂, _, m₁, m₂] => (digit h₁ * 10 + digit h₂) * 3600000000 + (digit m₁ * 10 + digit m₂) * 60000000
  | _ => 0

/-- A window whose end is not after its start spans midnight. -/
def Between (start stop current : Int) : Prop :=
  if start < stop then start ≤ current ∧ current < stop else start ≤ current ∨ current < stop

def InWindow : Prop :=
  ∀ timeStart timeEnd, Dict.get value "time_start" = some (.str timeStart) → Dict.get value "time_end" = some (.str timeEnd) →
    Between (clock timeStart) (clock timeEnd) (WallClock.time (wall zoneInfo value event)).micros

structure Passes : Prop where
  others : PassesOthers value event
  weekday : OnWeekday zoneInfo value event
  window : InWindow zoneInfo value event

def Ascii (text : String) : Prop := ∀ c ∈ text.toList, c.toNat < 128

def HasTimezone : Prop := ∃ timezone, Dict.get value "timezone" = some (.str timezone)

/-- A filter before the weekdays rejects the event; or there is a timezone, and the weekday is rejected or
    the times are written in ASCII digits; or there is none, and the weekday is not rejected. -/
def Heeded : Prop :=
  PassesOthers value event →
    (HasTimezone value → OnWeekday zoneInfo value event → ∀ timeStart timeEnd,
      Dict.get value "time_start" = some (.str timeStart) → Dict.get value "time_end" = some (.str timeEnd) →
        Ascii timeStart ∧ Ascii timeEnd) ∧
    (¬HasTimezone value → OnWeekday zoneInfo value event)

end Filters

/-! ## What is stored -/

theorem get_present {fields : List (String × Option Json)} (nodup : (fields.map Prod.fst).Nodup) (key : String) :
    Dict.get (present fields) key = (fields.lookup key).join := by
  induction fields with
  | nil => rfl
  | cons field fields ih =>
    obtain ⟨name, content⟩ := field
    obtain ⟨fresh, rest⟩ := List.nodup_cons.mp nodup
    have others := ih rest
    cases content with
    | some content =>
      show List.lookup key ((name, content) :: present fields) = _
      rw [List.lookup_cons, List.lookup_cons]
      cases key == name with
      | true => rfl
      | false => exact others
    | none =>
      show Dict.get (present fields) key = _
      rw [others, List.lookup_cons]
      cases same : key == name with
      | true =>
        rw [beq_iff_eq.mp same]
        rw [List.lookup_eq_none_iff.mpr]
        · rfl
        · intro field member
          rw [bne_iff_ne]
          intro same
          exact fresh (List.mem_map.mpr ⟨field, member, same.symm⟩)
      | false => rfl

/-- The items that were parsed are the ones in the list, each one once. -/
theorem foldlM_items {α : Type} [DecidableEq α] {parse : Json → Result α} {items : List Json} {before after : List α}
    (done : items.foldlM (fun result raw => do
      let parsed ← parse raw
      .ok (if parsed ∉ result then result ++ [parsed] else result)) before = .ok after) :
    (∀ raw ∈ items, ∃ a, parse raw = .ok a) ∧ ∀ a, a ∈ after ↔ a ∈ before ∨ ∃ raw ∈ items, parse raw = .ok a := by
  induction items generalizing before with
  | nil =>
    cases done
    exact ⟨fun _ member => absurd member List.not_mem_nil, fun a => by simp⟩
  | cons raw items ih =>
    rw [List.foldlM_cons, bind_eq_ok] at done
    obtain ⟨middle, first, done⟩ := done
    rw [bind_eq_ok] at first
    obtain ⟨parsed, isParsed, same⟩ := first
    cases same
    obtain ⟨parses, members⟩ := ih done
    refine ⟨List.forall_mem_cons.mpr ⟨⟨parsed, isParsed⟩, parses⟩, fun a => ?_⟩
    have fresh : a ∈ (if parsed ∉ before then before ++ [parsed] else before) ↔ a ∈ before ∨ a = parsed := by
      split
      · rw [List.mem_append, List.mem_singleton]
      next known =>
        refine ⟨.inl, Or.rec id ?_⟩
        rintro rfl
        exact not_not.mp known
    rw [members a, fresh, or_assoc]
    refine or_congr_right ?_
    constructor
    · rintro (rfl | ⟨raw', member, isRaw⟩)
      · exact ⟨raw, List.mem_cons_self, isParsed⟩
      · exact ⟨raw', List.mem_cons_of_mem _ member, isRaw⟩
    · rintro ⟨raw', member, isRaw⟩
      rcases List.mem_cons.mp member with rfl | member
      · rw [isParsed] at isRaw
        cases isRaw
        exact .inl rfl
      · exact .inr ⟨raw', member, isRaw⟩

theorem listItems_spec {α : Type} [DecidableEq α] {field : Option Json} {maxItems : Nat} {parse : Json → Result α}
    {items : List α} (done : listItems field key maxItems parse = .ok items) :
    (∀ raw ∈ itemsOf field, ∃ a, parse raw = .ok a) ∧ (items = [] ↔ itemsOf field = []) ∧
      ∀ a, a ∈ items ↔ ∃ raw ∈ itemsOf field, parse raw = .ok a := by
  unfold listItems at done
  split at done
  · cases done
    simp [itemsOf]
  · cases done
    simp [itemsOf]
  next raws =>
    split at done
    · cases done
    · obtain ⟨parses, members⟩ := foldlM_items done
      have mem (a : α) : a ∈ items ↔ ∃ raw ∈ raws, parse raw = .ok a := by simpa using members a
      refine ⟨parses, ?_, mem⟩
      show _ ↔ raws = []
      constructor
      · rintro rfl
        refine List.eq_nil_iff_forall_not_mem.mpr fun raw member => ?_
        obtain ⟨a, isParsed⟩ := parses raw member
        exact absurd ((mem a).mpr ⟨raw, member, isParsed⟩) List.not_mem_nil
      · rintro rfl
        exact List.eq_nil_iff_forall_not_mem.mpr fun a member => by simpa using (mem a).mp member
  · cases done

/-- What is stored of a list of texts, and what was asked for. -/
structure StoredTexts (value : Dict) (key : String) (items : List String) : Prop where
  empty : items = [] ↔ itemsOf (Dict.get value key) = []
  mem : ∀ text, text ∈ items ↔ ∃ raw, Json.str raw ∈ itemsOf (Dict.get value key) ∧ text = strip raw

theorem textItem_ok {maxLength : Nat} {raw : Json} {text : String} (parsed : textItem key maxLength raw = .ok text) :
    ∃ asked, raw = .str asked ∧ text = strip asked := by
  unfold textItem at parsed
  split at parsed
  next asked =>
    split at parsed
    · cases parsed
    · cases parsed
      exact ⟨asked, rfl, rfl⟩
  · cases parsed

theorem stringList_spec {maxLength : Nat} {items : List String}
    (done : stringList (Dict.get value key) key maxLength = .ok items) : StoredTexts value key items := by
  obtain ⟨parses, empty, members⟩ := listItems_spec done
  refine ⟨empty, fun text => (members text).trans ⟨?_, ?_⟩⟩
  · rintro ⟨raw, member, parsed⟩
    obtain ⟨asked, rfl, same⟩ := textItem_ok parsed
    exact ⟨asked, member, same⟩
  · rintro ⟨asked, member, rfl⟩
    obtain ⟨text, parsed⟩ := parses _ member
    obtain ⟨_, same, rfl⟩ := textItem_ok parsed
    cases same
    exact ⟨_, member, parsed⟩

theorem uuidList_spec {ids : List Uuid} (done : uuidList (Dict.get value key) key = .ok ids) :
    (ids = [] ↔ itemsOf (Dict.get value key) = []) ∧
      ∀ id, id ∈ ids ↔ ∃ raw ∈ itemsOf (Dict.get value key), uuidOf raw = some id := by
  obtain ⟨-, empty, members⟩ := listItems_spec done
  refine ⟨empty, fun id => (members id).trans ?_⟩
  refine exists_congr fun raw => and_congr_right fun _ => ?_
  cases uuidOf raw <;> simp

theorem minimum_spec {field stored : Option Json} {maximum : ℚ} {message : String}
    (done : minimum field maximum message = .ok stored) : stored.bind Json.number? = field.bind Json.number? := by
  have checked {number : ℚ} (done : (if 0 ≤ number ∧ number ≤ maximum then .ok (some (.float number))
      else .error (matchInvalid message) : Result (Option Json)) = .ok stored) : stored = some (.float number) := by
    split at done
    · cases done
      rfl
    · cases done
  unfold minimum at done
  dsimp only at done
  split at done
  · cases done
    rfl
  · cases done
    rfl
  next number =>
    rw [bind_eq_ok] at done
    obtain ⟨exact_, isFloat, done⟩ := done
    rw [checked done]
    unfold floatOf at isFloat
    split at isFloat
    · cases isFloat
    · cases isFloat
      rfl
  next number => rw [checked done]
  · cases done

theorem intList?_eq_some {items : List Json} {days : List Int} (parsed : RecordingPolicyService.intList? items = some days) :
    items = days.map Json.int := by
  induction items generalizing days with
  | nil =>
    cases parsed
    rfl
  | cons item items ih =>
    cases item with
    | int day =>
      obtain ⟨rest, isRest, rfl⟩ := Option.map_eq_some_iff.mp parsed
      rw [ih isRest, List.map_cons]
    | _ => cases parsed

theorem weekdaysField_spec {stored : Option Json} (done : weekdaysField (Dict.get value "weekdays") = .ok stored) :
    (stored = none ∧ ∀ items, Dict.get value "weekdays" ≠ some (.arr items)) ∨
      ∃ asked days : List Int, Dict.get value "weekdays" = some (.arr (asked.map Json.int)) ∧
        stored = some (.arr (days.map Json.int)) ∧ ∀ day, day ∈ days ↔ day ∈ asked := by
  unfold weekdaysField at done
  dsimp only at done
  split at done
  next absent =>
    cases done
    exact .inl ⟨rfl, by simp [absent]⟩
  next isNull =>
    cases done
    exact .inl ⟨rfl, by simp [isNull]⟩
  next items isList =>
    split at done
    next asked parsed =>
      split at done
      · cases done
      · cases done
        refine .inr ⟨asked, _, by rw [isList, intList?_eq_some parsed], rfl, fun day => ?_⟩
        rw [List.mem_insertionSort, List.mem_dedup]
    · cases done
  · cases done

/-- Either there is no time filter, or both times and the timezone are there. -/
theorem timeWindow_spec {window : Option TimeWindow} (done : timeWindow zoneInfo value = .ok window) :
    (window = none ∧ ¬HasTimezone value ∧ ∀ timeStart, Dict.get value "time_start" ≠ some (.str timeStart)) ∨
      ∃ timeStart timeEnd timezone zone, Dict.get value "time_start" = some (.str timeStart) ∧
        Dict.get value "time_end" = some (.str timeEnd) ∧ Dict.get value "timezone" = some (.str timezone) ∧
        timeRe timeStart = true ∧ timeRe timeEnd = true ∧ zoneInfo (strip timezone) = .ok zone ∧
        window = some { timeStart, timeEnd, timezone := strip timezone } := by
  unfold timeWindow at done
  split at done
  next null =>
    cases done
    have noText {field : Option Json} (isNull : isNull field = true) (text : String) : field ≠ some (.str text) := by
      rintro rfl
      cases isNull
    exact .inl ⟨rfl, fun ⟨timezone, is⟩ => noText null.2.2 timezone is, noText null.1⟩
  · split at done
    next timeStart timeEnd timezone isStart isEnd isZone =>
      split at done
      · cases done
      next valid =>
        simp only [not_or, Bool.not_eq_true, Bool.not_eq_false] at valid
        split at done
        next zone known =>
          cases done
          exact .inr ⟨timeStart, timeEnd, timezone, zone, isStart, isEnd, isZone, by simpa using valid.1,
            by simpa using valid.2.1, known, rfl⟩
        · cases done
        · cases done
    · cases done

/-- The stored filters, one by one. -/
structure Stored (zoneInfo : String → Result TimeZone) (value result : Dict) : Prop where
  cameras : ∃ ids, Dict.get result "camera_ids" = whenItems (ids.map UUID.text) ∧
    (ids = [] ↔ itemsOf (Dict.get value "camera_ids") = []) ∧
      ∀ id, id ∈ ids ↔ ∃ raw ∈ itemsOf (Dict.get value "camera_ids"), uuidOf raw = some id
  texts : ∀ key ∈ ["sources", "categories", "labels", "zones", "severities"], ∃ items,
    Dict.get result key = whenItems items ∧ StoredTexts value key items
  minima : ∀ key ∈ ["min_confidence", "min_duration_seconds"],
    (Dict.get result key).bind Json.number? = (Dict.get value key).bind Json.number?
  weekdays : weekdaysField (Dict.get value "weekdays") = .ok (Dict.get result "weekdays")
  window : ∃ window, timeWindow zoneInfo value = .ok window ∧
    Dict.get result "time_start" = window.map (fun window => .str window.timeStart) ∧
    Dict.get result "time_end" = window.map (fun window => .str window.timeEnd) ∧
    Dict.get result "timezone" = window.map (fun window => .str window.timezone)

theorem normalizeMatch_stored (accepted : normalizeMatch zoneInfo db value = .ok result) : Stored zoneInfo value result := by
  unfold normalizeMatch at accepted
  split at accepted
  · cases accepted
  simp only [bind_eq_ok] at accepted
  obtain ⟨cameraIds, isCameras, accepted⟩ := accepted
  split at accepted
  · cases accepted
  simp only [bind_eq_ok] at accepted
  obtain ⟨sources, isSources, categories, isCategories, labels, isLabels, zones, isZones, severities, isSeverities,
    accepted⟩ := accepted
  split at accepted
  · cases accepted
  simp only [bind_eq_ok] at accepted
  obtain ⟨minConfidence, isConfidence, minDuration, isDuration, weekdays, isWeekdays, window, isWindow, same⟩ := accepted
  cases same
  have stored := @get_present
    [("camera_ids", whenItems (cameraIds.map UUID.text)), ("sources", whenItems sources),
      ("categories", whenItems categories), ("labels", whenItems labels), ("zones", whenItems zones),
      ("severities", whenItems severities), ("min_confidence", minConfidence),
      ("min_duration_seconds", minDuration), ("weekdays", weekdays),
      ("time_start", window.map fun window => .str window.timeStart),
      ("time_end", window.map fun window => .str window.timeEnd),
      ("timezone", window.map fun window => .str window.timezone)] (by simp only [List.map_cons, List.map_nil]; decide)
  refine ⟨⟨cameraIds, stored "camera_ids", uuidList_spec isCameras⟩, ?_, ?_, ?_, window, isWindow, stored "time_start",
    stored "time_end", stored "timezone"⟩
  · simp only [List.forall_mem_cons, List.not_mem_nil, false_implies, implies_true, and_true]
    exact ⟨⟨sources, stored "sources", stringList_spec isSources⟩,
      ⟨categories, stored "categories", stringList_spec isCategories⟩, ⟨labels, stored "labels", stringList_spec isLabels⟩,
      ⟨zones, stored "zones", stringList_spec isZones⟩, ⟨severities, stored "severities", stringList_spec isSeverities⟩⟩
  · simp only [List.forall_mem_cons, List.not_mem_nil, false_implies, implies_true, and_true]
    exact ⟨(congrArg (Option.bind · Json.number?) (stored "min_confidence")).trans (minimum_spec isConfidence),
      (congrArg (Option.bind · Json.number?) (stored "min_duration_seconds")).trans (minimum_spec isDuration)⟩
  · rw [isWeekdays]
    exact congrArg Except.ok (stored "weekdays").symm

/-! ## The filters before the time -/

theorem any_str_iff {texts : List String} {text : Option String} :
    (texts.map Json.str).any (· == Json.ofText text) = true ↔ ∃ stored ∈ texts, text = some stored := by
  rw [List.any_map, List.any_eq_true]
  refine exists_congr fun stored => and_congr_right fun _ => ?_
  cases text with
  | none => exact iff_of_false (by simp [Json.ofText, BEq.beq, Json.equal, Json.number?]) (by simp)
  | some text => simp [Json.ofText, BEq.beq, Json.equal, eq_comm]

theorem excluded_iff {stored : Dict} {texts : List String} (is : Dict.get stored key = whenItems texts) {text : Option String} :
    excluded stored key (Json.ofText text) = false ↔ (texts ≠ [] → ∃ stored ∈ texts, text = some stored) := by
  unfold excluded
  rw [is, whenItems]
  cases texts with
  | nil => simp
  | cons first rest =>
    rw [if_neg (by simp)]
    simp only [Bool.not_eq_false', any_str_iff, ne_eq, reduceCtorEq, not_false_eq_true, true_implies]

theorem Stored.excluded_iff (stored : Stored zoneInfo value result)
    (isKey : key ∈ ["sources", "categories", "labels", "zones", "severities"]) (text : Option String) :
    excluded result key (Json.ofText text) = false ↔ TextListed value key text := by
  obtain ⟨items, is, empty, mem⟩ := stored.texts key isKey
  rw [AlertMatching.excluded_iff is, TextListed, ne_eq, ne_eq, empty]
  refine forall_congr' fun _ => ?_
  constructor
  · rintro ⟨item, member, rfl⟩
    obtain ⟨raw, isRaw, rfl⟩ := (mem item).mp member
    exact ⟨raw, isRaw, rfl⟩
  · rintro ⟨raw, isRaw, rfl⟩
    exact ⟨strip raw, (mem _).mpr ⟨raw, isRaw, rfl⟩, rfl⟩

theorem Stored.cameraExcluded_iff (stored : Stored zoneInfo value result) :
    cameraExcluded result event = false ↔ CameraListed value event := by
  obtain ⟨ids, is, empty, mem⟩ := stored.cameras
  have asText : cameraExcluded result event = excluded result "camera_ids" (Json.ofText (event.cameraId.map UUID.text)) := by
    unfold cameraExcluded excluded
    rw [is]
    cases event.cameraId with
    | some cameraId => cases ids <;> rfl
    | none =>
      cases ids with
      | nil => rfl
      | cons first rest =>
        have none_ : ((first :: rest).map UUID.text |>.map Json.str).any (· == Json.ofText none) = false :=
          Bool.eq_false_iff.mpr fun listed => by simpa using any_str_iff.mp listed
        show true = !_
        rw [Option.map_none, none_, Bool.not_false]
  rw [asText, AlertMatching.excluded_iff is, CameraListed, ne_eq, ne_eq, List.map_eq_nil_iff, empty]
  refine forall_congr' fun _ => ?_
  constructor
  · rintro ⟨text, member, isText⟩
    obtain ⟨listed, isListed, rfl⟩ := List.mem_map.mp member
    obtain ⟨raw, isRaw, parsed⟩ := (mem listed).mp isListed
    obtain ⟨cameraId, isCamera, same⟩ := Option.map_eq_some_iff.mp isText
    exact ⟨raw, isRaw, listed, cameraId, parsed, isCamera, same⟩
  · rintro ⟨raw, isRaw, listed, cameraId, parsed, isCamera, same⟩
    exact ⟨UUID.text listed, List.mem_map_of_mem ((mem listed).mpr ⟨raw, isRaw, parsed⟩), by rw [isCamera, ← same]; rfl⟩

theorem Stored.belowConfidence_iff (stored : Stored zoneInfo value result) :
    belowConfidence result event = false ↔ AtLeast value "min_confidence" event.confidence := by
  unfold belowConfidence AtLeast
  rw [stored.minima _ List.mem_cons_self]
  cases (Dict.get value "min_confidence").bind Json.number? with
  | none => simp
  | some least => cases event.confidence <;> simp

theorem Stored.belowDuration_iff (stored : Stored zoneInfo value result) :
    belowDuration result event = false ↔ AtLeast value "min_duration_seconds" (duration event) := by
  unfold belowDuration AtLeast duration
  rw [stored.minima _ (List.mem_cons_of_mem _ List.mem_cons_self)]
  cases (Dict.get value "min_duration_seconds").bind Json.number? with
  | none => simp
  | some least => cases event.endedAt <;> simp

/-- One filter of the row: it rejects, or the others do. -/
theorem rejects {filter : Bool} {others : Result Bool} (rejected : filter = false → others = .ok false) :
    (if filter = true then .ok false else others) = .ok false := by
  cases filter with
  | true => rfl
  | false => exact rejected rfl

/-- The filters before the time decide alone when one of them rejects the event. -/
theorem Stored.matches_others (stored : Stored zoneInfo value result) (enabled : policy.enabled = true)
    (isStored : policy.matchJson = result) :
    (PassesOthers value event → matches_ zoneInfo policy event = timeMatch zoneInfo result event) ∧
      (¬PassesOthers value event → matches_ zoneInfo policy event = .ok false) := by
  have listed : ∀ key ∈ ["sources", "categories", "labels", "zones", "severities"], ∀ text,
      excluded result key (Json.ofText text) = false ↔ TextListed value key text := fun key isKey text =>
    stored.excluded_iff isKey text
  simp only [List.forall_mem_cons, List.not_mem_nil, false_implies, implies_true, and_true] at listed
  obtain ⟨source, category, label, zone, severity⟩ := listed
  have source : excluded result "sources" (.str event.source) = false ↔ _ := source (some event.source)
  have category : excluded result "categories" (.str event.category) = false ↔ _ := category (some event.category)
  unfold matches_
  rw [isStored, if_neg (by simp [enabled])]
  constructor
  · intro passes
    rw [stored.cameraExcluded_iff.mpr passes.camera, source.mpr passes.source, category.mpr passes.category,
      (label _).mpr passes.label, (zone _).mpr passes.zone, (severity _).mpr passes.severity,
      stored.belowConfidence_iff.mpr passes.confidence, stored.belowDuration_iff.mpr passes.duration]
    simp only [Bool.false_eq_true, if_false]
  · intro rejected
    refine rejects fun isCamera => rejects fun isSource => rejects fun isCategory => rejects fun isLabel =>
      rejects fun isZone => rejects fun isSeverity => rejects fun isConfidence => rejects fun isDuration => ?_
    refine absurd ⟨?_, source.mp isSource, category.mp isCategory, (label _).mp isLabel, (zone _).mp isZone,
      (severity _).mp isSeverity, ?_, ?_⟩ rejected
    · exact stored.cameraExcluded_iff.mp isCamera
    · exact stored.belowConfidence_iff.mp isConfidence
    · exact stored.belowDuration_iff.mp isDuration

/-! ## The time -/

theorem decimal?_ascii {c : Char} (ascii : c.toNat < 128) (isDecimal : (decimal? c).isSome = true) :
    (48 ≤ c.toNat ∧ c.toNat ≤ 57) ∧ decimal? c = some (c.toNat - 48) := by
  have every : ∀ n : Fin 128, (decimal? (Char.ofNat n)).isSome = true →
      (48 ≤ n.val ∧ n.val ≤ 57) ∧ decimal? (Char.ofNat n) = some (n.val - 48) := by decide
  have same := every ⟨c.toNat, ascii⟩
  rw [Char.ofNat_toNat] at same
  exact same isDecimal

theorem decimal?_eq {c : Char} (isDigit : 48 ≤ c.toNat ∧ c.toNat ≤ 57) : decimal? c = some (c.toNat - 48) := by
  rw [decimal?, decimalZeros, List.find?_cons_of_pos (by simpa using isDigit)]
  rfl

theorem digit?_eq {c : Char} (isDigit : 48 ≤ c.toNat ∧ c.toNat ≤ 57) :
    RecordingPolicyService.digit? c = some ((c.toNat : Int) - 48) := by
  rw [RecordingPolicyService.digit?, if_pos]
  rw [Char.le_def, Char.le_def, UInt32.le_iff_toNat_le, UInt32.le_iff_toNat_le]
  exact isDigit

theorem digit?_other {c : Char} (other : 128 ≤ c.toNat) : RecordingPolicyService.digit? c = none := by
  rw [RecordingPolicyService.digit?, if_neg]
  rw [Char.le_def, Char.le_def, UInt32.le_iff_toNat_le, UInt32.le_iff_toNat_le]
  rintro ⟨-, small⟩
  exact absurd (other.trans small) (by decide)

/-- A time of day in ASCII digits. -/
theorem timeRe_ascii {text : String} (valid : timeRe text = true) (ascii : Ascii text) :
    ∃ h₁ h₂ m₁ m₂, text.toList = [h₁, h₂, ':', m₁, m₂] ∧
      (∀ c ∈ [h₁, h₂, m₁, m₂], 48 ≤ c.toNat ∧ c.toNat ≤ 57) ∧
      (h₁.toNat ≤ 49 ∨ h₁.toNat ≤ 50 ∧ h₂.toNat ≤ 51) ∧ m₁.toNat ≤ 53 := by
  unfold timeRe at valid
  split at valid
  next h₁ h₂ m₁ m₂ isText =>
    have small (c : Char) (member : c ∈ [h₁, h₂, ':', m₁, m₂]) : c.toNat < 128 := ascii c (isText ▸ member)
    obtain ⟨hour, ⟨notBelow, notAbove⟩, isDecimal⟩ := of_decide_eq_true valid
    rw [Char.le_def, UInt32.le_iff_toNat_le] at notBelow notAbove
    have tens : 48 ≤ m₁.toNat ∧ m₁.toNat ≤ 53 := ⟨notBelow, notAbove⟩
    have units := (decimal?_ascii (small m₂ (by simp)) isDecimal).1
    have isHour : (48 ≤ h₁.toNat ∧ 48 ≤ h₂.toNat ∧ h₂.toNat ≤ 57) ∧
        (h₁.toNat ≤ 49 ∨ h₁.toNat ≤ 50 ∧ h₂.toNat ≤ 51) := by
      rcases hour with ⟨rfl | rfl, isUnit⟩ | ⟨rfl, notBelow, notAbove⟩
      · exact ⟨⟨by decide, (decimal?_ascii (small h₂ (by simp)) isUnit).1⟩, .inl (by decide)⟩
      · exact ⟨⟨by decide, (decimal?_ascii (small h₂ (by simp)) isUnit).1⟩, .inl (by decide)⟩
      · rw [Char.le_def, UInt32.le_iff_toNat_le] at notBelow notAbove
        exact ⟨⟨by decide, notBelow, notAbove.trans (by decide)⟩, .inr ⟨by decide, notAbove⟩⟩
    refine ⟨h₁, h₂, m₁, m₂, isText, ?_, isHour.2, tens.2⟩
    simp only [List.forall_mem_cons, List.not_mem_nil, false_implies, implies_true, and_true]
    omega
  · cases valid

/-- ASCII digits are read as they are meant. -/
theorem timeFromisoformat_ascii {text : String} (valid : timeRe text = true) (ascii : Ascii text) :
    ∃ time, RecordingPolicyService.timeFromisoformat text = .ok time ∧ time.micros = clock text := by
  obtain ⟨h₁, h₂, m₁, m₂, isText, digits, hours, minutes⟩ := timeRe_ascii valid ascii
  simp only [List.forall_mem_cons, List.not_mem_nil, false_implies, implies_true, and_true] at digits
  obtain ⟨first, second, third, fourth⟩ := digits
  have inDay : (0 ≤ ((h₁.toNat : Int) - 48) * 10 + ((h₂.toNat : Int) - 48) ∧
      ((h₁.toNat : Int) - 48) * 10 + ((h₂.toNat : Int) - 48) < 24) ∧
      0 ≤ ((m₁.toNat : Int) - 48) * 10 + ((m₂.toNat : Int) - 48) ∧
        ((m₁.toNat : Int) - 48) * 10 + ((m₂.toNat : Int) - 48) < 60 := by
    omega
  refine ⟨⟨(((h₁.toNat : Int) - 48) * 10 + ((h₂.toNat : Int) - 48)) * 3600000000 +
    (((m₁.toNat : Int) - 48) * 10 + ((m₂.toNat : Int) - 48)) * 60000000, by omega⟩, ?_, ?_⟩
  · simp only [RecordingPolicyService.timeFromisoformat, isText, digit?_eq first, digit?_eq second, digit?_eq third,
      digit?_eq fourth, Option.bind_eq_bind, Option.bind_some, dif_pos inDay]
  · simp only [clock, isText, decimal?_eq first, decimal?_eq second, decimal?_eq third, decimal?_eq fourth,
      Option.getD_some]
    omega

/-- Other digits are not read. -/
theorem timeFromisoformat_other {text : String} (other : ¬Ascii text) :
    ∃ error, RecordingPolicyService.timeFromisoformat text = .error error := by
  obtain ⟨c, member, notSmall⟩ : ∃ c ∈ text.toList, ¬c.toNat < 128 := by
    simpa only [Ascii, not_forall, exists_prop] using other
  have unread := digit?_other (not_lt.mp notSmall)
  unfold RecordingPolicyService.timeFromisoformat
  dsimp only
  split
  next time parsed =>
    exfalso
    split at parsed
    next h₁ h₂ m₁ m₂ isText =>
      rw [isText] at member
      simp only [List.mem_cons, List.not_mem_nil, or_false] at member
      rcases member with rfl | rfl | rfl | rfl | rfl
      case inr.inr.inl => exact notSmall (by decide)
      all_goals simp [unread, Option.bind_eq_bind] at parsed
    · cases parsed
  · exact ⟨_, rfl⟩

/-- The weekday is tested as it is meant. -/
theorem Stored.weekday_iff (stored : Stored zoneInfo value result) (day : Int) :
    (match Dict.get result "weekdays" with
      | some (.arr weekdays) => weekdays.any fun item => item.number? = some (day : ℚ)
      | _ => true) = true ↔ ∀ days, Dict.get value "weekdays" = some (.arr days) → Json.int day ∈ days := by
  rcases weekdaysField_spec stored.weekdays with ⟨none_, notList⟩ | ⟨asked, days, isAsked, isStored, mem⟩
  · rw [none_]
    exact iff_of_true rfl fun days isList => absurd isList (notList days)
  · rw [isStored]
    simp only [List.any_map, List.any_eq_true, isAsked, Option.some.injEq, Json.arr.injEq, forall_eq', List.mem_map,
      Json.int.injEq, exists_eq_right, Function.comp, Json.number?, decide_eq_true_eq, Int.cast_inj, mem]

/-- Without a timezone the time is not looked at, and neither is the weekday. -/
theorem Stored.timeMatch_noTimezone (stored : Stored zoneInfo value result) (none_ : timeWindow zoneInfo value = .ok none) :
    timeMatch zoneInfo result event = .ok true := by
  obtain ⟨window, isWindow, -, -, timezone⟩ := stored.window
  cases isWindow.symm.trans none_
  rw [timeMatch, timezone]
  rfl

section Window

variable {timeStart timeEnd timezone : String} {zone : TimeZone}

theorem Stored.timeMatch_window (stored : Stored zoneInfo value result)
    (isWindow : timeWindow zoneInfo value = .ok (some { timeStart, timeEnd, timezone }))
    (known : zoneInfo timezone = .ok zone) :
    timeMatch zoneInfo result event =
      if (match Dict.get result "weekdays" with
        | some (.arr weekdays) => weekdays.any fun item =>
            item.number? = some ((weekday (WallClock.date (zone.astimezone event.startedAt).wall) : Int) : ℚ)
        | _ => true) then do
          let start ← RecordingPolicyService.timeFromisoformat timeStart
          let end_ ← RecordingPolicyService.timeFromisoformat timeEnd
          let current := (WallClock.time (zone.astimezone event.startedAt).wall).micros
          if start.micros < end_.micros then .ok (decide (start.micros ≤ current ∧ current < end_.micros))
          else .ok (decide (start.micros ≤ current ∨ current < end_.micros))
      else .ok false := by
  obtain ⟨window, same, isStart, isEnd, isZone⟩ := stored.window
  cases same.symm.trans isWindow
  simp only [timeMatch, isStart, isEnd, isZone, Option.map_some, known]
  show (if _ then _ else _) = _
  refine (ite_not _ _ _).trans ?_
  rfl

/-- Both times are read, and the window is the one that is meant. -/
theorem between_ok (validStart : timeRe timeStart = true) (validEnd : timeRe timeEnd = true) (current : Int)
    (ascii : Ascii timeStart ∧ Ascii timeEnd) :
    ∃ inside : Bool, (do
        let start ← RecordingPolicyService.timeFromisoformat timeStart
        let end_ ← RecordingPolicyService.timeFromisoformat timeEnd
        if start.micros < end_.micros then .ok (decide (start.micros ≤ current ∧ current < end_.micros))
        else .ok (decide (start.micros ≤ current ∨ current < end_.micros)) : Result Bool) = .ok inside ∧
      (inside = true ↔ Between (clock timeStart) (clock timeEnd) current) := by
  obtain ⟨start, isStart, startMicros⟩ := timeFromisoformat_ascii validStart ascii.1
  obtain ⟨end_, isEnd, endMicros⟩ := timeFromisoformat_ascii validEnd ascii.2
  simp only [isStart, isEnd, bind, Except.bind, Between, ← startMicros, ← endMicros]
  split
  · exact ⟨_, rfl, decide_eq_true_iff⟩
  · exact ⟨_, rfl, decide_eq_true_iff⟩

theorem between_error (other : ¬(Ascii timeStart ∧ Ascii timeEnd)) (current : Int) :
    ∃ error, (do
        let start ← RecordingPolicyService.timeFromisoformat timeStart
        let end_ ← RecordingPolicyService.timeFromisoformat timeEnd
        if start.micros < end_.micros then .ok (decide (start.micros ≤ current ∧ current < end_.micros))
        else .ok (decide (start.micros ≤ current ∨ current < end_.micros)) : Result Bool) = .error error := by
  cases isStart : RecordingPolicyService.timeFromisoformat timeStart with
  | error failure => exact ⟨failure, rfl⟩
  | ok start =>
    cases isEnd : RecordingPolicyService.timeFromisoformat timeEnd with
    | error failure => exact ⟨failure, rfl⟩
    | ok end_ =>
      refine absurd ⟨?_, ?_⟩ other
      · by_contra notAscii
        obtain ⟨failure, fails⟩ := timeFromisoformat_other notAscii
        cases isStart.symm.trans fails
      · by_contra notAscii
        obtain ⟨failure, fails⟩ := timeFromisoformat_other notAscii
        cases isEnd.symm.trans fails

end Window

/-- An enabled policy matches exactly the events that pass its filters, when the filters of its time are heeded. -/
theorem matches_iff (accepted : normalizeMatch zoneInfo db value = .ok result) (enabled : policy.enabled = true)
    (isStored : policy.matchJson = result) (event : Event) :
    (∃ matched, matches_ zoneInfo policy event = .ok matched ∧ (matched = true ↔ Passes zoneInfo value event)) ↔
      Heeded zoneInfo value event := by
  have stored := normalizeMatch_stored accepted
  obtain ⟨passed, rejected⟩ := @Stored.matches_others _ _ _ event _ stored enabled isStored
  by_cases others : PassesOthers value event
  swap
  · refine iff_of_true ⟨false, rejected others, ?_⟩ fun passes => absurd passes others
    exact iff_of_false (by simp) fun passes => others passes.others
  rw [passed others]
  obtain ⟨window, isWindow, -, -, -⟩ := id stored.window
  rcases timeWindow_spec isWindow with ⟨rfl, noTimezone, noStart⟩ |
    ⟨timeStart, timeEnd, timezone, zone, isStart, isEnd, isTimezone, validStart, validEnd, known, rfl⟩
  · rw [stored.timeMatch_noTimezone isWindow]
    constructor
    · rintro ⟨matched, same, isMatched⟩ -
      cases same
      exact ⟨fun hasTimezone => absurd hasTimezone noTimezone, fun _ => (isMatched.mp rfl).weekday⟩
    · intro heeded
      refine ⟨true, rfl, iff_of_true rfl ⟨others, (heeded others).2 noTimezone, ?_⟩⟩
      exact fun timeStart _ isStart _ => absurd isStart (noStart timeStart)
  · have hasTimezone : HasTimezone value := ⟨timezone, isTimezone⟩
    have isWall : (zone.astimezone event.startedAt).wall = wall zoneInfo value event := by
      rw [wall, timezoneOf, isTimezone]
      dsimp only
      rw [known]
    rw [stored.timeMatch_window isWindow known, isWall]
    have onDay := stored.weekday_iff (weekday (WallClock.date (wall zoneInfo value event)))
    by_cases rightDay : OnWeekday zoneInfo value event
    swap
    · rw [if_neg fun isDay => rightDay (onDay.mp isDay)]
      refine iff_of_true ⟨false, rfl, ?_⟩ fun _ => ⟨fun _ isDay => absurd isDay rightDay, fun no => absurd hasTimezone no⟩
      exact iff_of_false (by simp) fun passes => rightDay passes.weekday
    rw [if_pos (onDay.mpr rightDay)]
    by_cases ascii : Ascii timeStart ∧ Ascii timeEnd
    · obtain ⟨inside, is, isInside⟩ := between_ok validStart validEnd _ ascii
      refine iff_of_true ⟨inside, is, isInside.trans ⟨fun between => ⟨others, rightDay, ?_⟩, fun passes => ?_⟩⟩ fun _ => ⟨?_, ?_⟩
      · intro start stop isStart' isEnd'
        cases isStart.symm.trans isStart'
        cases isEnd.symm.trans isEnd'
        exact between
      · exact passes.window _ _ isStart isEnd
      · intro _ _ start stop isStart' isEnd'
        cases isStart.symm.trans isStart'
        cases isEnd.symm.trans isEnd'
        exact ascii
      · exact fun no => absurd hasTimezone no
    · obtain ⟨failure, fails⟩ := between_error ascii (WallClock.time (wall zoneInfo value event)).micros
      refine iff_of_false ?_ fun heeded => ascii ((heeded others).1 hasTimezone rightDay _ _ isStart isEnd)
      rintro ⟨matched, is, -⟩
      cases fails.symm.trans is

/-! ## Nights and Mondays -/

def nights : Dict :=
  [("time_start", .str "22:00"), ("time_end", .str "06:00"), ("timezone", .str "UTC"), ("weekdays", .arr [.int 3])]

def nightPolicy : AlertPolicy :=
  { id := 1
    matchJson :=
      [("weekdays", .arr [.int 3]), ("time_start", .str "22:00"), ("time_end", .str "06:00"), ("timezone", .str "UTC")] }

/-- An event on the first day of 1970, a Thursday. -/
def thursdayEvent : Event := { id := 2, source := "frigate", category := "motion", startedAt := 0 }

theorem nights_heeded : Heeded RecordingPolicyService.utcOnly nights thursdayEvent := by
  refine fun _ => ⟨fun _ _ timeStart timeEnd isStart isEnd => ?_, fun noTimezone => absurd ⟨"UTC", rfl⟩ noTimezone⟩
  cases isStart
  cases isEnd
  simp [Ascii]

theorem matches_iff_nights : ∃ matched, matches_ RecordingPolicyService.utcOnly nightPolicy thursdayEvent = .ok matched ∧
    (matched = true ↔ Passes RecordingPolicyService.utcOnly nights thursdayEvent) :=
  (@matches_iff _ {} nights nightPolicy.matchJson nightPolicy rfl rfl rfl thursdayEvent).mpr nights_heeded

def mondays : Dict := [("weekdays", .arr [.int 0])]

def mondayPolicy : AlertPolicy := { id := 1, matchJson := [("weekdays", .arr [.int 0])] }

/-- Without a timezone the policy for Mondays matches on a Thursday. -/
theorem mondays_on_thursday :
    ¬∀ (zoneInfo : String → Result TimeZone) (db : Database) (value : Dict) (policy : AlertPolicy) (event : Event),
      normalizeMatch zoneInfo db value = .ok policy.matchJson → policy.enabled = true →
      ∃ matched, matches_ zoneInfo policy event = .ok matched ∧ (matched = true ↔ Passes zoneInfo value event) := by
  intro always
  obtain ⟨matched, is, isMatched⟩ := always RecordingPolicyService.utcOnly {} mondays mondayPolicy thursdayEvent rfl rfl
  have same : matches_ RecordingPolicyService.utcOnly mondayPolicy thursdayEvent = .ok true := rfl
  cases same.symm.trans is
  have onDay := (isMatched.mp rfl).weekday _ rfl
  rw [List.mem_singleton, Json.int.injEq] at onDay
  exact absurd onDay (by decide)

end ZeroNvr.AlertMatching
