import ZeroNvr.Core.JsonWrite
import ZeroNvr.Core.Pagination

/-! # What decoding a cursor can raise

Three families of exceptions become an error of the client.  Three others get through:
an `id` that is no text has no `replace`, an instant may lie beyond the years there
are, and a text may be nested too deeply.
-/

namespace ZeroNvr.Pagination

open Calendar (InRange)
open JsonText (Value)
open Lib

/-- The cursor is a position or an error of the client. -/
def Handled (outcome : Result (Timestamp × UUID)) (errorCode resourceLabel : String) : Prop :=
  (∃ position, outcome = .ok position) ∨
    outcome = .error (apiError 400 errorCode (resourceLabel ++ " cursor is invalid."))

/-- What the `except` clause catches. -/
def isCaught : PyError → Bool
  | .valueError _ | .keyError _ | .typeError _ => true
  | _ => false

/-- What it does not. -/
def isMissed : PyError → Bool
  | .attributeError _ | .overflowError => true
  | _ => false

/-- An object with an aware timestamp has one that is in range in UTC, and with it no `id` other than a
    text or `null`. -/
def SoundPayload (payload : Value) (key : CursorKey) : Prop :=
  ∀ fields stamp, payload = .obj fields → Value.field? fields key.name = some (.str stamp) →
    ∀ clock offset, IsoFormat.fromisoformat stamp.toList = some (clock, some offset) →
      InRange (clock.wall - offset) ∧
        ∀ id, Value.field? fields "id" = some id → id = .null ∨ ∃ text, id = .str text

/-! ## The parts -/

theorem subscript_cases (payload : Value) (key : String) :
    (∃ e, subscript payload key = .error e ∧ isCaught e = true) ∨
      ∃ fields value, payload = .obj fields ∧ Value.field? fields key = some value ∧ subscript payload key = .ok value := by
  cases payload with
  | obj fields =>
    rw [subscript]
    cases found : Value.field? fields key with
    | none => exact .inl ⟨_, rfl, rfl⟩
    | some value => exact .inr ⟨fields, value, rfl, found, rfl⟩
  | _ => exact .inl ⟨_, rfl, rfl⟩

theorem loadPayload_cases (value : String) :
    (∃ e, loadPayload value = .error e ∧ isCaught e = true) ∨ ∃ payload, loadPayload value = .ok payload := by
  rw [loadPayload]
  split
  · exact .inl ⟨_, rfl, rfl⟩
  split
  · exact .inl ⟨_, rfl, rfl⟩
  split
  · exact .inl ⟨_, rfl, rfl⟩
  split
  · exact .inl ⟨_, rfl, rfl⟩
  · exact .inr ⟨_, rfl⟩

/-- A timestamp is refused as the clause expects, or it is an aware one, in range or not. -/
theorem awareTimestamp_cases (value : Value) :
    (∃ e, awareTimestamp value = .error e ∧ isCaught e = true ∧
      ∀ stamp clock offset, value = .str stamp → IsoFormat.fromisoformat stamp.toList ≠ some (clock, some offset)) ∨
    ∃ stamp clock offset, value = .str stamp ∧ IsoFormat.fromisoformat stamp.toList = some (clock, some offset) ∧
      ((InRange (clock.wall - offset) ∧ ∃ timestamp, awareTimestamp value = .ok timestamp) ∨
        (¬InRange (clock.wall - offset) ∧ awareTimestamp value = .error .overflowError)) := by
  cases value with
  | str stamp =>
    rw [awareTimestamp]
    cases parsed : IsoFormat.fromisoformat stamp.toList with
    | none =>
      refine .inl ⟨_, rfl, rfl, fun other clock offset same isAware => ?_⟩
      cases same
      rw [parsed] at isAware
      cases isAware
    | some result =>
      obtain ⟨clock, offset⟩ := result
      cases offset with
      | none =>
        refine .inl ⟨_, rfl, rfl, fun other clock offset same isAware => ?_⟩
        cases same
        rw [parsed] at isAware
        cases isAware
      | some offset =>
        refine .inr ⟨stamp, clock, offset, rfl, parsed, ?_⟩
        by_cases inRange : InRange (clock.wall - offset)
        · exact .inl ⟨inRange, _, dif_pos inRange⟩
        · exact .inr ⟨inRange, dif_neg inRange⟩
  | _ => exact .inl ⟨_, rfl, rfl, fun _ _ _ same => (by cases same)⟩

theorem toUuid_cases (value : Value) :
    ((∃ e, toUuid value = .error e ∧ isCaught e = true) ∨ ∃ id, toUuid value = .ok id) ∧
        (value = .null ∨ ∃ text, value = .str text) ∨
      (∃ message, toUuid value = .error (.attributeError message)) ∧ ¬(value = .null ∨ ∃ text, value = .str text) := by
  cases value with
  | str text =>
    rw [toUuid]
    cases UUID.parse text.toList with
    | none => exact .inl ⟨.inl ⟨_, rfl, rfl⟩, .inr ⟨text, rfl⟩⟩
    | some id => exact .inl ⟨.inr ⟨id, rfl⟩, .inr ⟨text, rfl⟩⟩
  | null => exact .inl ⟨.inl ⟨_, rfl, rfl⟩, .inl rfl⟩
  | _ => exact .inr ⟨⟨_, rfl⟩, by simp⟩

/-! ## The whole -/

theorem readPosition_cases (value : String) (key : CursorKey) :
    ((∃ position, readPosition value key = .ok position) ∨ ∃ e, readPosition value key = .error e ∧ isCaught e = true) ∧
        (∀ payload, loadPayload value = .ok payload → SoundPayload payload key) ∨
      (∃ e, readPosition value key = .error e ∧ isMissed e = true) ∧
        ¬∀ payload, loadPayload value = .ok payload → SoundPayload payload key := by
  rw [readPosition]
  rcases loadPayload_cases value with ⟨e, raised, caught⟩ | ⟨payload, loaded⟩
  · refine .inl ⟨.inr ⟨e, by rw [raised]; rfl, caught⟩, fun payload loaded => ?_⟩
    rw [raised] at loaded
    cases loaded
  simp only [loaded, bind, Except.bind]
  have only (sound : SoundPayload payload key) (other : Value) (same : (Except.ok payload : Result Value) = .ok other) :
      SoundPayload other key := Except.ok.inj same ▸ sound
  have unsound (broken : ¬SoundPayload payload key) :
      ¬∀ other, (Except.ok payload : Result Value) = .ok other → SoundPayload other key :=
    fun all => broken (all payload rfl)
  rcases subscript_cases payload key.name with ⟨e, raised, caught⟩ | ⟨fields, stamp, rfl, found, stampRead⟩
  · refine .inl ⟨.inr ⟨e, by rw [raised], caught⟩, only fun fields stamp isObject found => ?_⟩
    rw [isObject, subscript, found] at raised
    cases raised
  rw [stampRead]
  dsimp only
  rcases awareTimestamp_cases stamp with ⟨e, raised, caught, notAware⟩ | ⟨text, clock, offset, rfl, parsed, outcome⟩
  · refine .inl ⟨.inr ⟨e, by rw [raised], caught⟩, only fun others text isObject foundText clock offset isAware => ?_⟩
    cases isObject
    exact absurd isAware (notAware text clock offset (Option.some.inj (found.symm.trans foundText)))
  -- what a sound payload has to meet
  have meets (inRange : InRange (clock.wall - offset))
      (ids : ∀ id, Value.field? fields "id" = some id → id = .null ∨ ∃ text, id = .str text) :
      SoundPayload (.obj fields) key := by
    intro others other isObject foundOther otherClock otherOffset isAware
    cases isObject
    cases Option.some.inj (found.symm.trans foundOther)
    cases parsed.symm.trans isAware
    exact ⟨inRange, ids⟩
  rcases outcome with ⟨inRange, timestamp, isTimestamp⟩ | ⟨outOfRange, raised⟩
  · rw [isTimestamp]
    dsimp only
    rcases subscript_cases (.obj fields) "id" with ⟨e, raised, caught⟩ | ⟨others, id, isObject, foundId, idRead⟩
    · refine .inl ⟨.inr ⟨e, by rw [raised], caught⟩, only (meets inRange fun id foundId => ?_)⟩
      rw [subscript, foundId] at raised
      cases raised
    · cases isObject
      rw [idRead]
      dsimp only
      rcases toUuid_cases id with ⟨outcome, isText⟩ | ⟨⟨message, raised⟩, notText⟩
      · have sound := meets inRange fun other foundOther => by
          cases Option.some.inj (foundId.symm.trans foundOther)
          exact isText
        refine .inl ⟨?_, only sound⟩
        rcases outcome with ⟨e, raised, caught⟩ | ⟨identifier, isId⟩
        · exact .inr ⟨e, by rw [raised], caught⟩
        · exact .inl ⟨(timestamp, identifier), by rw [isId]; rfl⟩
      · refine .inr ⟨⟨_, by rw [raised], rfl⟩, unsound fun sound => ?_⟩
        exact notText ((sound fields text rfl found clock offset parsed).2 id foundId)
  · refine .inr ⟨⟨_, by rw [raised], rfl⟩, unsound fun sound => ?_⟩
    exact outOfRange (sound fields text rfl found clock offset parsed).1

theorem decodeCursor_handled_iff (value : String) (key : CursorKey) (errorCode resourceLabel : String) :
    Handled (decodeCursor value key errorCode resourceLabel) errorCode resourceLabel ↔
      ∀ payload, loadPayload value = .ok payload → SoundPayload payload key := by
  rw [decodeCursor]
  rcases readPosition_cases value key with ⟨outcome, sound⟩ | ⟨⟨e, raised, missed⟩, unsound⟩
  · refine ⟨fun _ => sound, fun _ => ?_⟩
    rcases outcome with ⟨position, read⟩ | ⟨e, raised, caught⟩
    · rw [read]
      exact .inl ⟨position, rfl⟩
    · rw [raised]
      cases e with
      | valueError | keyError | typeError => exact .inr rfl
      | _ => cases caught
  · refine ⟨fun handled => ?_, fun sound => absurd sound unsound⟩
    rw [raised] at handled
    cases e with
    | attributeError | overflowError =>
      rcases handled with ⟨position, isOk⟩ | isApi
      · cases isOk
      · cases isApi
    | _ => cases missed

/-! ## The cursor as a text -/

theorem loadPayload_eq_ok_iff {value : String} {payload : Value} :
    loadPayload value = .ok payload ↔ ∃ text, payloadText value = some text ∧ JsonText.loads text = some payload := by
  rw [loadPayload, payloadText]
  split
  · simp
  cases Base64.decode (value.toList ++ Base64.padding value.toList) with
  | none => simp
  | some bytes =>
    dsimp only [Option.bind_some]
    cases bytes.toByteArray.utf8Decode? with
    | none => simp
    | some text =>
      dsimp only [Option.map_some]
      cases loaded : JsonText.loads text.toList with
      | none => simp [loaded]
      | some value =>
        constructor
        · intro isOk
          exact ⟨_, rfl, by rw [loaded, Except.ok.inj isOk]⟩
        · rintro ⟨other, same, isSome⟩
          cases Option.some.inj same
          rw [loaded] at isSome
          rw [Option.some.inj isSome]

/-- The cursor that holds a text. -/
def cursorOf (text : List Char) : String := String.ofList (Base64.unpadded (Base64.encode (utf8 text)))

theorem payloadText_cursorOf (text : List Char) : payloadText (cursorOf text) = some text := by
  have isAscii : ((cursorOf text).toList.all fun c => c.toNat < 128) = true := by
    rw [cursorOf, String.toList_ofList, List.all_eq_true]
    exact fun c member => decide_eq_true (Base64.toNat_lt_of_mem_encode (Base64.mem_of_mem_unpadded member))
  have decoded : (utf8 text).toByteArray.utf8Decode? = some text.toArray := List.utf8Decode?_utf8Encode
  rw [payloadText, if_neg (not_not.mpr isAscii), cursorOf, String.toList_ofList, Base64.unpadded_append_padding,
    Base64.decode_encode, Option.bind_some, decoded, Option.map_some]

/-- Neither too deep nor one of the payloads whose error is not caught. -/
def CleanCursor (tooDeep : List Char → Bool) (value : String) (key : CursorKey) : Prop :=
  ∀ text, payloadText value = some text →
    tooDeep text = false ∧ ∀ payload, JsonText.loads text = some payload → SoundPayload payload key

theorem decodeCursorWithin_handled_iff (tooDeep : List Char → Bool) (value : String) (key : CursorKey)
    (errorCode resourceLabel : String) :
    Handled (decodeCursorWithin tooDeep value key errorCode resourceLabel) errorCode resourceLabel ↔
      CleanCursor tooDeep value key := by
  have payloads : (∀ payload, loadPayload value = .ok payload → SoundPayload payload key) ↔
      ∀ text, payloadText value = some text → ∀ payload, JsonText.loads text = some payload → SoundPayload payload key := by
    constructor
    · exact fun sound text isText payload loaded => sound payload (loadPayload_eq_ok_iff.mpr ⟨text, isText, loaded⟩)
    · intro sound payload loaded
      obtain ⟨text, isText, isPayload⟩ := loadPayload_eq_ok_iff.mp loaded
      exact sound text isText payload isPayload
  rw [decodeCursorWithin]
  cases isText : payloadText value with
  | none =>
    rw [Option.any_none, if_neg Bool.false_ne_true, decodeCursor_handled_iff, payloads]
    refine ⟨fun _ text isSome => ?_, fun _ text isSome => ?_⟩
    · rw [isText] at isSome
      cases isSome
    · rw [isText] at isSome
      cases isSome
  | some text =>
    rw [Option.any_some]
    cases depth : tooDeep text with
    | true =>
      rw [if_pos rfl]
      refine ⟨fun handled => ?_, fun clean => ?_⟩
      · rcases handled with ⟨position, isOk⟩ | isApi
        · cases isOk
        · cases isApi
      · have shallow := (clean text isText).1
        rw [depth] at shallow
        cases shallow
    | false =>
      rw [if_neg Bool.false_ne_true, decodeCursor_handled_iff, payloads]
      refine ⟨fun sound other isOther => ⟨?_, sound other isOther⟩, fun clean other isOther => (clean other isOther).2⟩
      rw [← Option.some.inj (isText.symm.trans isOther), depth]

theorem encodeCursor_eq (timestamp : Timestamp) (identifier : UUID) (key : CursorKey) :
    encodeCursor timestamp identifier key =
      cursorOf (JsonText.dumps [(key.name, String.ofList (IsoFormat.isoformat (Calendar.ofWall timestamp.instant))),
        ("id", String.ofList identifier.str)]) := rfl

theorem decodeCursorWithin_of_text {tooDeep : List Char → Bool} {value : String} {text : List Char}
    (isText : payloadText value = some text) (shallow : tooDeep text = false) (key : CursorKey)
    (errorCode resourceLabel : String) :
    decodeCursorWithin tooDeep value key errorCode resourceLabel = decodeCursor value key errorCode resourceLabel := by
  rw [decodeCursorWithin, isText, Option.any_some, shallow, if_neg Bool.false_ne_true]

theorem payloadText_encodeCursor (timestamp : Timestamp) (identifier : UUID) (key : CursorKey) :
    payloadText (encodeCursor timestamp identifier key) =
      some (JsonText.dumps [(key.name, String.ofList (IsoFormat.isoformat (Calendar.ofWall timestamp.instant))),
        ("id", String.ofList identifier.str)]) :=
  (congrArg payloadText (encodeCursor_eq timestamp identifier key)).trans (payloadText_cursorOf _)

theorem decodeCursorWithin_encodeCursor {tooDeep : List Char → Bool}
    (flat : ∀ a b c d, tooDeep (JsonText.dumps [(a, b), (c, d)]) = false) (timestamp : Timestamp) (identifier : UUID)
    (key : CursorKey) (errorCode resourceLabel : String) :
    decodeCursorWithin tooDeep (encodeCursor timestamp identifier key) key errorCode resourceLabel =
      .ok (timestamp, identifier) :=
  (decodeCursorWithin_of_text (payloadText_encodeCursor timestamp identifier key) (flat _ _ _ _) key errorCode
    resourceLabel).trans (decodeCursor_encodeCursor timestamp identifier key errorCode resourceLabel)

theorem encodeAware_eq_ok {wall offset : Int} {identifier : UUID} {key : CursorKey} {cursor : String}
    (encoded : encodeAware wall offset identifier key = .ok cursor) :
    ∃ timestamp : Timestamp, timestamp.instant = wall - offset ∧ cursor = encodeCursor timestamp identifier key := by
  rw [encodeAware] at encoded
  split at encoded
  · next inRange => exact ⟨⟨wall - offset, inRange⟩, rfl, (Except.ok.inj encoded).symm⟩
  · cases encoded

/-- Decoding is total for a cursor if and only if the cursor is clean, and a position that was encoded is
    decoded to the same instant and id. -/
theorem decodeCursor_total {tooDeep : List Char → Bool}
    (flat : ∀ a b c d, tooDeep (JsonText.dumps [(a, b), (c, d)]) = false) (key : CursorKey)
    (errorCode resourceLabel : String) :
    (∀ value, Handled (decodeCursorWithin tooDeep value key errorCode resourceLabel) errorCode resourceLabel ↔
      CleanCursor tooDeep value key) ∧
    ∀ wall offset identifier cursor, encodeAware wall offset identifier key = .ok cursor →
      ∃ timestamp : Timestamp, timestamp.instant = wall - offset ∧
        decodeCursorWithin tooDeep cursor key errorCode resourceLabel = .ok (timestamp, identifier) := by
  refine ⟨fun value => decodeCursorWithin_handled_iff tooDeep value key errorCode resourceLabel, ?_⟩
  intro wall offset identifier cursor encoded
  obtain ⟨timestamp, isInstant, rfl⟩ := encodeAware_eq_ok encoded
  exact ⟨timestamp, isInstant, decodeCursorWithin_encodeCursor flat timestamp identifier key errorCode resourceLabel⟩

/-- The first instant of 1970. -/
def epoch : Timestamp := ⟨0, Calendar.inRange_zero⟩

/-- The text of a payload whose `id` is a number. -/
def numberedId : List Char :=
  JsonText.write JsonText.ascii
    (.obj [("created_at", .str (String.ofList (IsoFormat.isoformat (Calendar.ofWall epoch.instant)))), ("id", .int 1)])

/-- The number has no `replace`, and nothing catches that. -/
theorem decodeCursor_numberedId :
    ¬Handled (decodeCursorWithin (fun _ => false) (cursorOf numberedId) createdAt "alert_cursor_invalid" "Alert")
      "alert_cursor_invalid" "Alert" := by
  rw [decodeCursorWithin_handled_iff]
  intro clean
  obtain ⟨_, sound⟩ := clean numberedId (payloadText_cursorOf numberedId)
  have one : (1 : Int).natAbs < 10 ^ maxStrDigits :=
    Nat.lt_of_lt_of_le (by decide : 1 < 10) (Nat.le_self_pow (by decide) 10)
  have isPlain : JsonText.plain
      (.obj [("created_at", .str (String.ofList (IsoFormat.isoformat (Calendar.ofWall epoch.instant)))), ("id", .int 1)]) =
      true := by
    simp only [JsonText.plain, JsonText.plainFields, one]
    rfl
  have clock := IsoFormat.fromisoformat_isoformat (Calendar.ofWall_valid epoch.inRange)
  obtain ⟨_, ids⟩ := sound _ (JsonText.loads_write isPlain) _ _ rfl rfl _ _ (by rw [String.toList_ofList, clock])
  rcases ids (.int 1) rfl with isNull | ⟨text, isText⟩
  · cases isNull
  · cases isText

/-- A position and a text that is no cursor. -/
theorem decodeCursor_total_epoch :
    (∃ timestamp : Timestamp, timestamp.instant = 0 ∧
      decodeCursorWithin (fun _ => false) (encodeCursor epoch ⟨1, by decide⟩ createdAt) createdAt "alert_cursor_invalid" "Alert" =
        .ok (timestamp, ⟨1, by decide⟩)) ∧
    Handled (decodeCursorWithin (fun _ => false) "A" createdAt "alert_cursor_invalid" "Alert") "alert_cursor_invalid" "Alert" := by
  obtain ⟨total, roundTrip⟩ :=
    @decodeCursor_total (fun _ => false) (fun _ _ _ _ => rfl) createdAt "alert_cursor_invalid" "Alert"
  have encoded : encodeAware 0 0 ⟨1, by decide⟩ createdAt = .ok (encodeCursor epoch ⟨1, by decide⟩ createdAt) :=
    dif_pos epoch.inRange
  have noText : payloadText "A" = none := by decide +kernel
  refine ⟨roundTrip 0 0 _ _ encoded, (total "A").mpr fun text isText => ?_⟩
  rw [noText] at isText
  cases isText

end ZeroNvr.Pagination
