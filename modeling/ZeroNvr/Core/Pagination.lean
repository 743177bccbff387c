import ZeroNvr.Core.Errors
import ZeroNvr.Core.IsoFormat
import ZeroNvr.Core.UuidText
import ZeroNvr.Lib.Base64
import ZeroNvr.Lib.Keyset

/-! # Cursor pagination

The pages that the list endpoints share.  A statement is the rows it selects
when it is run; a timestamp column holds instants that have a UTC `datetime`.
-/

namespace ZeroNvr.Pagination

open Calendar (InRange ofWall)
open JsonText (Value)
open Lib

def pageLimitMax : Int := 200

/-- The value of a `UTCDateTime` column. -/
structure Timestamp where
  instant : Int
  inRange : InRange instant
  deriving DecidableEq

/-- The attribute that a list is ordered by, which a cursor names beside the `id`. -/
structure CursorKey where
  name : String
  notId : name ≠ "id"

def createdAt : CursorKey := ⟨"created_at", by decide⟩
def occurredAt : CursorKey := ⟨"occurred_at", by decide⟩
def startedAt : CursorKey := ⟨"started_at", by decide⟩

structure Page (ρ : Type) where
  items : List ρ
  nextCursor : Option String

/-! ## The cursor -/

def encodeCursor (timestamp : Timestamp) (identifier : UUID) (key : CursorKey) : String :=
  let payload := JsonText.dumps
    [(key.name, String.ofList (IsoFormat.isoformat (ofWall timestamp.instant))), ("id", String.ofList identifier.str)]
  String.ofList (Base64.unpadded (Base64.encode (utf8 payload)))

/-- `payload[key]` for what `json.loads` returned. -/
def subscript (payload : Value) (key : String) : Result Value :=
  match payload with
  | .obj fields =>
    match Value.field? fields key with
    | some value => .ok value
    | none => .error (.keyError key)
  | .arr _ => .error (.typeError "list indices must be integers or slices, not str")
  | .str _ => .error (.typeError "string indices must be integers, not 'str'")
  | _ => .error (.typeError "object is not subscriptable")

def loadPayload (value : String) : Result Value :=
  if ¬value.toList.all fun c => c.toNat < 128 then
    .error (.valueError "string argument should contain only ASCII characters")
  else
    match Base64.decode (value.toList ++ Base64.padding value.toList) with
    | none => .error (.valueError "Incorrect padding")
    | some bytes =>
      match bytes.toByteArray.utf8Decode? with
      | none => .error (.valueError "'utf-8' codec can't decode bytes")
      | some text =>
        match JsonText.loads text.toList with
        | none => .error (.valueError "Expecting value")
        | some payload => .ok payload

/-- `datetime.fromisoformat(value)`, which must be aware, `.astimezone(UTC)`. -/
def awareTimestamp (value : Value) : Result Timestamp :=
  match value with
  | .str text =>
    match IsoFormat.fromisoformat text.toList with
    | none => .error (.valueError "Invalid isoformat string")
    | some (_, none) => .error (.valueError "cursor timestamp must be timezone-aware")
    | some (fields, some offset) =>
      if inRange : InRange (fields.wall - offset) then .ok ⟨fields.wall - offset, inRange⟩ else .error .overflowError
  | _ => .error (.typeError "fromisoformat: argument must be str")

/-- `uuid.UUID(value)`. -/
def toUuid (value : Value) : Result UUID :=
  match value with
  | .str text =>
    match UUID.parse text.toList with
    | some id => .ok id
    | none => .error (.valueError "badly formed hexadecimal UUID string")
  | .null => .error (.typeError "one of the hex, bytes, bytes_le, fields, or int arguments must be given")
  | _ => .error (.attributeError "object has no attribute 'replace'")

/-- A position, or the exception that it is malformed with. -/
def readPosition (value : String) (key : CursorKey) : Result (Timestamp × UUID) := do
  let payload ← loadPayload value
  let timestamp ← awareTimestamp (← subscript payload key.name)
  let identifier ← toUuid (← subscript payload "id")
  return (timestamp, identifier)

def decodeCursor (value : String) (key : CursorKey) (errorCode resourceLabel : String) : Result (Timestamp × UUID) :=
  match readPosition value key with
  | .error (.valueError _) | .error (.keyError _) | .error (.typeError _) =>
    .error (apiError 400 errorCode (resourceLabel ++ " cursor is invalid."))
  | outcome => outcome

/-! ### Depth

`json.loads` raises `RecursionError` for a text that is nested too deeply for the stack there is,
which is no error that `decode_cursor` catches. -/

def recursionError : PyError := .runtimeError "maximum recursion depth exceeded"

/-- The text that `json.loads` is given. -/
def payloadText (value : String) : Option (List Char) :=
  if ¬value.toList.all fun c => c.toNat < 128 then none
  else
    (Base64.decode (value.toList ++ Base64.padding value.toList)).bind fun bytes =>
      bytes.toByteArray.utf8Decode?.map Array.toList

def decodeCursorWithin (tooDeep : List Char → Bool) (value : String) (key : CursorKey) (errorCode resourceLabel : String) :
    Result (Timestamp × UUID) :=
  if (payloadText value).any tooDeep then .error recursionError else decodeCursor value key errorCode resourceLabel

/-- `encode_cursor` of a timestamp by its wall clock and its offset. -/
def encodeAware (wall offset : Int) (identifier : UUID) (key : CursorKey) : Result String :=
  if inRange : InRange (wall - offset) then .ok (encodeCursor ⟨wall - offset, inRange⟩ identifier key) else .error .overflowError

/-! ## The page -/

def normalizePageLimit (limit : Int) (errorCode resourceLabel : String) (maximum : Int) : Result Int :=
  if limit < 1 ∨ maximum < limit then
    .error (apiError 400 errorCode (resourceLabel ++ " limit must be between 1 and " ++ toString maximum ++ "."))
  else .ok limit

section Statement

variable {ρ : Type} (timestampColumn : ρ → Timestamp) (idColumn : ρ → UUID)

/-- The order of the rows of a list, which a row that sorts later precedes. -/
def position (row : ρ) : Int ×ₗ Nat := toLex ((timestampColumn row).instant, (idColumn row).int)

/-- `where(or_(timestamp_column < timestamp, and_(timestamp_column == timestamp, id_column < identifier)))`. -/
def whereBelow (statement : List ρ) (timestamp : Timestamp) (identifier : UUID) : List ρ :=
  statement.filter fun row =>
    (timestampColumn row).instant < timestamp.instant ||
      ((timestampColumn row).instant == timestamp.instant && (idColumn row).int < identifier.int)

/-- `order_by(timestamp_column.desc(), id_column.desc())`. -/
def orderByDesc (statement : List ρ) : List ρ :=
  statement.insertionSort fun a b => position timestampColumn idColumn b ≤ position timestampColumn idColumn a

def paginate (statement : List ρ) (cursor : Option String) (limit : Nat) (cursorKey : CursorKey)
    (cursorErrorCode resourceLabel : String) : Result (Page ρ) := do
  let statement ← match cursor with
    | none => pure statement
    | some cursor => do
      let (timestamp, identifier) ← decodeCursor cursor cursorKey cursorErrorCode resourceLabel
      pure (whereBelow timestampColumn idColumn statement timestamp identifier)
  let rows := (orderByDesc timestampColumn idColumn statement).take (limit + 1)
  let hasMore := limit < rows.length
  let items := rows.take limit
  let nextCursor :=
    if hasMore then items.getLast?.map fun last => encodeCursor (timestampColumn last) (idColumn last) cursorKey
    else none
  return { items, nextCursor }

/-- What the list endpoints do with the rows that their filters select. -/
def listPage (statement : List ρ) (cursor : Option String) (limit : Int) (cursorKey : CursorKey)
    (limitErrorCode cursorErrorCode resourceLabel : String) : Result (Page ρ) := do
  let limit ← normalizePageLimit limit limitErrorCode resourceLabel pageLimitMax
  paginate timestampColumn idColumn statement cursor limit.toNat cursorKey cursorErrorCode resourceLabel

end Statement

/-! ## The codec -/

theorem encodeCursor_ascii (timestamp : Timestamp) (identifier : UUID) (key : CursorKey) :
    ((encodeCursor timestamp identifier key).toList.all fun c => c.toNat < 128) = true := by
  rw [encodeCursor, String.toList_ofList, List.all_eq_true]
  intro c member
  exact decide_eq_true (Base64.toNat_lt_of_mem_encode (Base64.mem_of_mem_unpadded member))

theorem loadPayload_encodeCursor (timestamp : Timestamp) (identifier : UUID) (key : CursorKey) :
    loadPayload (encodeCursor timestamp identifier key) =
      .ok (.obj [(key.name, .str (String.ofList (IsoFormat.isoformat (ofWall timestamp.instant)))),
        ("id", .str (String.ofList identifier.str))]) := by
  have ascii := encodeCursor_ascii timestamp identifier key
  have utf8Decoded (text : List Char) : (utf8 text).toByteArray.utf8Decode? = some text.toArray :=
    List.utf8Decode?_utf8Encode
  rw [loadPayload, if_neg (not_not.mpr ascii)]
  simp only [encodeCursor, String.toList_ofList, Base64.unpadded_append_padding, Base64.decode_encode, utf8Decoded,
    JsonText.loads_dumps, List.map_cons, List.map_nil]

/-- A position is decoded to what it was encoded from. -/
theorem decodeCursor_encodeCursor (timestamp : Timestamp) (identifier : UUID) (key : CursorKey)
    (errorCode resourceLabel : String) :
    decodeCursor (encodeCursor timestamp identifier key) key errorCode resourceLabel = .ok (timestamp, identifier) := by
  have stamp : awareTimestamp (.str (String.ofList (IsoFormat.isoformat (ofWall timestamp.instant)))) =
      .ok timestamp := by
    have fields := IsoFormat.fromisoformat_isoformat (Calendar.ofWall_valid timestamp.inRange)
    have wall : (ofWall timestamp.instant).wall - 0 = timestamp.instant := by
      rw [Calendar.wall_ofWall timestamp.inRange, sub_zero]
    simp only [awareTimestamp, String.toList_ofList, fields]
    simp only [wall, dif_pos timestamp.inRange]
  have id : toUuid (.str (String.ofList identifier.str)) = .ok identifier := by
    simp only [toUuid, String.toList_ofList, UUID.parse_str]
  have keyField (a b : Value) : Value.field? [(key.name, a), ("id", b)] key.name = some a := by
    have apart : (key.name == "id") = false := beq_eq_false_iff_ne.mpr key.notId
    simp [Value.field?, List.lookup, apart]
  have idField (a b : Value) : Value.field? [(key.name, a), ("id", b)] "id" = some b := by
    simp [Value.field?]
  have position : readPosition (encodeCursor timestamp identifier key) key = .ok (timestamp, identifier) := by
    simp only [readPosition, loadPayload_encodeCursor, subscript, bind, Except.bind, keyField, idField, stamp, id]
    rfl
  rw [decodeCursor, position]

/-! ## The page as one of the keyset -/

section Statement

variable {ρ : Type} (timestampColumn : ρ → Timestamp) (idColumn : ρ → UUID)

theorem whereBelow_eq (statement : List ρ) (timestamp : Timestamp) (identifier : UUID) :
    whereBelow timestampColumn idColumn statement timestamp identifier =
      Keyset.below (position timestampColumn idColumn) statement (some (toLex (timestamp.instant, identifier.int))) := by
  refine List.filter_congr fun row _ => ?_
  rw [Bool.eq_iff_iff]
  simp [position, Prod.Lex.toLex_lt_toLex]

/-- A page of the keyset with the next position encoded. -/
def rendered (cursorKey : CursorKey) (page : Keyset.Page ρ (Int ×ₗ Nat)) : Page ρ where
  items := page.items
  nextCursor :=
    if page.next.isSome then
      page.items.getLast?.map fun last => encodeCursor (timestampColumn last) (idColumn last) cursorKey
    else none

/-- `paginate` after a position is the page of the keyset below it. -/
theorem paginate_eq (statement : List ρ) (cursor : Option (Timestamp × UUID)) (limit : Nat) (cursorKey : CursorKey)
    (cursorErrorCode resourceLabel : String) :
    paginate timestampColumn idColumn statement
        (cursor.map fun (timestamp, identifier) => encodeCursor timestamp identifier cursorKey) limit cursorKey
        cursorErrorCode resourceLabel =
      .ok (rendered timestampColumn idColumn cursorKey
        (Keyset.page (position timestampColumn idColumn) statement
          (cursor.map fun (timestamp, identifier) => toLex (timestamp.instant, identifier.int)) limit)) := by
  have more (found : List ρ) : limit < (found.take (limit + 1)).length ↔ limit < found.length := by
    rw [List.length_take]
    omega
  have front (found : List ρ) : (found.take (limit + 1)).take limit = found.take limit := by
    rw [List.take_take, Nat.min_eq_left (Nat.le_succ limit)]
  have same (found : List ρ) :
      Page.mk (found.take limit)
          (if limit < found.length then
            (found.take limit).getLast?.map fun last => encodeCursor (timestampColumn last) (idColumn last) cursorKey
          else none) =
        rendered timestampColumn idColumn cursorKey
          { items := found.take limit
            next := if limit < found.length then (found.take limit).getLast?.map (position timestampColumn idColumn)
              else none } := by
    simp only [rendered]
    split
    · cases (found.take limit).getLast? <;> rfl
    · rfl
  cases cursor with
  | none =>
    have all : Keyset.below (position timestampColumn idColumn) statement none = statement :=
      List.filter_eq_self.mpr fun _ _ => rfl
    simp only [paginate, Option.map_none, pure_bind, more, front, Keyset.page, all]
    exact congrArg Except.ok (same (Keyset.descending (position timestampColumn idColumn) statement))
  | some cursor =>
    simp only [paginate, Option.map_some, decodeCursor_encodeCursor, bind, Except.bind, pure, Except.pure, whereBelow_eq,
      more, front, Keyset.page]
    exact congrArg Except.ok (same (Keyset.descending (position timestampColumn idColumn) _))

end Statement

end ZeroNvr.Pagination
