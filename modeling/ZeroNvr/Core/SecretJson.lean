import ZeroNvr.Core.JsonWrite
import ZeroNvr.Core.SecretStore
import ZeroNvr.Core.UuidText

/-! # Secrets that hold JSON objects

The part of the secret store that keeps objects: a record is made under the primary key
and read with whatever key of the ring it names.
-/

namespace ZeroNvr

open JsonText (Value write unicode sortKeys plain loads)
open Lib

namespace SecretStore

variable {cipher : Fernet} (store : SecretStore cipher)

/-- `_record`. -/
def record (table : Table SecretRecord) (secretRef : UUID) (kind ownerType : String) (ownerId : UUID) :
    Result SecretRecord :=
  match table.get? secretRef.int with
  | none => .error (.keyError "SecretStore record is unavailable")
  | some record =>
    if record.kind ≠ kind ∨ record.ownerType ≠ ownerType ∨ record.ownerId ≠ ownerId.int then
      .error (.keyError "SecretStore record is unavailable")
    else .ok record

/-- `json.dumps(value, ensure_ascii=False, sort_keys=True, separators=(",", ":")).encode("utf-8")`. -/
def jsonBytes (value : Value) : Bytes := utf8 (write unicode (sortKeys value))

/-- The record that `create_json` adds under a new id. -/
def jsonRecord (draw : cipher.Draw) (secretRef : UUID) (kind ownerType : String) (ownerId : UUID) (value : Value) :
    SecretRecord :=
  let encrypted := store.encryptBytes draw (jsonBytes value)
  { id := secretRef.int
    kind, ownerType
    ownerId := ownerId.int
    keyId := encrypted.keyId
    encryptedPayload := encrypted.ciphertext
    version := encrypted.version }

/-- `json.loads(plaintext.decode("utf-8"))`, for an object. -/
def loadsObject (plaintext : Bytes) : Result (List (String × Value)) :=
  match plaintext.toByteArray.utf8Decode? with
  | none => .error (.valueError "invalid UTF-8")
  | some text =>
    match loads text.toList with
    | none => .error (.valueError "invalid JSON")
    | some (.obj fields) => .ok fields
    | some _ => .error (.valueError "SecretStore JSON payload must be an object")

def readJson (table : Table SecretRecord) (secretRef : UUID) (kind ownerType : String) (ownerId : UUID) :
    Result (List (String × Value)) := do
  let record ← record table secretRef kind ownerType ownerId
  let plaintext ← store.plaintextOf record
  loadsObject plaintext

def delete (table : Table SecretRecord) (secretRef : UUID) (kind ownerType : String) (ownerId : UUID) :
    Result (Table SecretRecord) := do
  let record ← record table secretRef kind ownerType ownerId
  .ok (table.remove record.id)

/-- What was written is read, with its members in order. -/
theorem loadsObject_jsonBytes {fields : List (String × Value)} {sorted : List (String × Value)}
    (inOrder : sortKeys (.obj fields) = .obj sorted) (isPlain : plain (.obj sorted) = true) :
    loadsObject (jsonBytes (.obj fields)) = .ok sorted := by
  have decoded (text : List Char) : (utf8 text).toByteArray.utf8Decode? = some text.toArray := List.utf8Decode?_utf8Encode
  simp only [loadsObject, jsonBytes, decoded, inOrder, JsonText.loads_write isPlain]

/-- A new record is read under the key it was made with. -/
theorem plaintextOf_jsonRecord (lawful : ∀ key draw plaintext, cipher.decrypt key (cipher.encrypt key draw plaintext) =
    some plaintext) (draw : cipher.Draw) (secretRef : UUID) (kind ownerType : String) (ownerId : UUID) (value : Value) :
    store.plaintextOf (store.jsonRecord draw secretRef kind ownerType ownerId value) = .ok (jsonBytes value) := by
  simp [plaintextOf, decryptBytes, jsonRecord, encryptBytes, lawful]

end SecretStore

theorem record_eq_ok_iff {secrets : Table SecretRecord} {ref ownerId : UUID} {kind owner : String} {record : SecretRecord} :
    SecretStore.record secrets ref kind owner ownerId = .ok record ↔
      record ∈ secrets ∧ record.id = ref.int ∧ record.kind = kind ∧ record.ownerType = owner ∧
        record.ownerId = ownerId.int := by
  rw [SecretStore.record]
  constructor
  · intro read
    cases found : secrets.get? ref.int with
    | none =>
      rw [found] at read
      cases read
    | some stored =>
      rw [found] at read
      dsimp only at read
      split at read
      · cases read
      · next same =>
        cases read
        simp only [ne_eq, not_or, not_not] at same
        exact ⟨Table.mem_of_get? found, Table.key_of_get? found, same⟩
  · rintro ⟨member, sameId, sameKind, sameOwner, sameOwnerId⟩
    have found : secrets.get? ref.int = some record := Table.get?_eq_some_iff.mpr ⟨member, sameId⟩
    rw [found]
    simp [sameKind, sameOwner, sameOwnerId]

end ZeroNvr
