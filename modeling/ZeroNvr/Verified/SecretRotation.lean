import ZeroNvr.Core.SecretStore

/-! # Rotating the secrets

A rotation reads every record before it rewrites the first one.  So it rewrites
all of those that are under another key, or it raises and rewrites none.
-/

namespace ZeroNvr.SecretStore

open Lib

/-- `rotate_records` returns if and only if `inspect_records` reports no unreadable record.  When it
    raises, the records are as they were.  When it returns, every record has its plaintext and its
    identity, a store with the primary key alone reads it, the store is healthy, and a second
    rotation rewrites nothing. -/
theorem rotateRecords_all_or_nothing (cipher : Fernet)
    (lawful : ∀ key draw plaintext, cipher.decrypt key (cipher.encrypt key draw plaintext) = some plaintext)
    (buildKey : String → String × cipher.Key) (settings : SecretSettings) (draw : Uuid → cipher.Draw)
    (table : Table SecretRecord) :
    let store := ofSettings buildKey settings
    let single := ofSettings buildKey { settings with secretKeyPrevious := [] }
    let after := (store.rotateRecords draw table).1
    let outcome := (store.rotateRecords draw table).2
    (outcome.toOption.isSome ↔ (store.inspectRecords table).unreadableRecords = 0) ∧
      (outcome.toOption = none → after = table) ∧
      (outcome.toOption.isSome →
        (∀ record ∈ table, ∃ new ∈ after, new.identity = record.identity ∧ ∃ plaintext,
          store.plaintextOf record = .ok plaintext ∧ store.plaintextOf new = .ok plaintext ∧
            single.plaintextOf new = .ok plaintext) ∧
        (∀ new ∈ after, ∃ record ∈ table, new.identity = record.identity) ∧
        (store.inspectRecords after).status = .ok ∧
        ∀ draw', store.rotateRecords draw' after = (after, .ok
          { totalRecords := (orderedRecords after).length
            rotatedRecords := 0
            currentRecords := (orderedRecords after).length
            primaryKeyId := store.primaryKeyId })) := by
  intro store single
  rcases @rotateRecords_cases cipher store table lawful draw with
    ⟨e, raised, record, member, fails⟩ | ⟨after, plaintext, returned, read, rows⟩
  · rw [raised]
    refine ⟨⟨fun isSome => (by cases isSome), fun none => ?_⟩, fun _ => rfl, fun isSome => (by cases isSome)⟩
    have isSome := unreadableRecords_eq_zero_iff.mp none record member
    rw [fails] at isSome
    cases isSome
  · rw [returned]
    have fromTable : ∀ new ∈ after, ∃ record ∈ table, new = store.rewritten draw plaintext record := by
      intro new member
      obtain ⟨record, found, isNew⟩ := Option.map_eq_some_iff.mp ((rows new.id).symm.trans (Table.get?_of_mem member))
      exact ⟨record, Table.mem_of_get? found, isNew.symm⟩
    have same (record : SecretRecord) : (store.rewritten draw plaintext record).identity = record.identity := by
      rw [rewritten]
      split <;> rfl
    have readable : ∀ new ∈ after, ∃ plaintext, store.plaintextOf new = .ok plaintext := by
      intro new member
      obtain ⟨record, inTable, rfl⟩ := fromTable new member
      exact ⟨_, (rewritten_spec lawful draw (read record inTable)).1⟩
    have current : ∀ new ∈ after, new.keyId = store.primaryKeyId := by
      intro new member
      obtain ⟨record, inTable, rfl⟩ := fromTable new member
      exact (rewritten_spec lawful draw (read record inTable)).2
    refine ⟨⟨fun _ => unreadableRecords_eq_zero_iff.mpr fun record member => (by rw [read record member]; rfl),
      fun _ => rfl⟩, fun isNone => (by cases isNone), fun _ => ⟨?_, ?_, ?_, ?_⟩⟩
    · intro record member
      obtain ⟨reads, isPrimary⟩ := rewritten_spec lawful draw (read record member)
      have alone : single.plaintextOf (store.rewritten draw plaintext record) =
          store.plaintextOf (store.rewritten draw plaintext record) :=
        plaintextOf_of_primary rfl rfl isPrimary
      refine ⟨store.rewritten draw plaintext record, ?_, same record, plaintext record.id, read record member, reads,
        alone.trans reads⟩
      refine @Table.mem_of_get? _ _ _ _ _ record.id _ ?_
      rw [rows, show table.get? record.id = some record from Table.get?_of_mem member]
      rfl
    · intro new member
      obtain ⟨record, inTable, rfl⟩ := fromTable new member
      exact ⟨record, inTable, same record⟩
    · refine inspectRecords_ok (fun new member => ?_) current
      obtain ⟨_, reads⟩ := readable new member
      rw [reads]
      rfl
    · exact fun draw' => rotateRecords_current draw' readable current

/-- A cipher that writes its key before the message and compares it on the way back. -/
def taggedCipher : Fernet where
  Key := UInt8
  Draw := Unit
  encrypt key _ plaintext := key :: plaintext
  decrypt key ciphertext :=
    match ciphertext with
    | [] => none
    | tag :: plaintext => if tag = key then some plaintext else none

def taggedKey (secret : String) : String × UInt8 := if secret = "new" then ("new-id", 2) else ("old-id", 1)

/-- One record under the previous key and one under the primary key. -/
def mixedRecords : Table SecretRecord where
  rows :=
    [{ id := 7, kind := "camera", ownerType := "device", ownerId := 1, keyId := "old-id", encryptedPayload := [1, 40],
       version := 1 },
     { id := 3, kind := "smtp", ownerType := "target", ownerId := 2, keyId := "new-id", encryptedPayload := [2, 50],
       version := 1 }]
  keysNodup := by decide

theorem rotateRecords_mixed :
    let store := @ofSettings taggedCipher taggedKey { secretKey := "new", secretKeyPrevious := ["old"] }
    (store.rotateRecords (fun _ => ()) mixedRecords).2.toOption.isSome ∧
      (store.inspectRecords (store.rotateRecords (fun _ => ()) mixedRecords).1).status = .ok := by
  intro store
  obtain ⟨returns, -, kept⟩ := rotateRecords_all_or_nothing taggedCipher
    (fun key draw plaintext => if_pos rfl) taggedKey { secretKey := "new", secretKeyPrevious := ["old"] } (fun _ => ())
    mixedRecords
  have returned := returns.mpr (by decide +kernel)
  exact ⟨returned, (kept returned).2.2.1⟩

end ZeroNvr.SecretStore
