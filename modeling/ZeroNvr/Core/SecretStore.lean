import ZeroNvr.Core.Errors
import ZeroNvr.Core.Json
import ZeroNvr.Core.Time
import ZeroNvr.Lib.Outcome
import ZeroNvr.Lib.Table

/-! # The secret store

Authenticated encryption of the secret records under a key ring.  The cipher
and the derivation of a key from a deployment secret are parameters; every
encryption takes a fresh draw of randomness.
-/

namespace ZeroNvr

open Lib

/-- A cipher with its keys and the randomness of one encryption; `decrypt` answers `none` where
    the library raises `InvalidToken`. -/
structure Fernet where
  Key : Type
  Draw : Type
  encrypt : Key → Draw → Bytes → Bytes
  decrypt : Key → Bytes → Option Bytes

structure EncryptedSecret where
  keyId : String
  ciphertext : Bytes
  version : Int

structure SecretRecord where
  id : Uuid
  kind : String
  ownerType : String
  ownerId : Uuid
  keyId : String
  encryptedPayload : Bytes
  version : Int
  deriving DecidableEq

instance : Keyed SecretRecord Uuid := ⟨SecretRecord.id⟩

/-- What a record is, apart from its secret. -/
def SecretRecord.identity (record : SecretRecord) : Uuid × String × String × Uuid :=
  (record.id, record.kind, record.ownerType, record.ownerId)

structure SecretRotationResult where
  totalRecords : Nat
  rotatedRecords : Nat
  currentRecords : Nat
  primaryKeyId : String
  deriving DecidableEq

inductive SecretStoreStatus where
  | error
  | rotationRequired
  | ok
  deriving DecidableEq

structure SecretStoreHealth where
  status : SecretStoreStatus
  totalRecords : Nat
  currentRecords : Nat
  staleRecords : Nat
  unreadableRecords : Nat
  previousKeyCount : Nat
  primaryKeyId : String
  rotationReady : Bool

/-- The deployment secrets: the current one and the ones before it. -/
structure SecretSettings where
  secretKey : String
  secretKeyPrevious : List String

/-- A key ring; the primary key is the first one. -/
structure SecretStore (cipher : Fernet) where
  primaryKeyId : String
  primary : cipher.Key
  previous : List (String × cipher.Key)

namespace SecretStore

variable {cipher : Fernet}

def keys (store : SecretStore cipher) : List (String × cipher.Key) :=
  (store.primaryKeyId, store.primary) :: store.previous

/-- The ring that the settings configure: a secret whose key is there already is passed over. -/
def ofSettings (buildKey : String → String × cipher.Key) (settings : SecretSettings) : SecretStore cipher :=
  let (primaryKeyId, primary) := buildKey settings.secretKey
  let previous := settings.secretKeyPrevious.foldl
    (fun previous value =>
      let (keyId, key) := buildKey value
      if keyId = primaryKeyId ∨ (previous.lookup keyId).isSome then previous else previous ++ [(keyId, key)])
    []
  { primaryKeyId, primary, previous }

/-! ## Encryption -/

def encryptBytes (store : SecretStore cipher) (draw : cipher.Draw) (plaintext : Bytes) : EncryptedSecret :=
  { keyId := store.primaryKeyId, ciphertext := cipher.encrypt store.primary draw plaintext, version := 1 }

def decryptBytes (store : SecretStore cipher) (keyId : String) (ciphertext : Bytes) (version : Int) : Result Bytes :=
  if version ≠ 1 then .error (.valueError ("unsupported SecretStore version: " ++ toString version))
  else
    match store.keys.lookup keyId with
    | none => .error (.keyError ("SecretStore key is unavailable: " ++ keyId))
    | some key =>
      match cipher.decrypt key ciphertext with
      | none => .error (.valueError "SecretStore ciphertext authentication failed")
      | some plaintext => .ok plaintext

def needsRotation (store : SecretStore cipher) (keyId : String) : Bool := keyId ≠ store.primaryKeyId

/-- `decrypt_bytes` of the fields of a record. -/
def plaintextOf (store : SecretStore cipher) (record : SecretRecord) : Result Bytes :=
  store.decryptBytes record.keyId record.encryptedPayload record.version

/-- Whether `inspect_records` counts a record as unreadable. -/
def unreadable (store : SecretStore cipher) (record : SecretRecord) : Bool :=
  match store.plaintextOf record with
  | .error (.keyError _) | .error (.valueError _) => true
  | _ => false

/-! ## Records -/

/-- `select(record_type).order_by(record_type.id)`. -/
def orderedRecords (table : Table SecretRecord) : List SecretRecord :=
  table.rows.insertionSort fun a b => a.id ≤ b.id

def inspectRecords (store : SecretStore cipher) (table : Table SecretRecord) : SecretStoreHealth :=
  let records := orderedRecords table
  let current := records.countP fun record => record.keyId = store.primaryKeyId
  let stale := records.countP fun record => record.keyId ≠ store.primaryKeyId
  let unreadable := records.countP store.unreadable
  { status := if unreadable ≠ 0 then .error else if stale ≠ 0 then .rotationRequired else .ok
    totalRecords := records.length
    currentRecords := current
    staleRecords := stale
    unreadableRecords := unreadable
    previousKeyCount := store.keys.length - 1
    primaryKeyId := store.primaryKeyId
    rotationReady := 0 < stale && unreadable = 0 }

/-- A record under the primary key. -/
def reencrypted (store : SecretStore cipher) (draw : cipher.Draw) (plaintext : Bytes) (record : SecretRecord) :
    SecretRecord :=
  let encrypted := store.encryptBytes draw plaintext
  { record with keyId := encrypted.keyId, encryptedPayload := encrypted.ciphertext, version := encrypted.version }

/-- The second pass: the records under another key are rewritten.  The number is that of the
    rewritten records. -/
def rewrite (store : SecretStore cipher) (draw : Uuid → cipher.Draw) (plaintextById : List (Uuid × Bytes)) :
    List SecretRecord → Table SecretRecord → (rotated : Nat) → Table SecretRecord × Result Nat
  | [], table, rotated => (table, .ok rotated)
  | record :: records, table, rotated =>
    if ¬store.needsRotation record.keyId then store.rewrite draw plaintextById records table rotated
    else
      match plaintextById.lookup record.id with
      | none => (table, .error (.keyError (toString record.id)))
      | some plaintext =>
        store.rewrite draw plaintextById records
          (table.modify record.id (store.reencrypted (draw record.id) plaintext)) (rotated + 1)

/-- The last pass: every record can be read, under the primary key. -/
def verify (store : SecretStore cipher) (record : SecretRecord) : Result Unit :=
  match store.plaintextOf record with
  | .error e => .error e
  | .ok _ =>
    if record.keyId ≠ store.primaryKeyId then .error (.valueError "SecretStore rotation left a non-primary key record")
    else .ok ()

/-- The records as the call leaves them, and what it returns or raises. -/
def rotateRecords (store : SecretStore cipher) (draw : Uuid → cipher.Draw) (table : Table SecretRecord) :
    Table SecretRecord × Result SecretRotationResult :=
  let records := orderedRecords table
  match records.mapM fun record => (store.plaintextOf record).map fun plaintext => (record.id, plaintext) with
  | .error e => (table, .error e)
  | .ok plaintextById =>
    match store.rewrite draw plaintextById records table 0 with
    | (rewritten, .error e) => (rewritten, .error e)
    | (rewritten, .ok rotated) =>
      match (orderedRecords rewritten).mapM store.verify with
      | .error e => (rewritten, .error e)
      | .ok _ =>
        (rewritten, .ok
          { totalRecords := records.length
            rotatedRecords := rotated
            currentRecords := records.length - rotated
            primaryKeyId := store.primaryKeyId })

/-! ## What an operation does -/

section Records

variable {store : SecretStore cipher} {table : Table SecretRecord}

theorem mem_orderedRecords {record : SecretRecord} : record ∈ orderedRecords table ↔ record ∈ table :=
  (List.perm_insertionSort _ _).mem_iff

theorem nodup_orderedRecords : ((orderedRecords table).map SecretRecord.id).Nodup :=
  (((List.perm_insertionSort _ table.rows).map _).nodup_iff).mpr table.keysNodup

@[simp] theorem lookup_primary : store.keys.lookup store.primaryKeyId = some store.primary := by
  simp [keys, List.lookup]

/-- Decryption raises one of the two errors that `inspect_records` counts, or reads a ciphertext of
    version 1 with the key it names. -/
theorem plaintextOf_cases (store : SecretStore cipher) (record : SecretRecord) :
    (∃ message, store.plaintextOf record = .error (.valueError message)) ∨
    (∃ key, store.plaintextOf record = .error (.keyError key)) ∨
    ∃ key plaintext, record.version = 1 ∧ store.keys.lookup record.keyId = some key ∧
      cipher.decrypt key record.encryptedPayload = some plaintext ∧ store.plaintextOf record = .ok plaintext := by
  rw [plaintextOf, decryptBytes]
  split
  · exact .inl ⟨_, rfl⟩
  · next isOne =>
    cases found : store.keys.lookup record.keyId with
    | none => exact .inr (.inl ⟨_, rfl⟩)
    | some key =>
      dsimp only
      cases decrypted : cipher.decrypt key record.encryptedPayload with
      | none => exact .inl ⟨_, rfl⟩
      | some plaintext => exact .inr (.inr ⟨key, plaintext, not_not.mp isOne, rfl, decrypted, rfl⟩)

theorem unreadable_eq_false_iff {record : SecretRecord} :
    store.unreadable record = false ↔ (store.plaintextOf record).toOption.isSome := by
  rcases store.plaintextOf_cases record with ⟨_, raised⟩ | ⟨_, raised⟩ | ⟨_, _, _, _, _, read⟩
  · simp [unreadable, raised, Except.toOption]
  · simp [unreadable, raised, Except.toOption]
  · simp [unreadable, read, Except.toOption]

theorem unreadableRecords_eq_zero_iff :
    (store.inspectRecords table).unreadableRecords = 0 ↔ ∀ record ∈ table, (store.plaintextOf record).toOption.isSome := by
  simp only [inspectRecords, List.countP_eq_zero, mem_orderedRecords, Bool.not_eq_true, unreadable_eq_false_iff]

/-- A record under the primary key is read with the primary key alone. -/
theorem plaintextOf_of_primary {single : SecretStore cipher} {record : SecretRecord}
    (sameId : single.primaryKeyId = store.primaryKeyId) (sameKey : single.primary = store.primary)
    (isPrimary : record.keyId = store.primaryKeyId) : single.plaintextOf record = store.plaintextOf record := by
  have here : single.keys.lookup record.keyId = some store.primary := by
    rw [isPrimary, ← sameId, lookup_primary, sameKey]
  have there : store.keys.lookup record.keyId = some store.primary := by rw [isPrimary, lookup_primary]
  simp only [plaintextOf, decryptBytes, here, there]

/-- What was encrypted is read. -/
theorem plaintextOf_reencrypted (lawful : ∀ key draw plaintext, cipher.decrypt key (cipher.encrypt key draw plaintext) =
      some plaintext) (draw : cipher.Draw) (plaintext : Bytes) (record : SecretRecord) :
    store.plaintextOf (store.reencrypted draw plaintext record) = .ok plaintext := by
  simp [plaintextOf, decryptBytes, reencrypted, encryptBytes, lawful]

/-- The plaintexts of the records, by their ids. -/
theorem lookup_map {plaintext : Uuid → Bytes} {records : List SecretRecord} {record : SecretRecord}
    (member : record ∈ records) :
    (records.map fun record => (record.id, plaintext record.id)).lookup record.id = some (plaintext record.id) := by
  induction records with
  | nil => cases member
  | cons first records ih =>
    rw [List.map_cons, List.lookup_cons]
    cases same : record.id == first.id with
    | true =>
      rw [beq_iff_eq] at same
      simp only [same]
    | false =>
      refine ih ((List.mem_cons.mp member).resolve_left ?_)
      rintro rfl
      simp at same

/-- What the second pass makes of a record. -/
def rewritten (store : SecretStore cipher) (draw : Uuid → cipher.Draw) (plaintext : Uuid → Bytes) (record : SecretRecord) :
    SecretRecord :=
  if store.needsRotation record.keyId then store.reencrypted (draw record.id) (plaintext record.id) record else record

/-- A record that was read keeps its plaintext, and is under the primary key afterwards. -/
theorem rewritten_spec (lawful : ∀ key draw plaintext, cipher.decrypt key (cipher.encrypt key draw plaintext) =
      some plaintext) (draw : Uuid → cipher.Draw) {plaintext : Uuid → Bytes} {record : SecretRecord}
    (read : store.plaintextOf record = .ok (plaintext record.id)) :
    store.plaintextOf (store.rewritten draw plaintext record) = .ok (plaintext record.id) ∧
      (store.rewritten draw plaintext record).keyId = store.primaryKeyId := by
  rw [rewritten]
  split
  · exact ⟨plaintextOf_reencrypted lawful _ _ _, rfl⟩
  · next current => exact ⟨read, by simpa [needsRotation] using current⟩

/-- Records that are all under the primary key are left alone. -/
theorem rewrite_current (draw : Uuid → cipher.Draw) (plaintextById : List (Uuid × Bytes)) {records : List SecretRecord}
    (current : ∀ record ∈ records, record.keyId = store.primaryKeyId) (table : Table SecretRecord) (rotated : Nat) :
    store.rewrite draw plaintextById records table rotated = (table, .ok rotated) := by
  induction records with
  | nil => rfl
  | cons record records ih =>
    have here : store.needsRotation record.keyId = false := by
      simp [needsRotation, current record List.mem_cons_self]
    rw [rewrite, if_pos (by rw [here]; decide), ih fun other member => current other (List.mem_cons_of_mem _ member)]

/-- The second pass rewrites each record that is under another key, and no other. -/
theorem rewrite_spec (draw : Uuid → cipher.Draw) {plaintextById : List (Uuid × Bytes)} {plaintext : Uuid → Bytes}
    (records : List SecretRecord) (distinct : (records.map SecretRecord.id).Nodup)
    (known : ∀ record ∈ records, plaintextById.lookup record.id = some (plaintext record.id))
    (table : Table SecretRecord) (present : ∀ record ∈ records, table.get? record.id = some record) (rotated : Nat) :
    ∃ after, store.rewrite draw plaintextById records table rotated =
        (after, .ok (rotated + records.countP fun record => store.needsRotation record.keyId)) ∧
      (∀ record ∈ records, after.get? record.id = some (store.rewritten draw plaintext record)) ∧
      ∀ id, id ∉ records.map SecretRecord.id → after.get? id = table.get? id := by
  induction records generalizing table rotated with
  | nil => exact ⟨table, rfl, fun _ inNil => absurd inNil List.not_mem_nil, fun _ _ => rfl⟩
  | cons record records ih =>
    obtain ⟨notLater, distinctLater⟩ := List.nodup_cons.mp distinct
    have knownLater := fun other member => known other (List.mem_cons_of_mem record member)
    have here := present record List.mem_cons_self
    rw [rewrite, List.countP_cons]
    cases needs : store.needsRotation record.keyId with
    | false =>
      obtain ⟨after, done, rest, others⟩ := ih distinctLater knownLater table
        (fun other member => present other (List.mem_cons_of_mem _ member)) rotated
      refine ⟨after, by simpa using done, fun other member => ?_, fun id absent => others id fun later =>
        absent (List.mem_cons_of_mem _ later)⟩
      rcases List.mem_cons.mp member with rfl | later
      · rw [others _ notLater, here, rewritten, needs]
        rfl
      · exact rest other later
    | true =>
      have laterPresent : ∀ other ∈ records,
          (table.modify record.id (store.reencrypted (draw record.id) (plaintext record.id))).get? other.id = some other := by
        intro other member
        have differs : other.id ≠ record.id := fun same => notLater (same ▸ List.mem_map_of_mem member)
        exact (Table.get?_modify_ne _ differs _ _).trans (present other (List.mem_cons_of_mem _ member))
      obtain ⟨after, done, rest, others⟩ := ih distinctLater knownLater _ laterPresent (rotated + 1)
      refine ⟨after, ?_, fun other member => ?_, fun id absent => ?_⟩
      · simp only [not_true_eq_false, if_false, known record List.mem_cons_self, done, if_true]
        exact congrArg (fun count => (after, Except.ok count)) (by omega)
      · rcases List.mem_cons.mp member with rfl | later
        · rw [others _ notLater, rewritten, needs]
          exact Table.get?_modify_self here _ _
        · exact rest other later
      · rw [List.map_cons, List.mem_cons, not_or] at absent
        obtain ⟨differs, notInRest⟩ := absent
        exact (others id notInRest).trans (Table.get?_modify_ne _ differs _ _)

/-- The first pass reads every record, or raises and the records stay as they are. -/
theorem rotateRecords_cases (lawful : ∀ key draw plaintext, cipher.decrypt key (cipher.encrypt key draw plaintext) =
      some plaintext) (draw : Uuid → cipher.Draw) :
    (∃ e, store.rotateRecords draw table = (table, .error e) ∧ ∃ record ∈ table, (store.plaintextOf record).toOption = none) ∨
    ∃ after plaintext,
      store.rotateRecords draw table = (after, .ok
        { totalRecords := (orderedRecords table).length
          rotatedRecords := (orderedRecords table).countP fun record => store.needsRotation record.keyId
          currentRecords := (orderedRecords table).length -
            (orderedRecords table).countP fun record => store.needsRotation record.keyId
          primaryKeyId := store.primaryKeyId }) ∧
      (∀ record ∈ table, store.plaintextOf record = .ok (plaintext record.id)) ∧
      ∀ id, after.get? id = (table.get? id).map (store.rewritten draw plaintext) := by
  rcases mapM_cases (fun record => (store.plaintextOf record).map fun plaintext => (record.id, plaintext))
    (orderedRecords table) with ⟨read, readable⟩ | ⟨⟨e, raised⟩, record, member, fails⟩
  · have readable : ∀ record ∈ table, ∃ plaintext, store.plaintextOf record = .ok plaintext := by
      intro record member
      have isSome := readable record (mem_orderedRecords.mpr member)
      cases outcome : store.plaintextOf record with
      | error e => rw [outcome] at isSome; cases isSome
      | ok plaintext => exact ⟨plaintext, rfl⟩
    -- the plaintext of the record with an id
    obtain ⟨plaintext, isPlaintext⟩ : ∃ plaintext : Uuid → Bytes, ∀ record ∈ table,
        store.plaintextOf record = .ok (plaintext record.id) := by
      refine ⟨fun id => ((table.get? id).bind fun record => (store.plaintextOf record).toOption).getD [], ?_⟩
      intro record member
      obtain ⟨value, read⟩ := readable record member
      have found : table.get? record.id = some record := Table.get?_of_mem member
      simp [found, read, Except.toOption]
    have known : ∀ record ∈ orderedRecords table,
        (successes (fun record => (store.plaintextOf record).map fun plaintext => (record.id, plaintext))
          (orderedRecords table)).lookup record.id = some (plaintext record.id) := by
      intro record member
      have all : successes (fun record => (store.plaintextOf record).map fun plaintext => (record.id, plaintext))
          (orderedRecords table) = (orderedRecords table).map fun record => (record.id, plaintext record.id) := by
        rw [successes, ← List.filterMap_eq_map]
        refine List.filterMap_congr fun other inRecords => ?_
        rw [isPlaintext other (mem_orderedRecords.mp inRecords)]
        rfl
      rw [all]
      exact lookup_map member
    obtain ⟨after, done, rewrittenRows, others⟩ := rewrite_spec draw (orderedRecords table) nodup_orderedRecords known table
      (fun record member => Table.get?_of_mem (mem_orderedRecords.mp member)) 0
    have rows (id : Uuid) : after.get? id = (table.get? id).map (store.rewritten draw plaintext) := by
      cases found : table.get? id with
      | none =>
        rw [others id fun member => ?_, found]
        · rfl
        · obtain ⟨record, inRecords, rfl⟩ := List.mem_map.mp member
          exact Table.get?_eq_none_iff.mp found record (mem_orderedRecords.mp inRecords) rfl
      | some record =>
        obtain ⟨member, rfl⟩ := Table.get?_eq_some_iff.mp found
        exact rewrittenRows record (mem_orderedRecords.mpr member)
    have verified : ∀ record ∈ orderedRecords after, (store.verify record).toOption.isSome := by
      intro record member
      have found := Table.get?_of_mem (mem_orderedRecords.mp member)
      obtain ⟨old, inTable, rfl⟩ := Option.map_eq_some_iff.mp ((rows _).symm.trans found)
      obtain ⟨read, isPrimary⟩ := rewritten_spec lawful draw (isPlaintext old (Table.mem_of_get? inTable))
      rw [verify, read]
      simp [isPrimary, Except.toOption]
    have allVerified := mapM_ok_of_forall verified
    refine .inr ⟨after, plaintext, ?_, isPlaintext, rows⟩
    rw [rotateRecords, read]
    simp only [done, allVerified, Nat.zero_add]
  · refine .inl ⟨e, ?_, record, mem_orderedRecords.mp member, ?_⟩
    · rw [rotateRecords, raised]
    · cases outcome : store.plaintextOf record with
      | error e => rfl
      | ok plaintext => rw [outcome] at fails; cases fails

/-- A rotation of records that are all under the primary key rewrites none of them. -/
theorem rotateRecords_current (draw : Uuid → cipher.Draw)
    (readable : ∀ record ∈ table, ∃ plaintext, store.plaintextOf record = .ok plaintext)
    (current : ∀ record ∈ table, record.keyId = store.primaryKeyId) :
    store.rotateRecords draw table = (table, .ok
      { totalRecords := (orderedRecords table).length
        rotatedRecords := 0
        currentRecords := (orderedRecords table).length
        primaryKeyId := store.primaryKeyId }) := by
  have read : (orderedRecords table).mapM
      (fun record => (store.plaintextOf record).map fun plaintext => (record.id, plaintext)) = .ok (successes _ _) :=
    mapM_ok_of_forall fun record member => by
      obtain ⟨plaintext, read⟩ := readable record (mem_orderedRecords.mp member)
      rw [read]
      rfl
  have verified : (orderedRecords table).mapM store.verify = .ok (successes _ _) :=
    mapM_ok_of_forall fun record member => by
      obtain ⟨plaintext, read⟩ := readable record (mem_orderedRecords.mp member)
      rw [verify, read]
      simp [current record (mem_orderedRecords.mp member), Except.toOption]
  rw [rotateRecords, read]
  simp only [rewrite_current draw _ fun record member => current record (mem_orderedRecords.mp member), verified,
    Nat.sub_zero]

/-- Readable records under the primary key are what `inspect_records` calls OK. -/
theorem inspectRecords_ok (readable : ∀ record ∈ table, (store.plaintextOf record).toOption.isSome)
    (current : ∀ record ∈ table, record.keyId = store.primaryKeyId) : (store.inspectRecords table).status = .ok := by
  have noneUnreadable : (orderedRecords table).countP store.unreadable = 0 :=
    unreadableRecords_eq_zero_iff.mpr readable
  have noneStale : ((orderedRecords table).countP fun record => record.keyId ≠ store.primaryKeyId) = 0 := by
    rw [List.countP_eq_zero]
    exact fun record member => by simp [current record (mem_orderedRecords.mp member)]
  simp only [inspectRecords, noneUnreadable, noneStale]
  rfl

end Records

end SecretStore

end ZeroNvr
