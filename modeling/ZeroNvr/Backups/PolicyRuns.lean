import ZeroNvr.Backups.Policies
import ZeroNvr.Lib.Run

/-! # Runs of the backup policies

The rows of the policies and the secrets they refer to, over any order of changes and
key rotations.  A secret of a policy always holds what `create` or `update` accepted,
under a key of the deployment.
-/

namespace ZeroNvr

open JsonText (Value sortKeys)
open Lib
open Pagination (Timestamp)
open BackupPolicyService

/-- `issued` lists the ids that the secrets of policies have ever had. -/
structure PolicyState where
  settings : SecretSettings
  secrets : Table SecretRecord
  policies : Table BackupPolicyRow
  issued : List UUID

inductive PolicyEvent where
  | create
  | update
  | rotate
  | configure
  | others
  deriving DecidableEq

section
variable {cipher : Fernet} (buildKey : String → String × cipher.Key)
  (urlsplit : String → Option (Option String × Option String))

def PolicyState.store (s : PolicyState) : SecretStore cipher := .ofSettings buildKey s.settings

/-- A call that raises is rolled back, and is no step.  The secrets of other owners change as they
    like. -/
inductive PolicyStep : PolicyState → PolicyEvent → PolicyState → Prop
  | create {s : PolicyState} {draws : cipher.Draw × cipher.Draw} {policyId repositoryRef credentialRef : UUID}
      {now : Timestamp} {repository password : String} {environment : List (String × String)} {initializing : Bool}
      {secrets : Table SecretRecord} {policies : Table BackupPolicyRow} {row : BackupPolicyRow}
      (repositoryNew : repositoryRef ∉ s.issued) (credentialNew : credentialRef ∉ s.issued)
      (created : BackupPolicyService.create (s.store buildKey) urlsplit draws policyId repositoryRef credentialRef now s.secrets
        repository password environment initializing = .ok (secrets, row))
      (added : s.policies.insert? row = some policies) :
      PolicyStep s .create { s with secrets, policies, issued := repositoryRef :: credentialRef :: s.issued }
  | update {s : PolicyState} {draws : cipher.Draw × cipher.Draw} {repositoryRef credentialRef : UUID} {now : Timestamp}
      {changes : BackupPolicyChanges} {secrets : Table SecretRecord} {row changed : BackupPolicyRow}
      (repositoryNew : repositoryRef ∉ s.issued) (credentialNew : credentialRef ∉ s.issued) (member : row ∈ s.policies)
      (updated : BackupPolicyService.update (s.store buildKey) urlsplit draws repositoryRef credentialRef now s.secrets row
        changes = .ok (secrets, changed)) :
      PolicyStep s .update
        { s with secrets, policies := s.policies.put changed, issued := repositoryRef :: credentialRef :: s.issued }
  | rotate {s : PolicyState} (draw : Uuid → cipher.Draw) :
      PolicyStep s .rotate { s with secrets := ((s.store buildKey).rotateRecords draw s.secrets).1 }
  | configure {s : PolicyState} (settings : SecretSettings) : PolicyStep s .configure { s with settings }
  | others {s : PolicyState} {secrets : Table SecretRecord}
      (same : ∀ record : SecretRecord, record.ownerType = ownerType → (record ∈ secrets ↔ record ∈ s.secrets)) :
      PolicyStep s .others { s with secrets }

end

/-- No policy was ever made. -/
def PolicyState.fresh (settings : SecretSettings) : PolicyState :=
  { settings, secrets := .empty, policies := .empty, issued := [] }

/-! ## What a secret holds -/

/-- What the service keeps under a kind. -/
inductive Stored : String → List (String × Value) → Prop
  | repository {repository : String} (nonempty : repository.toList ≠ []) (initializing : Bool) :
      Stored repositoryKind [("repository", .str repository), ("initialize_if_missing", .bool initializing)]
  | credentials {password : String} {environment : List (String × String)} (nonempty : password ≠ "")
      (valid : ValidEnvironment environment) :
      Stored credentialsKind [("password", .str password),
        ("environment", .obj (environment.map fun (key, value) => (key, .str value)))]

section
variable {cipher : Fernet} (buildKey : String → String × cipher.Key)

/-- A record that was encrypted under the key of some deployment secret. -/
def Sealed (record : SecretRecord) (fields : List (String × Value)) : Prop :=
  ∃ secret draw, record.keyId = (buildKey secret).1 ∧ record.version = 1 ∧
    record.encryptedPayload = cipher.encrypt (buildKey secret).2 draw (SecretStore.jsonBytes (.obj fields))

/-- A record that holds what the service keeps. -/
def SealedSecret (record : SecretRecord) : Prop := ∃ fields, Stored record.kind fields ∧ Sealed buildKey record fields

end

/-- The secret of a kind that a policy refers to is there. -/
def Holds (secrets : Table SecretRecord) (ref : UUID) (kind : String) (policyId : UUID) : Prop :=
  ∃ record, SecretStore.record secrets ref kind ownerType policyId = .ok record

/-- Both secrets of a policy are there. -/
structure Owned (secrets : Table SecretRecord) (policy : BackupPolicyRow) : Prop where
  repository : Holds secrets policy.repositoryConfigRef repositoryKind policy.id
  credentials : ∀ ref, policy.credentialSecretRef = some ref → Holds secrets ref credentialsKind policy.id

/-- What holds after any run. -/
structure PolicyState.Sound {cipher : Fernet} (buildKey : String → String × cipher.Key) (s : PolicyState) : Prop where
  sealed : ∀ record ∈ s.secrets, record.ownerType = ownerType → SealedSecret buildKey record
  issued : ∀ record ∈ s.secrets, record.ownerType = ownerType → ∃ ref ∈ s.issued, ref.int = record.id
  owned : ∀ policy ∈ s.policies, Owned s.secrets policy

/-! ## Records -/

theorem Holds.insert {secrets grown : Table SecretRecord} {new : SecretRecord} {ref policyId : UUID} {kind : String}
    (inserted : secrets.insert? new = some grown) (holds : Holds secrets ref kind policyId) : Holds grown ref kind policyId := by
  obtain ⟨record, read⟩ := holds
  rw [record_eq_ok_iff] at read
  exact ⟨record, record_eq_ok_iff.mpr ⟨(Table.mem_insert? inserted).mpr (.inl read.1), read.2⟩⟩

section
variable {cipher : Fernet} {store : SecretStore cipher} {secrets grown : Table SecretRecord} {draw : cipher.Draw}
  {ref policyId : UUID} {kind : String} {value : Value}

theorem holds_created (created : createSecret store draw secrets ref kind policyId value = .ok grown) :
    Holds grown ref kind policyId :=
  ⟨_, record_eq_ok_iff.mpr ⟨(Table.mem_insert? (createSecret_ok created)).mpr (.inr rfl), rfl, rfl, rfl, rfl⟩⟩

theorem delete_ok (deleted : SecretStore.delete secrets ref kind ownerType policyId = .ok grown) :
    ∃ record, SecretStore.record secrets ref kind ownerType policyId = .ok record ∧ grown = secrets.remove ref.int := by
  rw [SecretStore.delete, bind_eq_ok] at deleted
  obtain ⟨record, read, deleted⟩ := deleted
  cases deleted
  exact ⟨record, read, by rw [(record_eq_ok_iff.mp read).2.1]⟩

/-- A deletion leaves the secrets of another policy, of another kind and under another id. -/
theorem Holds.delete {other otherPolicy : UUID} {otherKind : String}
    (deleted : SecretStore.delete secrets ref kind ownerType policyId = .ok grown)
    (differs : otherKind ≠ kind ∨ otherPolicy ≠ policyId ∨ other ≠ ref) (holds : Holds secrets other otherKind otherPolicy) :
    Holds grown other otherKind otherPolicy := by
  obtain ⟨removed, readRemoved, rfl⟩ := delete_ok deleted
  obtain ⟨record, read⟩ := holds
  rw [record_eq_ok_iff] at read readRemoved
  obtain ⟨member, sameId, sameKind, sameOwner, samePolicy⟩ := read
  obtain ⟨removedMember, removedId, removedKind, removedOwner, removedPolicy⟩ := readRemoved
  refine ⟨record, record_eq_ok_iff.mpr ⟨Table.mem_remove.mpr ⟨member, fun same => ?_⟩, sameId, sameKind, sameOwner,
    samePolicy⟩⟩
  have isRemoved : record = removed := Table.eq_of_key_eq member removedMember (same.trans removedId.symm)
  rcases differs with kindDiffers | policyDiffers | refDiffers
  · exact kindDiffers (sameKind.symm.trans (isRemoved ▸ removedKind))
  · exact policyDiffers (UUID.eq_of_int (samePolicy.symm.trans (isRemoved ▸ removedPolicy)))
  · exact refDiffers (UUID.eq_of_int (sameId.symm.trans same))

end

/-! ## The key ring -/

section
variable {cipher : Fernet} {buildKey : String → String × cipher.Key}

theorem mem_keys_ofSettings {settings : SecretSettings} {entry : String × cipher.Key}
    (member : entry ∈ (SecretStore.ofSettings buildKey settings).keys) : ∃ secret, entry = buildKey secret := by
  have previous (values : List String) (start : List (String × cipher.Key))
      (built : ∀ entry ∈ start, ∃ secret, entry = buildKey secret) :
      ∀ entry ∈ values.foldl (fun previous value =>
          if (buildKey value).1 = (buildKey settings.secretKey).1 ∨ (previous.lookup (buildKey value).1).isSome then previous
          else previous ++ [buildKey value]) start, ∃ secret, entry = buildKey secret := by
    induction values generalizing start with
    | nil => exact built
    | cons value values ih =>
      refine ih _ fun entry member => ?_
      dsimp only at member
      split at member
      · exact built entry member
      · rcases List.mem_append.mp member with inStart | isNew
        · exact built entry inStart
        · exact ⟨value, List.mem_singleton.mp isNew⟩
  rcases List.mem_cons.mp member with rfl | inPrevious
  · exact ⟨settings.secretKey, rfl⟩
  · exact previous settings.secretKeyPrevious [] (fun _ inNil => absurd inNil List.not_mem_nil) entry inPrevious

section
variable {settings : SecretSettings} {record : SecretRecord} {fields : List (String × Value)}
  (lawful : ∀ key draw plaintext, cipher.decrypt key (cipher.encrypt key draw plaintext) = some plaintext)
  (identified : ∀ a b, (buildKey a).1 = (buildKey b).1 → (buildKey a).2 = (buildKey b).2)
include lawful identified

/-- A ring that knows the key of a record reads what was sealed. -/
theorem plaintextOf_of_sealed (isSealed : Sealed buildKey record fields)
    (known : ((SecretStore.ofSettings buildKey settings).keys.lookup record.keyId).isSome) :
    (SecretStore.ofSettings buildKey settings).plaintextOf record = .ok (SecretStore.jsonBytes (.obj fields)) := by
  obtain ⟨secret, draw, isKey, isVersion, isPayload⟩ := isSealed
  obtain ⟨key, found⟩ := Option.isSome_iff_exists.mp known
  obtain ⟨before, after, ring, _⟩ := List.lookup_eq_some_iff.mp found
  obtain ⟨other, isOther⟩ : ∃ other, (record.keyId, key) = buildKey other :=
    mem_keys_ofSettings (ring ▸ List.mem_append_right before List.mem_cons_self)
  have sameKey : key = (buildKey secret).2 := by
    have sameId : (buildKey other).1 = (buildKey secret).1 := by rw [← isOther, isKey]
    rw [← identified other secret sameId, ← isOther]
  rw [SecretStore.plaintextOf, SecretStore.decryptBytes, if_neg (not_not.mpr isVersion)]
  simp only [found, isPayload, sameKey, lawful]

theorem eq_of_plaintextOf (isSealed : Sealed buildKey record fields) {plaintext : Bytes}
    (read : (SecretStore.ofSettings buildKey settings).plaintextOf record = .ok plaintext) :
    ((SecretStore.ofSettings buildKey settings).keys.lookup record.keyId).isSome ∧
      plaintext = SecretStore.jsonBytes (.obj fields) := by
  rcases SecretStore.plaintextOf_cases (SecretStore.ofSettings buildKey settings) record with
    ⟨_, raised⟩ | ⟨_, raised⟩ | ⟨key, _, _, found, _, _⟩
  · rw [raised] at read
    cases read
  · rw [raised] at read
    cases read
  · have known : ((SecretStore.ofSettings buildKey settings).keys.lookup record.keyId).isSome := by rw [found]; rfl
    rw [plaintextOf_of_sealed lawful identified isSealed known] at read
    exact ⟨known, (Except.ok.inj read).symm⟩

/-- A rotation keeps what a record holds. -/
theorem Sealed.rewritten (draw : Uuid → cipher.Draw) {plaintext : Uuid → Bytes} (isSealed : Sealed buildKey record fields)
    (read : (SecretStore.ofSettings buildKey settings).plaintextOf record = .ok (plaintext record.id)) :
    Sealed buildKey ((SecretStore.ofSettings buildKey settings).rewritten draw plaintext record) fields := by
  rw [SecretStore.rewritten]
  split
  · refine ⟨settings.secretKey, draw record.id, rfl, rfl, ?_⟩
    rw [← (eq_of_plaintextOf lawful identified isSealed read).2]
    rfl
  · exact isSealed

end

end

theorem identity_rewritten {cipher : Fernet} (store : SecretStore cipher) (draw : Uuid → cipher.Draw)
    (plaintext : Uuid → Bytes) (record : SecretRecord) :
    (store.rewritten draw plaintext record).identity = record.identity := by
  rw [SecretStore.rewritten]
  split <;> rfl

/-! ## What a change leaves -/

section
variable {cipher : Fernet} (buildKey : String → String × cipher.Key)

/-- The secrets of other policies stay, and what is new for a policy is a sealed secret under a new
    id. -/
structure Rewrites (policyId : UUID) (refs : List UUID) (secrets grown : Table SecretRecord) : Prop where
  frame : ∀ ref kind other, other ≠ policyId → Holds secrets ref kind other → Holds grown ref kind other
  born : ∀ record ∈ grown, record.ownerType = ownerType →
    record ∈ secrets ∨ (∃ ref ∈ refs, ref.int = record.id) ∧ SealedSecret buildKey record

variable {buildKey} {policyId : UUID} {refs : List UUID} {secrets middle grown : Table SecretRecord}

theorem Rewrites.refl (policyId : UUID) (refs : List UUID) (secrets : Table SecretRecord) :
    Rewrites buildKey policyId refs secrets secrets where
  frame _ _ _ _ holds := holds
  born _ member _ := .inl member

theorem Rewrites.trans (first : Rewrites buildKey policyId refs secrets middle)
    (second : Rewrites buildKey policyId refs middle grown) : Rewrites buildKey policyId refs secrets grown where
  frame ref kind other differs holds := second.frame ref kind other differs (first.frame ref kind other differs holds)
  born record member owned := by
    rcases second.born record member owned with inMiddle | isNew
    · exact first.born record inMiddle owned
    · exact .inr isNew

theorem rewrites_created {settings : SecretSettings} {draw : cipher.Draw} {ref : UUID} {kind : String}
    {fields : List (String × Value)} (stored : Stored kind fields) (isRef : ref ∈ refs)
    (created : createSecret (SecretStore.ofSettings buildKey settings) draw secrets ref kind policyId (.obj fields) = .ok grown) :
    Rewrites buildKey policyId refs secrets grown where
  frame _ _ _ _ holds := holds.insert (createSecret_ok created)
  born record member _ := by
    rcases (Table.mem_insert? (createSecret_ok created)).mp member with isOld | rfl
    · exact .inl isOld
    · exact .inr ⟨⟨ref, isRef, rfl⟩, fields, stored, settings.secretKey, draw, rfl, rfl, rfl⟩

theorem rewrites_deleted {ref : UUID} {kind : String}
    (deleted : SecretStore.delete secrets ref kind ownerType policyId = .ok grown) :
    Rewrites buildKey policyId refs secrets grown where
  frame _ _ _ differs holds := holds.delete deleted (.inr (.inl differs))
  born record member _ := by
    obtain ⟨_, _, rfl⟩ := delete_ok deleted
    exact .inl (Table.mem_remove.mp member).1

/-- A secret in the place of another one. -/
theorem replaceSecret_spec {settings : SecretSettings} {draw : cipher.Draw} {policy : BackupPolicyRow}
    {ref candidate : UUID} {kind : String} {fields : List (String × Value)} (stored : Stored kind fields)
    (isRef : candidate ∈ refs)
    (replaced : replaceSecret (SecretStore.ofSettings buildKey settings) draw secrets policy ref candidate kind (.obj fields) =
      .ok grown) :
    Rewrites buildKey policy.id refs secrets grown ∧ Holds grown candidate kind policy.id ∧
      ∀ other otherKind, otherKind ≠ kind → Holds secrets other otherKind policy.id → Holds grown other otherKind policy.id := by
  rw [replaceSecret] at replaced
  split at replaced
  · cases replaced
  next record read =>
  rw [bind_eq_ok] at replaced
  obtain ⟨middle, created, deleted⟩ := replaced
  have inserted := createSecret_ok created
  have differs : candidate ≠ ref := by
    rintro rfl
    rw [record_eq_ok_iff] at read
    exact Table.insert?_fresh inserted record read.1 read.2.1
  exact ⟨(rewrites_created stored isRef created).trans (rewrites_deleted deleted),
    (holds_created created).delete deleted (.inr (.inr differs)),
    fun other otherKind kindDiffers holds => (holds.insert inserted).delete deleted (.inl kindDiffers)⟩

/-! ### The calls -/

variable {settings : SecretSettings} {urlsplit : String → Option (Option String × Option String)}
  {policy changed : BackupPolicyRow}

theorem updateRepository_spec {draw : cipher.Draw} {candidate : UUID} {changes : BackupPolicyChanges}
    (isRef : candidate ∈ refs) (owned : Owned secrets policy)
    (updated : updateRepository (SecretStore.ofSettings buildKey settings) urlsplit draw candidate secrets policy changes =
      .ok (grown, changed)) :
    Rewrites buildKey policy.id refs secrets grown ∧ Owned grown changed ∧ changed.id = policy.id := by
  rw [updateRepository] at updated
  split at updated
  · cases updated
    exact ⟨.refl _ _ _, owned, rfl⟩
  rw [bind_eq_ok] at updated
  obtain ⟨current, _, updated⟩ := updated
  dsimp only at updated
  split at updated
  · rw [bind_eq_ok] at updated
    obtain ⟨repository, accepted, updated⟩ := updated
    rw [bind_eq_ok] at updated
    obtain ⟨replacedSecrets, replaced, updated⟩ := updated
    cases updated
    obtain ⟨rewrites, holds, others⟩ :=
      replaceSecret_spec (.repository (normalizeRepository_nonempty accepted) _) isRef replaced
    refine ⟨rewrites, ⟨holds, fun ref isCredential => ?_⟩, rfl⟩
    exact others ref credentialsKind (by decide) (owned.credentials ref isCredential)
  · cases updated

theorem storeCredentials_spec {draw : cipher.Draw} {candidate : UUID} {fields : List (String × Value)}
    (stored : Stored credentialsKind fields) (isRef : candidate ∈ refs) (owned : Owned secrets policy)
    (done : storeCredentials (SecretStore.ofSettings buildKey settings) draw candidate secrets policy (.obj fields) =
      .ok grown) :
    Rewrites buildKey policy.id refs secrets grown ∧ Owned grown { policy with credentialSecretRef := some candidate } := by
  rw [storeCredentials] at done
  split at done
  · refine ⟨rewrites_created stored isRef done, owned.repository.insert (createSecret_ok done), fun ref isCandidate => ?_⟩
    cases isCandidate
    exact holds_created done
  · obtain ⟨rewrites, holds, others⟩ := replaceSecret_spec stored isRef done
    refine ⟨rewrites, others _ repositoryKind (by decide) owned.repository, fun ref isCandidate => ?_⟩
    cases isCandidate
    exact holds

theorem updateCredentials_spec {draw : cipher.Draw} {candidate : UUID} {action : CredentialsAction}
    (isRef : candidate ∈ refs) (owned : Owned secrets policy)
    (updated : updateCredentials (SecretStore.ofSettings buildKey settings) draw candidate secrets policy action =
      .ok (grown, changed)) :
    Rewrites buildKey policy.id refs secrets grown ∧ Owned grown changed ∧ changed.id = policy.id := by
  have cleared (kept : Holds grown policy.repositoryConfigRef repositoryKind policy.id) :
      Owned grown { policy with credentialSecretRef := none } := ⟨kept, fun _ isSome => (by cases isSome)⟩
  rw [updateCredentials.eq_def] at updated
  dsimp only at updated
  split at updated
  · cases updated
    exact ⟨.refl _ _ _, owned, rfl⟩
  · cases updated
  · rw [bind_eq_ok] at updated
    obtain ⟨current, _, updated⟩ := updated
    split at updated
    · split at updated
      · cases updated
      next nonempty =>
      rw [bind_eq_ok] at updated
      obtain ⟨environment, accepted, updated⟩ := updated
      rw [bind_eq_ok] at updated
      obtain ⟨storedSecrets, done, updated⟩ := updated
      cases updated
      obtain ⟨rewrites, owns⟩ :=
        storeCredentials_spec (.credentials nonempty (normalizeEnvironment_valid accepted)) isRef owned done
      exact ⟨rewrites, owns, rfl⟩
    · cases updated
  · split at updated
    · cases updated
      exact ⟨.refl _ _ _, cleared owned.repository, rfl⟩
    · split at updated
      · cases updated
        exact ⟨.refl _ _ _, cleared owned.repository, rfl⟩
      · next deleted =>
        cases updated
        exact ⟨rewrites_deleted deleted, cleared (owned.repository.delete deleted (.inl (by decide))), rfl⟩

theorem update_spec {draws : cipher.Draw × cipher.Draw} {repositoryRef credentialRef : UUID} {now : Timestamp}
    {changes : BackupPolicyChanges} (owned : Owned secrets policy)
    (updated : update (SecretStore.ofSettings buildKey settings) urlsplit draws repositoryRef credentialRef now secrets policy
      changes = .ok (grown, changed)) :
    Rewrites buildKey policy.id [repositoryRef, credentialRef] secrets grown ∧ Owned grown changed ∧
      changed.id = policy.id := by
  rw [update, bind_eq_ok] at updated
  obtain ⟨⟨middle, first⟩, isFirst, updated⟩ := updated
  rw [bind_eq_ok] at updated
  obtain ⟨⟨last, second⟩, isSecond, updated⟩ := updated
  have firstRef : repositoryRef ∈ [repositoryRef, credentialRef] := List.mem_cons_self
  obtain ⟨firstRewrites, firstOwned, firstId⟩ := updateRepository_spec firstRef owned isFirst
  obtain ⟨secondRewrites, secondOwned, secondId⟩ :=
    updateCredentials_spec (List.mem_cons_of_mem repositoryRef (List.mem_singleton.mpr rfl)) firstOwned isSecond
  rw [firstId] at secondRewrites
  simp only [Except.ok.injEq, Prod.mk.injEq] at updated
  obtain ⟨rfl, rfl⟩ := updated
  refine ⟨firstRewrites.trans secondRewrites, ?_, ?_⟩
  · split
    · exact ⟨secondOwned.repository, secondOwned.credentials⟩
    · exact secondOwned
  · split
    · exact secondId.trans firstId
    · exact secondId.trans firstId

theorem create_spec {draws : cipher.Draw × cipher.Draw} {repositoryRef credentialRef : UUID} {now : Timestamp}
    {repository password : String} {environment : List (String × String)} {initializing : Bool}
    (created : create (SecretStore.ofSettings buildKey settings) urlsplit draws policyId repositoryRef credentialRef now secrets
      repository password environment initializing = .ok (grown, policy)) :
    Rewrites buildKey policy.id [repositoryRef, credentialRef] secrets grown ∧ Owned grown policy := by
  rw [create, bind_eq_ok] at created
  obtain ⟨value, acceptedRepository, created⟩ := created
  split at created
  · cases created
  next nonempty =>
  rw [bind_eq_ok] at created
  obtain ⟨normalized, acceptedEnvironment, created⟩ := created
  rw [bind_eq_ok] at created
  obtain ⟨middle, first, created⟩ := created
  rw [bind_eq_ok] at created
  obtain ⟨last, second, created⟩ := created
  cases created
  have firstRewrites : Rewrites buildKey policyId [repositoryRef, credentialRef] secrets middle :=
    rewrites_created (.repository (normalizeRepository_nonempty acceptedRepository) initializing) List.mem_cons_self first
  have secondRewrites : Rewrites buildKey policyId [repositoryRef, credentialRef] middle grown :=
    rewrites_created (.credentials nonempty (normalizeEnvironment_valid acceptedEnvironment))
      (List.mem_cons_of_mem repositoryRef (List.mem_singleton.mpr rfl)) second
  refine ⟨firstRewrites.trans secondRewrites, (holds_created first).insert (createSecret_ok second), fun ref isRef => ?_⟩
  cases isRef
  exact holds_created second

end

/-! ## Runs -/

section
variable {cipher : Fernet} {buildKey : String → String × cipher.Key}
  {urlsplit : String → Option (Option String × Option String)}

theorem sound_fresh (settings : SecretSettings) : (PolicyState.fresh settings).Sound buildKey where
  sealed _ member := absurd member (Table.not_mem_empty _)
  issued _ member := absurd member (Table.not_mem_empty _)
  owned _ member := absurd member (Table.not_mem_empty _)

/-- The secrets of a policy change, and those of the others stay. -/
theorem PolicyState.Sound.rewrites {s : PolicyState} (sound : s.Sound buildKey) {policyId : UUID} {refs : List UUID}
    {secrets : Table SecretRecord} {policies : Table BackupPolicyRow}
    (rewrites : Rewrites buildKey policyId refs s.secrets secrets)
    (rows : ∀ row ∈ policies, Owned secrets row ∨ row ∈ s.policies ∧ row.id ≠ policyId) :
    PolicyState.Sound buildKey { s with secrets, policies, issued := refs ++ s.issued } where
  sealed record member owned := by
    rcases rewrites.born record member owned with isOld | ⟨_, isSealed⟩
    · exact sound.sealed record isOld owned
    · exact isSealed
  issued record member owned := by
    rcases rewrites.born record member owned with isOld | ⟨⟨ref, isRef, same⟩, _⟩
    · obtain ⟨ref, isIssued, same⟩ := sound.issued record isOld owned
      exact ⟨ref, List.mem_append_right refs isIssued, same⟩
    · exact ⟨ref, List.mem_append_left s.issued isRef, same⟩
  owned row member := by
    rcases rows row member with owns | ⟨isOld, differs⟩
    · exact owns
    · have before := sound.owned row isOld
      exact ⟨rewrites.frame _ _ _ differs before.repository,
        fun ref isRef => rewrites.frame _ _ _ differs (before.credentials ref isRef)⟩

section
variable (lawful : ∀ key draw plaintext, cipher.decrypt key (cipher.encrypt key draw plaintext) = some plaintext)
  (identified : ∀ a b, (buildKey a).1 = (buildKey b).1 → (buildKey a).2 = (buildKey b).2)
include lawful identified

/-- A record after a rotation is one from before it, which it holds the same as. -/
theorem rotated_records {settings : SecretSettings} (draw : Uuid → cipher.Draw) (secrets : Table SecretRecord) :
    let after := ((SecretStore.ofSettings buildKey settings).rotateRecords draw secrets).1
    (∀ new ∈ after, ∃ old ∈ secrets, new.identity = old.identity ∧
      ∀ fields, Sealed buildKey old fields → Sealed buildKey new fields) ∧
    ∀ old ∈ secrets, ∃ new ∈ after, new.identity = old.identity := by
  rcases @SecretStore.rotateRecords_cases cipher (.ofSettings buildKey settings) secrets lawful draw with
    ⟨e, raised, _⟩ | ⟨after, plaintext, returned, read, rows⟩
  · rw [raised]
    exact ⟨fun new member => ⟨new, member, rfl, fun _ isSealed => isSealed⟩, fun old member => ⟨old, member, rfl⟩⟩
  · rw [returned]
    refine ⟨fun new member => ?_, fun old member => ?_⟩
    · obtain ⟨old, found, rfl⟩ := Option.map_eq_some_iff.mp ((rows new.id).symm.trans (Table.get?_of_mem member))
      have inSecrets := Table.mem_of_get? found
      exact ⟨old, inSecrets, identity_rewritten _ _ _ _, fun fields isSealed =>
        isSealed.rewritten lawful identified draw (read old inSecrets)⟩
    · have found : after.get? old.id =
          some ((SecretStore.ofSettings buildKey settings).rewritten draw plaintext old) := by
        rw [rows, show secrets.get? old.id = some old from Table.get?_of_mem member]
        rfl
      exact ⟨_, Table.mem_of_get? found, identity_rewritten _ _ _ _⟩

theorem holds_rotated {settings : SecretSettings} (draw : Uuid → cipher.Draw) {secrets : Table SecretRecord} {ref policyId : UUID}
    {kind : String} (holds : Holds secrets ref kind policyId) :
    Holds ((SecretStore.ofSettings buildKey settings).rotateRecords draw secrets).1 ref kind policyId := by
  obtain ⟨record, read⟩ := holds
  rw [record_eq_ok_iff] at read
  obtain ⟨member, sameId, sameKind, sameOwner, samePolicy⟩ := read
  obtain ⟨new, isNew, same⟩ := (rotated_records lawful identified draw secrets).2 record member
  obtain ⟨newId, newKind, newOwner, newPolicy⟩ : new.id = record.id ∧ new.kind = record.kind ∧
      new.ownerType = record.ownerType ∧ new.ownerId = record.ownerId := by
    simpa [SecretRecord.identity] using same
  exact ⟨new, record_eq_ok_iff.mpr ⟨isNew, newId.trans sameId, newKind.trans sameKind, newOwner.trans sameOwner,
    newPolicy.trans samePolicy⟩⟩

theorem PolicyStep.sound {s t : PolicyState} {event : PolicyEvent} (sound : s.Sound buildKey)
    (step : PolicyStep buildKey urlsplit s event t) : t.Sound buildKey := by
  cases step with
  | create repositoryNew credentialNew created added =>
    obtain ⟨rewrites, owned⟩ := create_spec created
    refine sound.rewrites rewrites fun row member => ?_
    rcases (Table.mem_insert? added).mp member with isOld | rfl
    · exact .inr ⟨isOld, Table.insert?_fresh added row isOld⟩
    · exact .inl owned
  | update repositoryNew credentialNew member updated =>
    obtain ⟨rewrites, owned, sameId⟩ := update_spec (sound.owned _ member) updated
    refine sound.rewrites rewrites fun row member => ?_
    rcases Table.mem_put.mp member with rfl | ⟨isOld, differs⟩
    · exact .inl owned
    · exact .inr ⟨isOld, fun same => differs (same.trans sameId.symm)⟩
  | rotate draw =>
    obtain ⟨back, _⟩ := @rotated_records cipher buildKey lawful identified s.settings draw s.secrets
    have identities {new old : SecretRecord} (same : new.identity = old.identity) :
        new.id = old.id ∧ new.kind = old.kind ∧ new.ownerType = old.ownerType := by
      simp only [SecretRecord.identity, Prod.mk.injEq] at same
      exact ⟨same.1, same.2.1, same.2.2.1⟩
    refine ⟨fun new member owned => ?_, fun new member owned => ?_, fun policy member => ?_⟩
    · obtain ⟨old, isOld, same, kept⟩ := back new member
      obtain ⟨_, sameKind, sameOwner⟩ := identities same
      obtain ⟨fields, stored, isSealed⟩ := sound.sealed old isOld (sameOwner.symm.trans owned)
      exact ⟨fields, sameKind ▸ stored, kept fields isSealed⟩
    · obtain ⟨old, isOld, same, _⟩ := back new member
      obtain ⟨sameId, _, sameOwner⟩ := identities same
      rw [sameId]
      exact sound.issued old isOld (sameOwner.symm.trans owned)
    · have before := sound.owned policy member
      exact ⟨holds_rotated lawful identified draw before.repository,
        fun ref isRef => holds_rotated lawful identified draw (before.credentials ref isRef)⟩
  | configure settings => exact ⟨sound.sealed, sound.issued, sound.owned⟩
  | @others secrets same =>
    have kept {ref : UUID} {kind : String} {policyId : UUID} (holds : Holds s.secrets ref kind policyId) :
        Holds secrets ref kind policyId := by
      obtain ⟨record, read⟩ := holds
      rw [record_eq_ok_iff] at read
      exact ⟨record, record_eq_ok_iff.mpr ⟨(same record read.2.2.2.1).mpr read.1, read.2⟩⟩
    refine ⟨fun record member owned => sound.sealed record ((same record owned).mp member) owned,
      fun record member owned => sound.issued record ((same record owned).mp member) owned, fun policy member => ?_⟩
    have before := sound.owned policy member
    exact ⟨kept before.repository, fun ref isRef => kept (before.credentials ref isRef)⟩

theorem PolicyState.sound_of_run {settings : SecretSettings} {s : PolicyState} {events : List PolicyEvent}
    (run : Run (PolicyStep buildKey urlsplit) (.fresh settings) events s) : s.Sound buildKey :=
  @Run.invariant _ _ _ (PolicyState.Sound buildKey) (fun _ _ _ sound step => step.sound lawful identified sound) _ _ _ run
    (sound_fresh settings)

end

/-! ## What backups use -/

/-- What the secrets of a policy hold. -/
structure PolicyContents where
  repository : String
  initializing : Bool
  password : String
  environment : List (String × String)
  repositoryNonempty : repository.toList ≠ []
  passwordNonempty : password ≠ ""
  valid : ValidEnvironment environment

namespace PolicyContents

def repositoryFields (contents : PolicyContents) : List (String × Value) :=
  [("repository", .str contents.repository), ("initialize_if_missing", .bool contents.initializing)]

def credentialsFields (contents : PolicyContents) : List (String × Value) :=
  [("password", .str contents.password),
    ("environment", .obj (contents.environment.map fun (key, value) => (key, .str value)))]

/-- What `resolve` makes of them. -/
def resolved (contents : PolicyContents) (policyId : UUID) (retention : List (String × Int)) : ResolvedBackupPolicy where
  policyId := policyId.int
  repository := contents.repository
  password := contents.password
  environment := sortedEnvironment contents.environment
  initializeIfMissing := contents.initializing
  retention := retention

end PolicyContents

variable (buildKey) in
/-- The secrets of a policy are there, and hold the contents. -/
structure HoldsContents (secrets : Table SecretRecord) (policy : BackupPolicyRow) (contents : PolicyContents)
    (repository credentials : SecretRecord) : Prop where
  repositoryFound :
    SecretStore.record secrets policy.repositoryConfigRef repositoryKind ownerType policy.id = .ok repository
  repositorySealed : Sealed buildKey repository contents.repositoryFields
  credentialsFound : ∃ ref, policy.credentialSecretRef = some ref ∧
    SecretStore.record secrets ref credentialsKind ownerType policy.id = .ok credentials
  credentialsSealed : Sealed buildKey credentials contents.credentialsFields

/-- The secrets that a sound state keeps for a policy with credentials. -/
theorem PolicyState.Sound.contents {s : PolicyState} (sound : s.Sound buildKey) {policy : BackupPolicyRow}
    (member : policy ∈ s.policies) {ref : UUID} (isRef : policy.credentialSecretRef = some ref) :
    ∃ contents repository credentials, HoldsContents buildKey s.secrets policy contents repository credentials := by
  have owned := sound.owned policy member
  obtain ⟨repository, repositoryFound⟩ := owned.repository
  obtain ⟨credentials, credentialsFound⟩ := owned.credentials ref isRef
  obtain ⟨repositoryMember, _, repositoryKind, repositoryOwner, _⟩ := record_eq_ok_iff.mp repositoryFound
  obtain ⟨credentialsMember, _, credentialsKind, credentialsOwner, _⟩ := record_eq_ok_iff.mp credentialsFound
  obtain ⟨repositoryFields, repositoryStored, repositorySealed⟩ := sound.sealed repository repositoryMember repositoryOwner
  obtain ⟨credentialsFields, credentialsStored, credentialsSealed⟩ :=
    sound.sealed credentials credentialsMember credentialsOwner
  rw [repositoryKind] at repositoryStored
  rw [credentialsKind] at credentialsStored
  generalize isRepository : BackupPolicyService.repositoryKind = kind at repositoryStored
  generalize isCredentials : BackupPolicyService.credentialsKind = otherKind at credentialsStored
  cases repositoryStored with
  | credentials => exact absurd isRepository (by decide)
  | @repository value repositoryNonempty initializing =>
    cases credentialsStored with
    | repository => exact absurd isCredentials (by decide)
    | @credentials password environment passwordNonempty valid =>
      exact ⟨⟨value, initializing, password, environment, repositoryNonempty, passwordNonempty, valid⟩, repository, credentials,
        repositoryFound, repositorySealed, ⟨ref, isRef, credentialsFound⟩, credentialsSealed⟩

section
variable (lawful : ∀ key draw plaintext, cipher.decrypt key (cipher.encrypt key draw plaintext) = some plaintext)
  (identified : ∀ a b, (buildKey a).1 = (buildKey b).1 → (buildKey a).2 = (buildKey b).2)
include lawful identified

/-- A ring that knows the keys of both secrets resolves the policy. -/
theorem HoldsContents.resolve {settings : SecretSettings} {secrets : Table SecretRecord} {policy : BackupPolicyRow}
    {contents : PolicyContents} {repository credentials : SecretRecord}
    (holds : HoldsContents buildKey secrets policy contents repository credentials)
    (repositoryKnown : ((SecretStore.ofSettings buildKey settings).keys.lookup repository.keyId).isSome)
    (credentialsKnown : ((SecretStore.ofSettings buildKey settings).keys.lookup credentials.keyId).isSome)
    (retention : List (String × Int)) :
    BackupPolicyService.resolve (SecretStore.ofSettings buildKey settings) secrets policy retention =
      .ok (contents.resolved policy.id retention) := by
  obtain ⟨ref, isRef, credentialsFound⟩ := holds.credentialsFound
  refine resolve_of_decrypt contents.repositoryNonempty contents.passwordNonempty ?_ ?_ retention
  · exact decrypt_of_plaintext holds.repositoryFound
      (plaintextOf_of_sealed lawful identified holds.repositorySealed repositoryKnown)
      (sortKeys_repository contents.repository contents.initializing) rfl
  · rw [isRef]
    refine decrypt_of_plaintext credentialsFound
      (plaintextOf_of_sealed lawful identified holds.credentialsSealed credentialsKnown)
      (sortKeys_credentials contents.password contents.environment) ?_
    simp only [JsonText.plain, JsonText.plainFields, plainFields_text, Bool.and_self]

/-- A policy that was just made resolves to what it was made with. -/
theorem resolve_created {settings : SecretSettings} {draws : cipher.Draw × cipher.Draw}
    {policyId repositoryRef credentialRef : UUID} {now : Timestamp} {secrets grown : Table SecretRecord}
    {policy : BackupPolicyRow} {repository password : String} {environment : List (String × String)} {initializing : Bool}
    (created : create (SecretStore.ofSettings buildKey settings) urlsplit draws policyId repositoryRef credentialRef now secrets
      repository password environment initializing = .ok (grown, policy)) :
    ∃ contents : PolicyContents, normalizeRepository urlsplit repository = .ok contents.repository ∧
      contents.password = password ∧ normalizeEnvironment environment = .ok contents.environment ∧
      ∀ retention, BackupPolicyService.resolve (SecretStore.ofSettings buildKey settings) grown policy retention =
        .ok (contents.resolved policy.id retention) := by
  rw [create, bind_eq_ok] at created
  obtain ⟨value, acceptedRepository, created⟩ := created
  split at created
  · cases created
  next nonempty =>
  rw [bind_eq_ok] at created
  obtain ⟨normalized, acceptedEnvironment, created⟩ := created
  rw [bind_eq_ok] at created
  obtain ⟨middle, first, created⟩ := created
  rw [bind_eq_ok] at created
  obtain ⟨last, second, created⟩ := created
  cases created
  let contents : PolicyContents :=
    ⟨value, initializing, password, normalized, normalizeRepository_nonempty acceptedRepository, nonempty,
      normalizeEnvironment_valid acceptedEnvironment⟩
  have firstInserted := createSecret_ok first
  have secondInserted := createSecret_ok second
  have holds : HoldsContents buildKey grown ⟨policyId, now, repositoryRef, some credentialRef⟩ contents
      ((SecretStore.ofSettings buildKey settings).jsonRecord draws.1 repositoryRef repositoryKind ownerType policyId
        (repositoryValue value initializing))
      ((SecretStore.ofSettings buildKey settings).jsonRecord draws.2 credentialRef credentialsKind ownerType policyId
        (credentialsValue password normalized)) :=
    { repositoryFound := record_eq_ok_iff.mpr
        ⟨(Table.mem_insert? secondInserted).mpr (.inl ((Table.mem_insert? firstInserted).mpr (.inr rfl))), rfl, rfl, rfl, rfl⟩
      repositorySealed := ⟨settings.secretKey, draws.1, rfl, rfl, rfl⟩
      credentialsFound := ⟨credentialRef, rfl,
        record_eq_ok_iff.mpr ⟨(Table.mem_insert? secondInserted).mpr (.inr rfl), rfl, rfl, rfl, rfl⟩⟩
      credentialsSealed := ⟨settings.secretKey, draws.2, rfl, rfl, rfl⟩ }
  have known : ((SecretStore.ofSettings buildKey settings).keys.lookup
      (SecretStore.ofSettings buildKey settings).primaryKeyId).isSome := by
    rw [SecretStore.lookup_primary]
    rfl
  exact ⟨contents, acceptedRepository, rfl, acceptedEnvironment, holds.resolve lawful identified known known⟩

/-- A policy that resolves resolves to what its secrets hold. -/
theorem PolicyState.Sound.resolved {s : PolicyState} (sound : s.Sound buildKey) {policy : BackupPolicyRow}
    (member : policy ∈ s.policies) {retention : List (String × Int)} {resolved : ResolvedBackupPolicy}
    (done : resolve (s.store buildKey) s.secrets policy retention = .ok resolved) :
    ∃ contents repository credentials, HoldsContents buildKey s.secrets policy contents repository credentials ∧
      ((s.store buildKey).keys.lookup repository.keyId).isSome ∧
      ((s.store buildKey).keys.lookup credentials.keyId).isSome ∧ resolved = contents.resolved policy.id retention := by
  obtain ⟨⟨record, _, found, read⟩, ref, other, _, isRef, otherFound, otherRead⟩ := resolve_ok done
  obtain ⟨contents, repository, credentials, holds⟩ := sound.contents member isRef
  obtain ⟨ref', isRef', credentialsFound⟩ := holds.credentialsFound
  have sameRecord : record = repository := Except.ok.inj (found.symm.trans holds.repositoryFound)
  have sameRef : ref' = ref := Option.some.inj (isRef'.symm.trans isRef)
  have sameOther : other = credentials := Except.ok.inj (otherFound.symm.trans (sameRef ▸ credentialsFound))
  subst sameRecord sameOther
  have known := (eq_of_plaintextOf lawful identified holds.repositorySealed read).1
  have otherKnown := (eq_of_plaintextOf lawful identified holds.credentialsSealed otherRead).1
  refine ⟨contents, record, other, holds, known, otherKnown, ?_⟩
  have same := holds.resolve lawful identified known otherKnown retention
  exact Except.ok.inj (done.symm.trans same)

end

end

end ZeroNvr
