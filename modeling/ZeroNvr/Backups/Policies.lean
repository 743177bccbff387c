import ZeroNvr.Backups.Execution
import ZeroNvr.Core.Pagination
import ZeroNvr.Core.SecretJson

/-! # Backup policies

What `BackupPolicyService` accepts, and where it keeps it: the repository and the
credentials of a policy are two secrets that its row refers to.  `urlsplit` is a
parameter, which gives the user name and the password of a URL.
-/

namespace ZeroNvr

open JsonText (Value sortKeys)
open Lib
open Pagination (Timestamp)

/-- The columns of a policy that a recovery kit depends on. -/
structure BackupPolicyRow where
  id : UUID
  updatedAt : Timestamp
  repositoryConfigRef : UUID
  credentialSecretRef : Option UUID
  deriving DecidableEq

instance : Keyed BackupPolicyRow UUID := ⟨BackupPolicyRow.id⟩

/-- `dict[key] = value`. -/
def setItem (dict : List (String × String)) (key value : String) : List (String × String) :=
  if dict.any fun item => item.1 = key then dict.map fun item => if item.1 = key then (key, value) else item
  else dict ++ [(key, value)]

inductive CredentialsAction where
  | keep
  /-- The new password and environment; what is not given stays. -/
  | replace (password : Option String) (environment : Option (List (String × String)))
  | clear

/-- What an update changes; `others` is whether a column changes that no secret is about. -/
structure BackupPolicyChanges where
  repository : Option String := none
  initializeIfMissing : Option Bool := none
  credentials : CredentialsAction := .keep
  others : Bool := false

namespace BackupPolicyService

def isEnvKeyStart (c : Char) : Bool := 'A' ≤ c && c ≤ 'Z'
def isEnvKeyChar (c : Char) : Bool := ('A' ≤ c && c ≤ 'Z') || ('0' ≤ c && c ≤ '9') || c == '_'

/-- `^[A-Z][A-Z0-9_]{0,127}$` on the whole of a text. -/
def isEnvKey (name : String) : Bool :=
  match name.toList with
  | [] => false
  | c :: rest => isEnvKeyStart c && rest.all isEnvKeyChar && rest.length ≤ 127

def reservedEnv : List String := ["RESTIC_REPOSITORY", "RESTIC_PASSWORD", "RESTIC_PASSWORD_FILE"]

def repositoryInvalid : PyError := apiError 400 "backup_repository_invalid" "Backup repository is invalid."
def credentialsInvalid : PyError :=
  apiError 400 "backup_credentials_invalid" "Backup credential environment is invalid."
def secretUnavailable (message : String) : PyError := apiError 409 "backup_secret_unavailable" message

/-- Whether a URL stands anywhere in a text. -/
def hasScheme (text : List Char) : Bool := text.tails.any (List.isPrefixOf [':', '/', '/'])

def normalizeRepository (urlsplit : String → Option (Option String × Option String)) (repository : String) :
    Result String :=
  let value := strip repository
  if value.toList = [] ∨ 4096 < value.length ∨ '\n' ∈ value.toList ∨ '\r' ∈ value.toList ∨ Char.ofNat 0 ∈ value.toList then
    .error repositoryInvalid
  else if hasScheme value.toList then
    match urlsplit value with
    | none => .error repositoryInvalid
    | some (username, password) =>
      if username.isSome ∨ password.isSome then
        .error (apiError 400 "backup_repository_credentials_embedded"
          "Repository credentials must be configured separately.")
      else .ok value
  else .ok value

def normalizeEnvironment (environment : List (String × String)) : Result (List (String × String)) :=
  environment.foldlM (fun normalized (key, raw) =>
    let name := strip key
    if !isEnvKey name ∨ name ∈ reservedEnv ∨ Char.ofNat 0 ∈ raw.toList ∨ 8192 < raw.length then .error credentialsInvalid
    else .ok (setItem normalized name raw)) []

/-! ## Secrets -/

def ownerType : String := "backup_policy"
def repositoryKind : String := "backup_repository"
def credentialsKind : String := "backup_credentials"

def repositoryValue (repository : String) (initializeIfMissing : Bool) : Value :=
  .obj [("repository", .str repository), ("initialize_if_missing", .bool initializeIfMissing)]

def credentialsValue (password : String) (environment : List (String × String)) : Value :=
  .obj [("password", .str password), ("environment", .obj (environment.map fun (key, value) => (key, .str value)))]

section
variable {cipher : Fernet} (store : SecretStore cipher)

/-- `_decrypt`. -/
def decrypt (secrets : Table SecretRecord) (policy : BackupPolicyRow) (secretId : Option UUID) (kind : String) :
    Result (List (String × Value)) :=
  match secretId with
  | none => .error (secretUnavailable "Backup policy secret is unavailable.")
  | some secretId =>
    match store.readJson secrets secretId kind ownerType policy.id with
    | .error _ => .error (secretUnavailable "Backup policy secret could not be decrypted.")
    | .ok fields => .ok fields

/-- A dictionary of texts. -/
def textFields : Value → Option (List (String × String))
  | .obj fields => fields.mapM fun
    | (key, .str value) => some (key, value)
    | _ => none
  | _ => none

def truthy : Option Value → Bool
  | some (.bool value) => value
  | some (.int value) => value ≠ 0
  | some (.float text) => text.toList.any fun c => '1' ≤ c && c ≤ '9'
  | some (.str text) => text.toList ≠ []
  | some (.arr items) => !items.isEmpty
  | some (.obj fields) => !fields.isEmpty
  | some .null | none => false

def resolve (secrets : Table SecretRecord) (policy : BackupPolicyRow) (retention : List (String × Int)) :
    Result ResolvedBackupPolicy := do
  let repository ← decrypt store secrets policy (some policy.repositoryConfigRef) repositoryKind
  let credentials ← decrypt store secrets policy policy.credentialSecretRef credentialsKind
  let rawRepo := Value.field? repository "repository"
  let rawPassword := Value.field? credentials "password"
  let rawEnvironment := (Value.field? credentials "environment").getD (.obj [])
  match rawRepo, rawPassword, textFields rawEnvironment with
  | some (.str repo), some (.str password), some environment =>
    if repo.toList = [] ∨ password.toList = [] then .error (secretUnavailable "Backup policy secret is invalid.")
    else
      .ok
        { policyId := policy.id.int
          repository := repo
          password, environment
          initializeIfMissing := truthy (Value.field? repository "initialize_if_missing")
          retention }
  | _, _, _ => .error (secretUnavailable "Backup policy secret is invalid.")

/-! ## Changes -/

/-- `create_json`; the id of the record is new. -/
def createSecret (draw : cipher.Draw) (secrets : Table SecretRecord) (secretRef : UUID) (kind : String) (policyId : UUID)
    (value : Value) : Result (Table SecretRecord) :=
  match secrets.insert? (store.jsonRecord draw secretRef kind ownerType policyId value) with
  | none => .error .integrityError
  | some secrets => .ok secrets

/-- The secrets and the row of a policy that `create` accepts; `draws` and the ids are what the two
    secrets take. -/
def create (urlsplit : String → Option (Option String × Option String)) (draws : cipher.Draw × cipher.Draw)
    (policyId repositoryRef credentialRef : UUID) (now : Timestamp) (secrets : Table SecretRecord)
    (repository password : String) (environment : List (String × String)) (initializeIfMissing : Bool) :
    Result (Table SecretRecord × BackupPolicyRow) := do
  let repository ← normalizeRepository urlsplit repository
  if password = "" then .error (apiError 400 "backup_password_required" "restic repository password is required.")
  else
    let credentials ← normalizeEnvironment environment
    let secrets ← createSecret store draws.1 secrets repositoryRef repositoryKind policyId
      (repositoryValue repository initializeIfMissing)
    let secrets ← createSecret store draws.2 secrets credentialRef credentialsKind policyId
      (credentialsValue password credentials)
    .ok (secrets, { id := policyId, updatedAt := now, repositoryConfigRef := repositoryRef,
                    credentialSecretRef := some credentialRef })

/-- `_stage_secret_replacement`, after which the old secret is deleted. -/
def replaceSecret (draw : cipher.Draw) (secrets : Table SecretRecord) (policy : BackupPolicyRow) (secretId candidate : UUID)
    (kind : String) (value : Value) : Result (Table SecretRecord) :=
  match SecretStore.record secrets secretId kind ownerType policy.id with
  | .error _ => .error (secretUnavailable "Backup policy secret is unavailable.")
  | .ok _ => do
    let secrets ← createSecret store draw secrets candidate kind policy.id value
    SecretStore.delete secrets secretId kind ownerType policy.id

def updateRepository (urlsplit : String → Option (Option String × Option String)) (draw : cipher.Draw)
    (candidate : UUID) (secrets : Table SecretRecord) (policy : BackupPolicyRow) (changes : BackupPolicyChanges) :
    Result (Table SecretRecord × BackupPolicyRow) :=
  if changes.repository = none ∧ changes.initializeIfMissing = none then .ok (secrets, policy)
  else do
    let current ← decrypt store secrets policy (some policy.repositoryConfigRef) repositoryKind
    let initializing := changes.initializeIfMissing.getD (truthy (Value.field? current "initialize_if_missing"))
    match (changes.repository.map Value.str) <|> Value.field? current "repository" with
    | some (.str repository) =>
      let repository ← normalizeRepository urlsplit repository
      let secrets ← replaceSecret store draw secrets policy policy.repositoryConfigRef candidate repositoryKind
        (repositoryValue repository initializing)
      .ok (secrets, { policy with repositoryConfigRef := candidate })
    | _ => .error repositoryInvalid

/-- The credentials a policy has, if it has any. -/
def currentCredentials (secrets : Table SecretRecord) (policy : BackupPolicyRow) : Result (List (String × Value)) :=
  match policy.credentialSecretRef with
  | none => .ok []
  | some secretId => decrypt store secrets policy (some secretId) credentialsKind

/-- The secret of new credentials, in the place of the one there was. -/
def storeCredentials (draw : cipher.Draw) (candidate : UUID) (secrets : Table SecretRecord) (policy : BackupPolicyRow)
    (value : Value) : Result (Table SecretRecord) :=
  match policy.credentialSecretRef with
  | none => createSecret store draw secrets candidate credentialsKind policy.id value
  | some secretId => replaceSecret store draw secrets policy secretId candidate credentialsKind value

def updateCredentials (draw : cipher.Draw) (candidate : UUID) (secrets : Table SecretRecord) (policy : BackupPolicyRow)
    (action : CredentialsAction) : Result (Table SecretRecord × BackupPolicyRow) :=
  let invalid : PyError := apiError 400 "backup_credentials_invalid" "Backup credentials are invalid."
  match action with
  | .keep => .ok (secrets, policy)
  | .replace none none => .error invalid
  | .replace password environment => do
    let current ← currentCredentials store secrets policy
    let rawPassword := (password.map Value.str) <|> Value.field? current "password"
    let rawEnvironment := match environment with
      | some environment => some environment
      | none => textFields ((Value.field? current "environment").getD (.obj []))
    match rawPassword, rawEnvironment with
    | some (.str password), some environment =>
      if password = "" then .error invalid
      else
        let environment ← normalizeEnvironment environment
        let secrets ← storeCredentials store draw candidate secrets policy (credentialsValue password environment)
        .ok (secrets, { policy with credentialSecretRef := some candidate })
    | _, _ => .error invalid
  | .clear =>
    let cleared := { policy with credentialSecretRef := none }
    match policy.credentialSecretRef with
    | none => .ok (secrets, cleared)
    | some secretId =>
      match SecretStore.delete secrets secretId credentialsKind ownerType policy.id with
      | .error _ => .ok (secrets, cleared)
      | .ok secrets => .ok (secrets, cleared)

/-- The secrets and the row after an update; a row that changes is written with the time. -/
def update (urlsplit : String → Option (Option String × Option String)) (draws : cipher.Draw × cipher.Draw)
    (repositoryRef credentialRef : UUID) (now : Timestamp) (secrets : Table SecretRecord) (policy : BackupPolicyRow)
    (changes : BackupPolicyChanges) : Result (Table SecretRecord × BackupPolicyRow) := do
  let (secrets, changed) ← updateRepository store urlsplit draws.1 repositoryRef secrets policy changes
  let (secrets, changed) ← updateCredentials store draws.2 credentialRef secrets changed changes.credentials
  .ok (secrets, if changed ≠ policy ∨ changes.others then { changed with updatedAt := now } else changed)

end

/-! ## What is accepted is what backups use -/

theorem mem_setItem {dict : List (String × String)} {key value : String} {item : String × String}
    (member : item ∈ setItem dict key value) : item = (key, value) ∨ item ∈ dict := by
  rw [setItem] at member
  split at member
  · obtain ⟨old, inDict, rfl⟩ := List.mem_map.mp member
    split
    · exact .inl rfl
    · exact .inr inDict
  · rcases List.mem_append.mp member with inDict | isNew
    · exact .inr inDict
    · exact .inl (List.mem_singleton.mp isNew)

theorem nodup_setItem {dict : List (String × String)} (distinct : (dict.map Prod.fst).Nodup) (key value : String) :
    ((setItem dict key value).map Prod.fst).Nodup := by
  rw [setItem]
  split
  · have keys : (dict.map fun item => if item.1 = key then (key, value) else item).map Prod.fst = dict.map Prod.fst := by
      rw [List.map_map]
      refine List.map_congr_left fun item _ => ?_
      by_cases same : item.1 = key <;> simp [same]
    rw [keys]
    exact distinct
  · next absent =>
    rw [List.map_append, List.map_cons, List.map_nil, List.nodup_append]
    refine ⟨distinct, List.nodup_singleton key, fun name inDict other isNew sameName => absent ?_⟩
    obtain ⟨item, member, rfl⟩ := List.mem_map.mp inDict
    rw [List.mem_singleton.mp isNew] at sameName
    exact List.any_eq_true.mpr ⟨item, member, by simp [sameName]⟩

/-- The names of an environment are distinct, and none is one of the kit's own. -/
structure ValidEnvironment (environment : List (String × String)) : Prop where
  distinct : (environment.map Prod.fst).Nodup
  named : ∀ item ∈ environment, isEnvKey item.1 = true ∧ item.1 ∉ reservedEnv

theorem normalizeEnvironment_valid {environment normalized : List (String × String)}
    (accepted : normalizeEnvironment environment = .ok normalized) : ValidEnvironment normalized := by
  have start : ValidEnvironment [] := ⟨List.nodup_nil, fun _ member => absurd member List.not_mem_nil⟩
  refine foldlM_invariant environment ?_ start accepted
  rintro dict ⟨key, raw⟩ _ dict' valid step
  dsimp only at step
  split at step
  · cases step
  · next sound =>
    cases step
    simp only [Bool.not_eq_true', not_or, Bool.not_eq_false] at sound
    refine ⟨nodup_setItem valid.distinct _ _, fun item member => ?_⟩
    rcases mem_setItem member with rfl | inDict
    · exact ⟨sound.1, sound.2.1⟩
    · exact valid.named item inDict

theorem ValidEnvironment.perm {environment other : List (String × String)} (valid : ValidEnvironment environment)
    (perm : environment.Perm other) : ValidEnvironment other :=
  ⟨((perm.map Prod.fst).nodup_iff).mp valid.distinct, fun item member => valid.named item (perm.mem_iff.mpr member)⟩

theorem normalizeRepository_nonempty {urlsplit : String → Option (Option String × Option String)} {repository value : String}
    (accepted : normalizeRepository urlsplit repository = .ok value) : value.toList ≠ [] := by
  simp only [normalizeRepository] at accepted
  split at accepted
  · cases accepted
  · next sound =>
    have stripped : value = strip repository := by
      split at accepted
      · split at accepted
        · cases accepted
        · split at accepted
          · cases accepted
          · exact (Except.ok.inj accepted).symm
      · exact (Except.ok.inj accepted).symm
    rw [stripped]
    exact fun isEmpty => sound (.inl isEmpty)

/-! ### The secrets of a policy -/

theorem sortFields_text (environment : List (String × String)) :
    JsonText.sortFields (environment.map fun item => (item.1, Value.str item.2)) =
      environment.map fun item => (item.1, Value.str item.2) := by
  induction environment with
  | nil => rfl
  | cons item environment ih => rw [List.map_cons, JsonText.sortFields, ih]; rfl

theorem plainFields_text (environment : List (String × String)) :
    JsonText.plainFields (environment.map fun item => (item.1, Value.str item.2)) = true := by
  induction environment with
  | nil => rfl
  | cons item environment ih => rw [List.map_cons, JsonText.plainFields, ih]; rfl

theorem textFields_text (environment : List (String × String)) :
    textFields (.obj (environment.map fun item => (item.1, Value.str item.2))) = some environment := by
  rw [textFields]
  induction environment with
  | nil => rfl
  | cons item environment ih => rw [List.map_cons, List.mapM_cons, ih]; rfl

/-- The order that a dictionary of texts is written in. -/
def sortedEnvironment (environment : List (String × String)) : List (String × String) :=
  environment.insertionSort fun a b => a.1 ≤ b.1

theorem sortKeys_credentials (password : String) (environment : List (String × String)) :
    sortKeys (credentialsValue password environment) =
      .obj [("environment", .obj ((sortedEnvironment environment).map fun item => (item.1, Value.str item.2))),
        ("password", .str password)] := by
  have sorted : (environment.map fun item => (item.1, Value.str item.2)).insertionSort (fun a b => a.1 ≤ b.1) =
      (sortedEnvironment environment).map fun item => (item.1, Value.str item.2) :=
    (List.map_insertionSort (fun (a b : String × String) => a.1 ≤ b.1) (fun (a b : String × Value) => a.1 ≤ b.1)
      (fun item => (item.1, Value.str item.2)) environment fun _ _ _ _ => Iff.rfl).symm
  have order : ¬("password" ≤ "environment") := by decide
  simp only [credentialsValue, sortKeys, JsonText.sortFields, sortFields_text, sorted, List.insertionSort_cons,
    List.insertionSort_nil, List.orderedInsert_nil, List.orderedInsert_cons, if_neg order]

theorem sortKeys_repository (repository : String) (initializing : Bool) :
    sortKeys (repositoryValue repository initializing) =
      .obj [("initialize_if_missing", .bool initializing), ("repository", .str repository)] := by
  have order : ¬("repository" ≤ "initialize_if_missing") := by decide
  simp only [repositoryValue, sortKeys, JsonText.sortFields, List.insertionSort_cons,
    List.insertionSort_nil, List.orderedInsert_nil, List.orderedInsert_cons, if_neg order]

section
variable {cipher : Fernet} {store : SecretStore cipher} {secrets : Table SecretRecord}

/-- A secret that is there and can be read is decrypted. -/
theorem decrypt_of_plaintext {policy : BackupPolicyRow} {secretRef : UUID} {kind : String} {record : SecretRecord}
    {fields sorted : List (String × Value)}
    (found : SecretStore.record secrets secretRef kind ownerType policy.id = .ok record)
    (read : store.plaintextOf record = .ok (SecretStore.jsonBytes (.obj fields)))
    (inOrder : sortKeys (.obj fields) = .obj sorted) (isPlain : JsonText.plain (.obj sorted) = true) :
    decrypt store secrets policy (some secretRef) kind = .ok sorted := by
  have readJson : store.readJson secrets secretRef kind ownerType policy.id = .ok sorted := by
    rw [SecretStore.readJson, found]
    change (do let plaintext ← store.plaintextOf _; SecretStore.loadsObject plaintext) = _
    rw [read]
    exact SecretStore.loadsObject_jsonBytes inOrder isPlain
  rw [decrypt, readJson]

theorem decrypt_ok {policy : BackupPolicyRow} {secretId : Option UUID} {kind : String} {fields : List (String × Value)}
    (decrypted : decrypt store secrets policy secretId kind = .ok fields) :
    ∃ secretRef record plaintext, secretId = some secretRef ∧
      SecretStore.record secrets secretRef kind ownerType policy.id = .ok record ∧ store.plaintextOf record = .ok plaintext := by
  rw [decrypt.eq_def] at decrypted
  split at decrypted
  · cases decrypted
  next secretRef =>
  split at decrypted
  · cases decrypted
  next read =>
  rw [SecretStore.readJson, bind_eq_ok] at read
  obtain ⟨record, found, read⟩ := read
  rw [bind_eq_ok] at read
  obtain ⟨plaintext, isPlaintext, _⟩ := read
  exact ⟨secretRef, record, plaintext, rfl, found, isPlaintext⟩

theorem createSecret_ok {draw : cipher.Draw} {secretRef policyId : UUID} {kind : String} {value : Value}
    {grown : Table SecretRecord} (created : createSecret store draw secrets secretRef kind policyId value = .ok grown) :
    secrets.insert? (store.jsonRecord draw secretRef kind ownerType policyId value) = some grown := by
  rw [createSecret] at created
  split at created
  · cases created
  · next inserted =>
    cases created
    exact inserted

/-- Both secrets of a policy that resolves can be read. -/
theorem resolve_ok {policy : BackupPolicyRow} {retention : List (String × Int)} {resolved : ResolvedBackupPolicy}
    (done : resolve store secrets policy retention = .ok resolved) :
    (∃ record plaintext,
      SecretStore.record secrets policy.repositoryConfigRef repositoryKind ownerType policy.id = .ok record ∧
        store.plaintextOf record = .ok plaintext) ∧
    ∃ secretRef record plaintext, policy.credentialSecretRef = some secretRef ∧
      SecretStore.record secrets secretRef credentialsKind ownerType policy.id = .ok record ∧
        store.plaintextOf record = .ok plaintext := by
  rw [resolve, bind_eq_ok] at done
  obtain ⟨repository, repositoryRead, done⟩ := done
  rw [bind_eq_ok] at done
  obtain ⟨credentials, credentialsRead, _⟩ := done
  obtain ⟨ref, record, plaintext, sameRef, found, read⟩ := decrypt_ok repositoryRead
  cases sameRef
  exact ⟨⟨record, plaintext, found, read⟩, decrypt_ok credentialsRead⟩

/-- What `resolve` answers for the secrets that the service keeps. -/
theorem resolve_of_decrypt {policy : BackupPolicyRow} {repository password : String} {environment : List (String × String)}
    {initializing : Bool} (repositoryNonempty : repository.toList ≠ []) (passwordNonempty : password ≠ "")
    (repositorySecret : decrypt store secrets policy (some policy.repositoryConfigRef) repositoryKind =
      .ok [("initialize_if_missing", .bool initializing), ("repository", .str repository)])
    (credentialSecret : decrypt store secrets policy policy.credentialSecretRef credentialsKind =
      .ok [("environment", .obj (environment.map fun item => (item.1, Value.str item.2))), ("password", .str password)])
    (retention : List (String × Int)) :
    resolve store secrets policy retention = .ok
      { policyId := policy.id.int, repository, password, environment, initializeIfMissing := initializing, retention } := by
  have present : ¬(repository.toList = [] ∨ password.toList = []) := by
    rintro (isEmpty | isEmpty)
    · exact repositoryNonempty isEmpty
    · exact passwordNonempty (String.toList_eq_nil_iff.mp isEmpty)
  have repositoryText : Value.field? [("initialize_if_missing", .bool initializing), ("repository", .str repository)]
      "repository" = some (.str repository) := rfl
  have flag : Value.field? [("initialize_if_missing", .bool initializing), ("repository", .str repository)]
      "initialize_if_missing" = some (.bool initializing) := rfl
  have passwordText (fields : Value) :
      Value.field? [("environment", fields), ("password", .str password)] "password" = some (.str password) := rfl
  have environmentFields (fields : Value) :
      Value.field? [("environment", fields), ("password", .str password)] "environment" = some fields := rfl
  rw [resolve, repositorySecret, credentialSecret]
  simp only [bind, Except.bind, repositoryText, passwordText, environmentFields, Option.getD_some, textFields_text, flag,
    if_neg present, truthy]

end

end BackupPolicyService

end ZeroNvr
