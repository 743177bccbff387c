import ZeroNvr.Verified.RecoveryRestore

/-! # When a recovery kit is current

The status compares a fingerprint with the one that the last kit left.  The last kit
of each policy is followed beside the status file, with the deployment it was made in.
-/

namespace ZeroNvr.RecoveryStatus

open JsonText (Value write ascii sortKeys loads)
open Lib
open Pagination (Timestamp)
open BackupPolicyService (repositoryKind credentialsKind ownerType)
open RecoveryKitService

/-! ## The fingerprint -/

/-- The members of written material. -/
def materialFields (library : KitLibrary) (deployment : Deployment) (policy : BackupPolicyRow) (secrets : List String) :
    List (String × Value) :=
  [("app_version", .str deployment.settings.appVersion),
    ("bootstrap_secret_hashes", .arr (secrets.map fun value => .str (library.sha256 (utf8 value.toList)))),
    ("compose_profiles", .str (environGet deployment "COMPOSE_PROFILES" "")),
    ("credential_secret_ref", (policy.credentialSecretRef.map uuidValue).getD .null),
    ("database_url", .str (deployment.settings.databaseUrl.getD "")),
    ("deployment_paths",
      .obj [("ZERO_NVR_CACHE_PATH", .str (environGet deployment "ZERO_NVR_CACHE_PATH" "./data/cache")),
        ("ZERO_NVR_DATA_PATH", .str (environGet deployment "ZERO_NVR_DATA_PATH" "./data/zero-nvr")),
        ("ZERO_NVR_RECORDINGS_PATH", .str (environGet deployment "ZERO_NVR_RECORDINGS_PATH" "./data/recordings"))]),
    ("policy_id", uuidValue policy.id),
    ("policy_updated_at", isoValue policy.updatedAt),
    ("repository_config_ref", uuidValue policy.repositoryConfigRef)]

theorem sortItems_texts (texts : List String) : JsonText.sortItems (texts.map Value.str) = texts.map Value.str := by
  induction texts with
  | nil => rfl
  | cons text texts ih => rw [List.map_cons, JsonText.sortItems, ih]; rfl

theorem plainItems_texts (texts : List String) : JsonText.plainItems (texts.map Value.str) = true := by
  induction texts with
  | nil => rfl
  | cons text texts ih => rw [List.map_cons, JsonText.plainItems, ih]; rfl

section
variable {library : KitLibrary} {deployment : Deployment}

theorem sortKeys_credentialRef (policy : BackupPolicyRow) :
    sortKeys ((policy.credentialSecretRef.map uuidValue).getD .null) =
      (policy.credentialSecretRef.map uuidValue).getD .null := by
  cases policy.credentialSecretRef <;> rfl

theorem sortKeys_hashes (secrets : List String) :
    sortKeys (.arr (secrets.map fun value => .str (library.sha256 (utf8 value.toList)))) =
      .arr (secrets.map fun value => .str (library.sha256 (utf8 value.toList))) := by
  have hashes := sortItems_texts (secrets.map fun value => library.sha256 (utf8 value.toList))
  rw [List.map_map] at hashes
  exact congrArg Value.arr hashes

theorem sortKeys_material (policy : BackupPolicyRow) (secrets : List String) :
    sortKeys (material library deployment policy secrets) =
      .obj (materialFields library deployment policy secrets) := by
  have text (value : String) : sortKeys (.str value) = .str value := rfl
  rw [material, sortKeys]
  simp only [JsonText.sortFields, sortKeys_hashes, sortKeys_credentialRef, deploymentPaths, isoValue, uuidValue, text]
  simp [materialFields, sortKeys, JsonText.sortFields, isoValue, uuidValue]

theorem plain_material (policy : BackupPolicyRow) (secrets : List String) :
    JsonText.plain (.obj (materialFields library deployment policy secrets)) = true := by
  have hashes := plainItems_texts (secrets.map fun value => library.sha256 (utf8 value.toList))
  rw [List.map_map] at hashes
  have arr : JsonText.plain (.arr (secrets.map fun value => .str (library.sha256 (utf8 value.toList)))) = true := hashes
  have credential : JsonText.plain ((policy.credentialSecretRef.map uuidValue).getD .null) = true := by
    cases policy.credentialSecretRef <;> rfl
  have obj (fields : List (String × Value)) : JsonText.plain (.obj fields) = JsonText.plainFields fields := rfl
  simp only [materialFields, JsonText.plainFields, obj, arr, credential, isoValue, uuidValue]
  rfl

end

/-- What the fingerprint is made from is the same. -/
structure SameFingerprinted (deployment other : Deployment) : Prop where
  appVersion : deployment.settings.appVersion = other.settings.appVersion
  databaseUrl : deployment.settings.databaseUrl.getD "" = other.settings.databaseUrl.getD ""
  profiles : environGet deployment "COMPOSE_PROFILES" "" = environGet other "COMPOSE_PROFILES" ""
  dataPath : environGet deployment "ZERO_NVR_DATA_PATH" "./data/zero-nvr" =
    environGet other "ZERO_NVR_DATA_PATH" "./data/zero-nvr"
  cachePath : environGet deployment "ZERO_NVR_CACHE_PATH" "./data/cache" =
    environGet other "ZERO_NVR_CACHE_PATH" "./data/cache"
  recordingsPath : environGet deployment "ZERO_NVR_RECORDINGS_PATH" "./data/recordings" =
    environGet other "ZERO_NVR_RECORDINGS_PATH" "./data/recordings"
  secretKey : deployment.settings.secretKey = other.settings.secretKey
  secretKeyPrevious : deployment.settings.secretKeyPrevious = other.settings.secretKeyPrevious
  zlmApiSecret : secretValue deployment.settings.zlmApiSecret = secretValue other.settings.zlmApiSecret
  zlmHookSecret : secretValue deployment.settings.zlmHookSecret = secretValue other.settings.zlmHookSecret
  turnSharedSecret : secretValue deployment.settings.turnSharedSecret = secretValue other.settings.turnSharedSecret
  mqttPassword : runtimeProtectedEnv deployment "ZERO_NVR_MQTT_PASSWORD" =
    runtimeProtectedEnv other "ZERO_NVR_MQTT_PASSWORD"
  postgresPassword : runtimeProtectedEnv deployment "ZERO_NVR_POSTGRES_PASSWORD" =
    runtimeProtectedEnv other "ZERO_NVR_POSTGRES_PASSWORD"

theorem uuidValue_injective {id other : UUID} (same : uuidValue id = uuidValue other) : id = other := by
  have texts : id.str = other.str := String.ofList_injective (Value.str.inj same)
  have parsed := UUID.parse_str id
  rw [texts, UUID.parse_str] at parsed
  exact (Option.some.inj parsed).symm

theorem credentialRef_injective {ref other : Option UUID}
    (same : (ref.map uuidValue).getD .null = (other.map uuidValue).getD .null) : ref = other := by
  cases ref with
  | none =>
    cases other with
    | none => rfl
    | some id => cases same
  | some id =>
    cases other with
    | none => cases same
    | some id' => rw [uuidValue_injective same]

section
variable {library : KitLibrary} (collisionFree : ∀ a b, library.sha256 a = library.sha256 b → a = b)
include collisionFree

theorem hashes_injective {secrets others : List String}
    (same : (secrets.map fun value => Value.str (library.sha256 (utf8 value.toList))) =
      others.map fun value => Value.str (library.sha256 (utf8 value.toList))) : secrets = others := by
  refine List.map_injective_iff.mpr (fun a b sameHash => ?_) same
  exact String.toList_injective (utf8_injective (collisionFree _ _ (Value.str.inj sameHash)))

/-- Equal fingerprints are made from the same inputs. -/
theorem fingerprint_injective {deployment other : Deployment} {policy policy' : BackupPolicyRow} {digest : String}
    (isDigest : fingerprint library deployment policy = .ok digest)
    (isOther : fingerprint library other policy' = .ok digest) :
    SameFingerprinted deployment other ∧ policy.repositoryConfigRef = policy'.repositoryConfigRef ∧
      policy.credentialSecretRef = policy'.credentialSecretRef := by
  obtain ⟨secrets, isSecrets, rfl⟩ := map_eq_ok.mp isDigest
  obtain ⟨secrets', isSecrets', sameDigest⟩ := map_eq_ok.mp isOther
  have sameText := utf8_injective (collisionFree _ _ sameDigest.symm)
  rw [sortKeys_material, sortKeys_material] at sameText
  have sameFields := JsonText.write_injective (plain_material _ _) (plain_material _ _) sameText
  simp only [materialFields, Value.obj.injEq, List.cons.injEq, Prod.mk.injEq, Value.str.injEq, Value.arr.injEq, true_and,
    and_true] at sameFields
  obtain ⟨appVersion, hashes, profiles, credential, databaseUrl, ⟨cache, data, recordings⟩, _, _, repository⟩ := sameFields
  have sameSecrets := hashes_injective collisionFree hashes
  rw [secretValues, bind_eq_ok] at isSecrets isSecrets'
  obtain ⟨mqtt, isMqtt, isSecrets⟩ := isSecrets
  obtain ⟨mqtt', isMqtt', isSecrets'⟩ := isSecrets'
  rw [bind_eq_ok] at isSecrets isSecrets'
  obtain ⟨postgres, isPostgres, isSecrets⟩ := isSecrets
  obtain ⟨postgres', isPostgres', isSecrets'⟩ := isSecrets'
  cases isSecrets
  cases isSecrets'
  obtain ⟨sameKeys, sameRest⟩ := List.append_inj' sameSecrets rfl
  simp only [List.cons.injEq, and_true] at sameKeys sameRest
  obtain ⟨zlmApi, zlmHook, turn, sameMqtt, samePostgres⟩ := sameRest
  exact ⟨⟨appVersion, databaseUrl, profiles, data, cache, recordings, sameKeys.1, sameKeys.2, zlmApi, zlmHook, turn,
    isMqtt.trans (sameMqtt ▸ isMqtt'.symm), isPostgres.trans (samePostgres ▸ isPostgres'.symm)⟩, uuidValue_injective repository, credentialRef_injective credential⟩

end

/-! ## The files -/

/-- A database that the kit brings along. -/
def Managed (url : DatabaseUrl) : Prop := url.backendName = "postgresql" ∧ url.host = some "postgres"

/-- What `zero-nvr.env` is made from beside the fingerprint is the same. -/
structure SameUnfingerprinted (library : KitLibrary) (deployment other : Deployment) : Prop where
  environment : deployment.settings.environment = other.settings.environment
  sessionCookieSecure : deployment.settings.sessionCookieSecure = other.settings.sessionCookieSecure
  zlmPublicBaseUrl : deployment.settings.zlmPublicBaseUrl = other.settings.zlmPublicBaseUrl
  turnEnabled : deployment.settings.turnEnabled = other.settings.turnEnabled
  turnUrls : deployment.settings.turnUrls = other.settings.turnUrls
  turnPublicHost : deployment.settings.turnPublicHost.getD "" = other.settings.turnPublicHost.getD ""
  turnPort : deployment.settings.turnPort = other.settings.turnPort
  turnRealm : deployment.settings.turnRealm = other.settings.turnRealm
  prebufferSize : environGet deployment "ZERO_NVR_PREBUFFER_SIZE" "512m" =
    environGet other "ZERO_NVR_PREBUFFER_SIZE" "512m"
  mqttUsername : "mqtt" ∈ profilesOf (environGet deployment "COMPOSE_PROFILES" "") →
    environGet deployment "ZERO_NVR_MQTT_USERNAME" "zero-nvr" = environGet other "ZERO_NVR_MQTT_USERNAME" "zero-nvr"
  postgres : ∀ url, library.makeUrl (deployment.settings.databaseUrl.getD "") = .ok url → Managed url →
    orText url.database (environGet deployment "ZERO_NVR_POSTGRES_DB" "zero_nvr") =
        orText url.database (environGet other "ZERO_NVR_POSTGRES_DB" "zero_nvr") ∧
      orText url.username (environGet deployment "ZERO_NVR_POSTGRES_USER" "zero_nvr") =
        orText url.username (environGet other "ZERO_NVR_POSTGRES_USER" "zero_nvr")

theorem SameUnfingerprinted.refl (library : KitLibrary) (deployment : Deployment) :
    SameUnfingerprinted library deployment deployment :=
  ⟨rfl, rfl, rfl, rfl, rfl, rfl, rfl, rfl, rfl, fun _ => rfl, fun _ _ _ => ⟨rfl, rfl⟩⟩

section
variable {library : KitLibrary} {deployment other : Deployment}

theorem postgresValues_congr (fingerprinted : SameFingerprinted deployment other)
    (unfingerprinted : SameUnfingerprinted library deployment other) (profiles : List String) :
    postgresValues library deployment profiles = postgresValues library other profiles := by
  rw [postgresValues, postgresValues]
  dsimp only
  rw [← fingerprinted.databaseUrl]
  split
  · rfl
  · cases isUrl : library.makeUrl (deployment.settings.databaseUrl.getD "") with
    | error e => rfl
    | ok url =>
      dsimp only [bind, Except.bind]
      split
      · next managed =>
        obtain ⟨database, username⟩ := unfingerprinted.postgres url isUrl managed
        rw [postgresPassword, postgresPassword, fingerprinted.postgresPassword, database, username]
      · rfl

/-- The profiles that a managed database adds leave the broker as it is. -/
theorem mem_postgresValues {profiles added : List String} {values : List (String × String)}
    (made : postgresValues library deployment profiles = .ok (added, values)) : "mqtt" ∈ added ↔ "mqtt" ∈ profiles := by
  rw [postgresValues] at made
  dsimp only at made
  split at made
  · cases made
    rfl
  · rw [bind_eq_ok] at made
    obtain ⟨url, _, made⟩ := made
    split at made
    · rw [bind_eq_ok] at made
      obtain ⟨password, _, made⟩ := made
      split at made
      · cases made
      · cases made
        split
        · rfl
        · simp
    · cases made
      rfl

/-- Equal inputs make the same file. -/
theorem bootstrapEnv_congr (fingerprinted : SameFingerprinted deployment other)
    (unfingerprinted : SameUnfingerprinted library deployment other) :
    bootstrapEnv library deployment = bootstrapEnv library other := by
  have base (profiles : List String) : baseValues deployment profiles = baseValues other profiles := by
    simp only [baseValues, fingerprinted.dataPath, fingerprinted.cachePath, fingerprinted.recordingsPath,
      fingerprinted.secretKey, fingerprinted.zlmApiSecret, fingerprinted.zlmHookSecret, fingerprinted.turnSharedSecret,
      fingerprinted.databaseUrl, unfingerprinted.environment, unfingerprinted.sessionCookieSecure,
      unfingerprinted.zlmPublicBaseUrl, unfingerprinted.turnEnabled, unfingerprinted.turnUrls, unfingerprinted.turnPublicHost,
      unfingerprinted.turnPort, unfingerprinted.turnRealm, unfingerprinted.prebufferSize]
  have values : bootstrapValues library deployment = bootstrapValues library other := by
    rw [bootstrapValues, bootstrapValues]
    dsimp only
    rw [← fingerprinted.zlmApiSecret, ← fingerprinted.zlmHookSecret, ← fingerprinted.profiles, ← unfingerprinted.turnEnabled]
    split
    · rfl
    · rw [← postgresValues_congr fingerprinted unfingerprinted]
      cases made : postgresValues library deployment _ with
      | error e => rfl
      | ok result =>
        have mqtt : mqttValues deployment result.1 = mqttValues other result.1 := by
          rw [mqttValues, mqttValues]
          split
          · next inProfiles =>
            have listed := (@mem_postgresValues _ _ _ _ result.2 made).mp inProfiles
            have named : "mqtt" ∈ profilesOf (environGet deployment "COMPOSE_PROFILES" "") := by
              split at listed
              · simpa using listed
              · exact listed
            rw [fingerprinted.mqttPassword, unfingerprinted.mqttUsername named]
          · rfl
        dsimp only [bind, Except.bind]
        rw [mqtt]
        cases mqttValues other result.1 with
        | error e => rfl
        | ok values => exact congrArg Except.ok (by rw [base])
  rw [bootstrapEnv, bootstrapEnv, values, fingerprinted.secretKeyPrevious]

end


/-! ## The status file -/

/-- The members of a written status. -/
def statusFields (policyId : UUID) (generatedAt : Timestamp) (appVersion digest : String) : List (String × Value) :=
  [("app_version", .str appVersion), ("fingerprint", .str digest), ("generated_at", isoValue generatedAt),
    ("policy_id", uuidValue policyId), ("version", .int 1)]

theorem loads_statusText (policyId : UUID) (generatedAt : Timestamp) (appVersion digest : String) :
    loads (statusText policyId generatedAt appVersion digest) =
      some (.obj (statusFields policyId generatedAt appVersion digest)) := by
  have sorted : sortKeys (.obj [("version", .int 1), ("policy_id", uuidValue policyId),
      ("generated_at", isoValue generatedAt), ("app_version", .str appVersion), ("fingerprint", .str digest)]) =
      .obj (statusFields policyId generatedAt appVersion digest) := by
    simp [statusFields, sortKeys, JsonText.sortFields, isoValue, uuidValue]
  have one : (1 : Int).natAbs < 10 ^ maxStrDigits := small_int (by decide)
  have isPlain : JsonText.plain (.obj (statusFields policyId generatedAt appVersion digest)) = true := by
    simp only [statusFields, JsonText.plain, JsonText.plainFields, isoValue, uuidValue, one]
    rfl
  rw [statusText, sorted]
  exact JsonText.loads_write_line isPlain

/-- The status file is read back as it was written. -/
theorem parseState_statusText (policyId : UUID) (generatedAt : Timestamp) (appVersion digest : String) :
    (readStatus (some (statusText policyId generatedAt appVersion digest))).bind parseState =
      some (policyId, (Calendar.ofWall generatedAt.instant, some 0), digest.toList) := by
  have read : readStatus (some (statusText policyId generatedAt appVersion digest)) =
      some (statusFields policyId generatedAt appVersion digest) := by
    rw [readStatus]
    dsimp only [Option.bind_some]
    rw [loads_statusText]
  have policy : UUID.parse (valueText (uuidValue policyId)) = some policyId := by
    rw [uuidValue, valueText, String.toList_ofList, UUID.parse_str]
  have time : IsoFormat.fromisoformat (valueText (isoValue generatedAt)) =
      some (Calendar.ofWall generatedAt.instant, some 0) := by
    rw [isoValue, valueText, String.toList_ofList]
    exact IsoFormat.fromisoformat_isoformat (Calendar.ofWall_valid generatedAt.inRange)
  have members : Value.field? (statusFields policyId generatedAt appVersion digest) "policy_id" = some (uuidValue policyId) ∧
      Value.field? (statusFields policyId generatedAt appVersion digest) "generated_at" = some (isoValue generatedAt) ∧
      Value.field? (statusFields policyId generatedAt appVersion digest) "fingerprint" = some (.str digest) := ⟨rfl, rfl, rfl⟩
  rw [read, Option.bind_some, parseState, members.1, members.2.1, members.2.2]
  simp only [Option.bind_eq_bind, Option.bind_some, policy, time]
  rfl

/-- The status is answered, and is `current`. -/
def Current (library : KitLibrary) (deployment : Deployment) (file : Option (List Char)) (policy : BackupPolicyRow) : Prop :=
  ∃ answered, RecoveryKitService.status library deployment file policy = .ok answered ∧ answered.status = .current

section
variable {library : KitLibrary} {deployment : Deployment} {policy : BackupPolicyRow}

theorem current_iff {policyId : UUID} {generatedAt : Timestamp} {appVersion digest : String} :
    Current library deployment (some (statusText policyId generatedAt appVersion digest)) policy ↔
      policyId = policy.id ∧ fingerprint library deployment policy = .ok digest := by
  rw [Current, RecoveryKitService.status, parseState_statusText]
  cases fingerprint library deployment policy with
  | error e =>
    refine iff_of_false ?_ (by simp)
    rintro ⟨_, answered, _⟩
    cases answered
  | ok own =>
    constructor
    · rintro ⟨answered, isAnswer, isCurrent⟩
      obtain rfl := Except.ok.inj isAnswer
      dsimp only at isCurrent
      split at isCurrent
      · next same => exact ⟨same.1, congrArg Except.ok (String.toList_injective same.2).symm⟩
      · cases isCurrent
    · rintro ⟨isPolicy, isDigest⟩
      cases isDigest
      exact ⟨_, rfl, if_pos ⟨isPolicy, rfl⟩⟩

/-- There is no status without a file. -/
theorem not_current_none : ¬Current library deployment none policy := by
  rintro ⟨answered, isAnswer, isCurrent⟩
  rw [RecoveryKitService.status] at isAnswer
  obtain ⟨digest, _, rfl⟩ := map_eq_ok.mp isAnswer
  cases isCurrent

/-- A kit is current right after it was generated. -/
theorem current_of_generate {resolved : Result ResolvedBackupPolicy} {passphrase : String} {salt nonce : Bytes}
    {now : Timestamp} {file : List Char} {artifact : RecoveryKitArtifact}
    (made : generate library deployment resolved policy passphrase salt nonce now = .ok (file, artifact)) :
    Current library deployment (some file) policy := by
  obtain ⟨_, digest, _, _, isDigest, _, rfl, _⟩ := generate_ok made
  exact current_iff.mpr ⟨rfl, isDigest⟩

end

/-! ## Runs -/

/-- The last kit of a policy: the row and the deployment it was made from, and its two files. -/
structure LastKit where
  policy : BackupPolicyRow
  deployment : Deployment
  bootstrap : List Char
  recovery : List Char

/-- The deployment, the policies with their secrets, and the status file. -/
structure KitWorld where
  deployment : Deployment
  secrets : Table SecretRecord
  policies : Table BackupPolicyRow
  issued : List UUID
  file : Option (List Char)
  last : UUID → Option LastKit

inductive KitEvent where
  | policies (event : PolicyEvent)
  | configure (deployment : Deployment)
  | generate (policyId : UUID)

namespace KitWorld

/-- Nothing was made yet. -/
def fresh (deployment : Deployment) : KitWorld :=
  { deployment, secrets := .empty, policies := .empty, issued := [], file := none, last := fun _ => none }

variable (world : KitWorld)

def settings : SecretSettings := ⟨world.deployment.settings.secretKey, world.deployment.settings.secretKeyPrevious⟩

def policyState : PolicyState :=
  { settings := world.settings, secrets := world.secrets, policies := world.policies, issued := world.issued }

def withPolicies (state : PolicyState) : KitWorld :=
  { world with secrets := state.secrets, policies := state.policies, issued := state.issued }

/-- A kit has been made for a policy. -/
def generated (policy : BackupPolicyRow) (bootstrap : List Char) (resolved : ResolvedBackupPolicy) (file : List Char) :
    KitWorld :=
  { world with
    file := some file
    last := Function.update world.last policy.id (some
      { policy, deployment := world.deployment, bootstrap
        recovery := recoveryEnv resolved.repository resolved.password resolved.environment }) }

end KitWorld

section
variable {cipher : Fernet} (buildKey : String → String × cipher.Key)
  (urlsplit : String → Option (Option String × Option String)) (library : KitLibrary)

/-- A call that raises is no step.  The settings change with the deployment only. -/
inductive KitStep : KitWorld → KitEvent → KitWorld → Prop
  | policies {world : KitWorld} {event : PolicyEvent} {state : PolicyState} (other : event ≠ .configure)
      (step : PolicyStep buildKey urlsplit world.policyState event state) :
      KitStep world (.policies event) (world.withPolicies state)
  | configure (world : KitWorld) (deployment : Deployment) :
      KitStep world (.configure deployment) { world with deployment }
  | generate {world : KitWorld} {policy : BackupPolicyRow} {retention : List (String × Int)}
      {resolved : ResolvedBackupPolicy} {bootstrap : List Char} {passphrase : String} {salt nonce : Bytes} {now : Timestamp}
      {file : List Char} {artifact : RecoveryKitArtifact} (member : policy ∈ world.policies)
      (resolves : BackupPolicyService.resolve (world.policyState.store buildKey) world.secrets policy retention = .ok resolved)
      (isBootstrap : bootstrapEnv library world.deployment = .ok bootstrap)
      (made : RecoveryKitService.generate library world.deployment (.ok resolved) policy passphrase salt nonce now =
        .ok (file, artifact)) :
      KitStep world (.generate policy.id) (world.generated policy bootstrap resolved file)

/-- A secret that a kit was made from. -/
def OfKit (kit : LastKit) (record : SecretRecord) : Prop :=
  record.ownerType = ownerType ∧
    (record.id = kit.policy.repositoryConfigRef.int ∨ ∃ ref, kit.policy.credentialSecretRef = some ref ∧ record.id = ref.int)

def Known (deployment : Deployment) (record : SecretRecord) : Prop :=
  ((SecretStore.ofSettings buildKey ⟨deployment.settings.secretKey, deployment.settings.secretKeyPrevious⟩).keys.lookup
    record.keyId).isSome

/-- A deployment in which a kit would be current makes the same files: what is not in the fingerprint is as it
    was, and the ring knows the keys of the secrets. -/
def Configures (world : KitWorld) : KitEvent → Prop
  | .configure deployment => ∀ policyId kit, world.last policyId = some kit → SameFingerprinted kit.deployment deployment →
      SameUnfingerprinted library kit.deployment deployment ∧
        ∀ record ∈ world.secrets, OfKit kit record → Known buildKey deployment record
  | _ => True

/-- What the last kit of a policy was made from is still what its secrets hold. -/
structure KitSound (world : KitWorld) (kit : LastKit) (contents : PolicyContents) : Prop where
  repositoryIssued : kit.policy.repositoryConfigRef ∈ world.issued
  credentialIssued : ∀ ref, kit.policy.credentialSecretRef = some ref → ref ∈ world.issued
  hasCredentials : kit.policy.credentialSecretRef.isSome = true
  bootstrap : bootstrapEnv library kit.deployment = .ok kit.bootstrap
  recovery : recoveryEnv contents.repository contents.password
    (BackupPolicyService.sortedEnvironment contents.environment) = kit.recovery
  repository : ∀ record ∈ world.secrets, record.ownerType = ownerType →
    record.id = kit.policy.repositoryConfigRef.int → Sealed buildKey record contents.repositoryFields
  credentials : ∀ record ∈ world.secrets, record.ownerType = ownerType →
    ∀ ref, kit.policy.credentialSecretRef = some ref → record.id = ref.int →
      Sealed buildKey record contents.credentialsFields
  configured : SameFingerprinted kit.deployment world.deployment →
    SameUnfingerprinted library kit.deployment world.deployment ∧
      ∀ record ∈ world.secrets, OfKit kit record → Known buildKey world.deployment record

structure Sound (world : KitWorld) : Prop where
  state : world.policyState.Sound buildKey
  kits : ∀ policyId kit, world.last policyId = some kit →
    kit.policy.id = policyId ∧ ∃ contents, KitSound buildKey library world kit contents
  file : ∀ text, world.file = some text → ∃ policyId kit now appVersion digest, world.last policyId = some kit ∧
    text = statusText policyId now appVersion digest ∧ fingerprint library kit.deployment kit.policy = .ok digest

end

section
variable {cipher : Fernet} {buildKey : String → String × cipher.Key}
  {urlsplit : String → Option (Option String × Option String)} {library : KitLibrary}
  (lawful : ∀ key draw plaintext, cipher.decrypt key (cipher.encrypt key draw plaintext) = some plaintext)
  (identified : ∀ a b, (buildKey a).1 = (buildKey b).1 → (buildKey a).2 = (buildKey b).2)
  (collisionFree : ∀ a b, library.sha256 a = library.sha256 b → a = b)

/-! ### The secrets -/

variable (buildKey) in
/-- A secret after a step is one from before, which holds the same under the same key or under one of the ring,
    or it has an id that was not issued. -/
def Continues (s : PolicyState) (new : SecretRecord) : Prop :=
  (∃ old ∈ s.secrets, old.ownerType = ownerType ∧ old.id = new.id ∧
      (∀ fields, Sealed buildKey old fields → Sealed buildKey new fields) ∧
      (new.keyId = old.keyId ∨ ((s.store buildKey).keys.lookup new.keyId).isSome)) ∨
    ∃ ref, ref ∉ s.issued ∧ ref.int = new.id

theorem continues_old {s : PolicyState} {record : SecretRecord} (member : record ∈ s.secrets)
    (owned : record.ownerType = ownerType) : Continues buildKey s record :=
  .inl ⟨record, member, owned, rfl, fun _ isSealed => isSealed, .inl rfl⟩

theorem continues_rewrites {s : PolicyState} {policyId repositoryRef credentialRef : UUID} {grown : Table SecretRecord}
    (rewrites : Rewrites buildKey policyId [repositoryRef, credentialRef] s.secrets grown)
    (repositoryNew : repositoryRef ∉ s.issued) (credentialNew : credentialRef ∉ s.issued) {new : SecretRecord}
    (member : new ∈ grown) (owned : new.ownerType = ownerType) : Continues buildKey s new := by
  rcases rewrites.born new member owned with isOld | ⟨⟨ref, isRef, same⟩, _⟩
  · exact continues_old isOld owned
  · refine .inr ⟨ref, ?_, same⟩
    rcases List.mem_cons.mp isRef with rfl | isCredential
    · exact repositoryNew
    · rw [List.mem_singleton.mp isCredential]
      exact credentialNew

include lawful identified in
theorem policyStep_records {s t : PolicyState} {event : PolicyEvent} (sound : s.Sound buildKey)
    (step : PolicyStep buildKey urlsplit s event t) :
    s.issued ⊆ t.issued ∧ ∀ new ∈ t.secrets, new.ownerType = ownerType → Continues buildKey s new := by
  cases step with
  | create repositoryNew credentialNew created added =>
    obtain ⟨rewrites, _⟩ := create_spec created
    exact ⟨fun ref member => List.mem_cons_of_mem _ (List.mem_cons_of_mem _ member), fun new member owned =>
      continues_rewrites rewrites repositoryNew credentialNew member owned⟩
  | update repositoryNew credentialNew isRow updated =>
    obtain ⟨rewrites, _, _⟩ := update_spec (sound.owned _ isRow) updated
    exact ⟨fun ref member => List.mem_cons_of_mem _ (List.mem_cons_of_mem _ member), fun new member owned =>
      continues_rewrites rewrites repositoryNew credentialNew member owned⟩
  | rotate draw =>
    refine ⟨fun _ member => member, fun new member owned => ?_⟩
    rcases @SecretStore.rotateRecords_cases cipher (s.store buildKey) s.secrets lawful draw with
      ⟨e, raised, _⟩ | ⟨after, plaintext, returned, read, rows⟩
    · dsimp only at member
      rw [raised] at member
      exact continues_old member owned
    · dsimp only at member
      rw [returned] at member
      obtain ⟨old, found, rfl⟩ := Option.map_eq_some_iff.mp ((rows new.id).symm.trans (Table.get?_of_mem member))
      have isOld := Table.mem_of_get? found
      have identity := identity_rewritten (s.store buildKey) draw plaintext old
      simp only [SecretRecord.identity, Prod.mk.injEq] at identity
      refine .inl ⟨old, isOld, identity.2.2.1.symm.trans owned, identity.1.symm, fun fields isSealed =>
        isSealed.rewritten lawful identified draw (read old isOld), .inr ?_⟩
      rw [(SecretStore.rewritten_spec lawful draw (read old isOld)).2, SecretStore.lookup_primary]
      rfl
  | configure settings => exact ⟨fun _ member => member, fun new member owned => continues_old member owned⟩
  | others same =>
    exact ⟨fun _ member => member, fun new member owned => continues_old ((same new owned).mp member) owned⟩

/-- A secret with an id that was issued is one from before. -/
theorem Continues.issued {s : PolicyState} {new : SecretRecord} (continues : Continues buildKey s new) {ref : UUID}
    (issued : ref ∈ s.issued) (same : new.id = ref.int) :
    ∃ old ∈ s.secrets, old.ownerType = ownerType ∧ old.id = new.id ∧
      (∀ fields, Sealed buildKey old fields → Sealed buildKey new fields) ∧
      (new.keyId = old.keyId ∨ ((s.store buildKey).keys.lookup new.keyId).isSome) := by
  rcases continues with isOld | ⟨other, notIssued, isOther⟩
  · exact isOld
  · exact absurd (UUID.eq_of_int (isOther.trans same) ▸ issued) notIssued

theorem KitSound.policies {world : KitWorld} {kit : LastKit} {contents : PolicyContents} {state : PolicyState}
    (sound : KitSound buildKey library world kit contents) (grows : world.issued ⊆ state.issued)
    (records : ∀ new ∈ state.secrets, new.ownerType = ownerType → Continues buildKey world.policyState new) :
    KitSound buildKey library (world.withPolicies state) kit contents where
  repositoryIssued := grows sound.repositoryIssued
  credentialIssued ref isRef := grows (sound.credentialIssued ref isRef)
  hasCredentials := sound.hasCredentials
  bootstrap := sound.bootstrap
  recovery := sound.recovery
  repository new member owned isRepository := by
    obtain ⟨old, isOld, ownedOld, sameId, kept, _⟩ := (records new member owned).issued sound.repositoryIssued isRepository
    exact kept _ (sound.repository old isOld ownedOld (sameId.trans isRepository))
  credentials new member owned ref isRef isCredential := by
    obtain ⟨old, isOld, ownedOld, sameId, kept, _⟩ :=
      (records new member owned).issued (sound.credentialIssued ref isRef) isCredential
    exact kept _ (sound.credentials old isOld ownedOld ref isRef (sameId.trans isCredential))
  configured fingerprinted := by
    obtain ⟨unfingerprinted, known⟩ := sound.configured fingerprinted
    refine ⟨unfingerprinted, fun new member ofKit => ?_⟩
    obtain ⟨ref, issued, isRef⟩ : ∃ ref, ref ∈ world.policyState.issued ∧ new.id = ref.int := by
      rcases ofKit.2 with isRepository | ⟨ref, isRef, isCredential⟩
      · exact ⟨_, sound.repositoryIssued, isRepository⟩
      · exact ⟨ref, sound.credentialIssued ref isRef, isCredential⟩
    obtain ⟨old, isOld, ownedOld, sameId, _, sameKey | inRing⟩ := (records new member ofKit.1).issued issued isRef
    · have knownOld := known old isOld ⟨ownedOld, by rw [sameId]; exact ofKit.2⟩
      rw [Known, sameKey]
      exact knownOld
    · exact inRing

/-- A secret that was found has an id that was issued, and is the only one that has it. -/
theorem found_issued {state : PolicyState} (sound : state.Sound buildKey) {record : SecretRecord} {ref policyId : UUID}
    {kind : String} (found : SecretStore.record state.secrets ref kind ownerType policyId = .ok record) :
    ref ∈ state.issued ∧ ∀ other ∈ state.secrets, other.id = ref.int → other = record := by
  obtain ⟨member, isRef, _, owned, _⟩ := record_eq_ok_iff.mp found
  refine ⟨?_, fun other isOther same => Table.eq_of_key_eq isOther member (same.trans isRef.symm)⟩
  obtain ⟨issued, isIssued, same⟩ := sound.issued record member owned
  rw [← UUID.eq_of_int (same.trans isRef)]
  exact isIssued

include lawful identified in
theorem kitSound_generated {world : KitWorld} (state : world.policyState.Sound buildKey) {policy : BackupPolicyRow}
    {retention : List (String × Int)} {resolved : ResolvedBackupPolicy} {bootstrap file : List Char}
    (member : policy ∈ world.policies)
    (resolves : BackupPolicyService.resolve (world.policyState.store buildKey) world.secrets policy retention = .ok resolved)
    (isBootstrap : bootstrapEnv library world.deployment = .ok bootstrap) :
    ∃ contents, KitSound buildKey library (world.generated policy bootstrap resolved file)
      { policy, deployment := world.deployment, bootstrap
        recovery := recoveryEnv resolved.repository resolved.password resolved.environment } contents := by
  obtain ⟨contents, repository, credentials, holds, repositoryKnown, credentialsKnown, rfl⟩ :=
    state.resolved lawful identified member resolves
  obtain ⟨ref, isRef, credentialsFound⟩ := holds.credentialsFound
  obtain ⟨repositoryIssued, onlyRepository⟩ := found_issued state holds.repositoryFound
  obtain ⟨credentialIssued, onlyCredentials⟩ := found_issued state credentialsFound
  have isOwn {other : UUID} (isOther : policy.credentialSecretRef = some other) : other = ref :=
    Option.some.inj (isOther.symm.trans isRef)
  refine ⟨contents, repositoryIssued, fun other isOther => isOwn isOther ▸ credentialIssued, ?_, isBootstrap, rfl, ?_, ?_,
    fun _ => ⟨.refl _ _, ?_⟩⟩
  · rw [isRef]
    rfl
  · intro record isRecord _ isRepository
    rw [onlyRepository record isRecord isRepository]
    exact holds.repositorySealed
  · intro record isRecord _ other isOther isCredential
    rw [onlyCredentials record isRecord (isOwn isOther ▸ isCredential)]
    exact holds.credentialsSealed
  · rintro record isRecord ⟨_, isRepository | ⟨other, isOther, isCredential⟩⟩
    · rw [onlyRepository record isRecord isRepository]
      exact repositoryKnown
    · rw [onlyCredentials record isRecord (isOwn isOther ▸ isCredential)]
      exact credentialsKnown

theorem sound_fresh (deployment : Deployment) : Sound buildKey library (.fresh deployment) where
  state := ZeroNvr.sound_fresh _
  kits _ _ isKit := nomatch isKit
  file _ isFile := nomatch isFile

include lawful identified in
theorem Sound.step {world world' : KitWorld} {event : KitEvent} (sound : Sound buildKey library world)
    (configures : Configures buildKey library world event) (step : KitStep buildKey urlsplit library world event world') :
    Sound buildKey library world' := by
  cases step with
  | @policies event state other step =>
    obtain ⟨grows, records⟩ := policyStep_records lawful identified sound.state step
    have sameSettings : state.settings = world.settings := by
      cases step with
      | configure => exact absurd rfl other
      | _ => rfl
    have sameState : (world.withPolicies state).policyState = state := by
      cases state
      cases sameSettings
      rfl
    refine ⟨?_, fun policyId kit isKit => ?_, sound.file⟩
    · rw [sameState]
      exact step.sound lawful identified sound.state
    · obtain ⟨isPolicy, contents, kitSound⟩ := sound.kits policyId kit isKit
      exact ⟨isPolicy, contents, kitSound.policies grows records⟩
  | configure deployment =>
    refine ⟨⟨sound.state.sealed, sound.state.issued, sound.state.owned⟩, fun policyId kit isKit => ?_, sound.file⟩
    obtain ⟨isPolicy, contents, kitSound⟩ := sound.kits policyId kit isKit
    exact ⟨isPolicy, contents, { kitSound with configured := configures policyId kit isKit }⟩
  | @generate policy retention resolved bootstrap passphrase salt nonce now file artifact member resolves isBootstrap made =>
    have lasts (other : UUID) : (world.generated policy bootstrap resolved file).last other =
        if other = policy.id then some
          { policy, deployment := world.deployment, bootstrap
            recovery := recoveryEnv resolved.repository resolved.password resolved.environment }
        else world.last other := Function.update_apply _ _ _ _
    refine ⟨sound.state, fun policyId kit isKit => ?_, fun text isText => ?_⟩
    · rw [lasts] at isKit
      split at isKit
      · next isPolicy =>
        cases isKit
        exact ⟨isPolicy.symm, kitSound_generated lawful identified sound.state member resolves isBootstrap⟩
      · obtain ⟨isPolicy, contents, kitSound⟩ := sound.kits policyId kit isKit
        exact ⟨isPolicy, contents, { kitSound with }⟩
    · cases isText
      obtain ⟨_, digest, _, _, isDigest, _, isFile, _⟩ := generate_ok made
      exact ⟨policy.id, _, now, world.deployment.settings.appVersion, digest, (lasts policy.id).trans (if_pos rfl), isFile,
        isDigest⟩

/-! ### The property -/

variable (buildKey library) in
/-- A kit that is generated now has the files of the last one. -/
structure Regenerates (world : KitWorld) (policy : BackupPolicyRow) (kit : LastKit) : Prop where
  bootstrap : bootstrapEnv library world.deployment = .ok kit.bootstrap
  recovery : ∀ retention, ∃ resolved,
    BackupPolicyService.resolve (world.policyState.store buildKey) world.secrets policy retention = .ok resolved ∧
      recoveryEnv resolved.repository resolved.password resolved.environment = kit.recovery
  generates : ∀ retention passphrase salt nonce now, 16 ≤ (utf8 passphrase.toList).length → ∃ file artifact digest,
    RecoveryKitService.generate library world.deployment
        (BackupPolicyService.resolve (world.policyState.store buildKey) world.secrets policy retention) policy passphrase
        salt nonce now = .ok (file, artifact) ∧
      artifact.content = sealed library passphrase salt nonce (payload now world.deployment.settings.appVersion policy.id
        digest (filesValue kit.bootstrap kit.recovery))

theorem regenerates_of_files {world : KitWorld} {policy : BackupPolicyRow} {kit : LastKit} {digest : String}
    (isDigest : fingerprint library world.deployment policy = .ok digest)
    (bootstrap : bootstrapEnv library world.deployment = .ok kit.bootstrap)
    (recovery : ∀ retention, ∃ resolved,
      BackupPolicyService.resolve (world.policyState.store buildKey) world.secrets policy retention = .ok resolved ∧
        recoveryEnv resolved.repository resolved.password resolved.environment = kit.recovery) :
    Regenerates buildKey library world policy kit := by
  refine ⟨bootstrap, recovery, fun retention passphrase salt nonce now long => ?_⟩
  obtain ⟨resolved, resolves, isRecovery⟩ := recovery retention
  rw [RecoveryKitService.generate, if_neg (Nat.not_lt.mpr long), resolves]
  simp only [bind, Except.bind, isDigest, bootstrap, isRecovery, RecoveryKitService.status, Except.map]
  exact ⟨_, _, digest, rfl, rfl⟩

variable (buildKey library) in
/-- What is `current` can be generated again. -/
def Faithful (world : KitWorld) : Prop :=
  ∀ policy ∈ world.policies, Current library world.deployment world.file policy →
    ∃ kit, world.last policy.id = some kit ∧ Regenerates buildKey library world policy kit

include lawful identified collisionFree in
theorem Sound.faithful {world : KitWorld} (sound : Sound buildKey library world) : Faithful buildKey library world := by
  intro policy member current
  cases isFile : world.file with
  | none =>
    rw [isFile] at current
    exact absurd current not_current_none
  | some text =>
    obtain ⟨policyId, kit, now, appVersion, digest, isKit, rfl, isDigest⟩ := sound.file text isFile
    rw [isFile, current_iff] at current
    obtain ⟨rfl, isOwn⟩ := current
    obtain ⟨isPolicy, contents, kitSound⟩ := sound.kits policy.id kit isKit
    obtain ⟨fingerprinted, sameRepository, sameCredentials⟩ := fingerprint_injective collisionFree isDigest isOwn
    obtain ⟨unfingerprinted, known⟩ := kitSound.configured fingerprinted
    refine ⟨kit, isKit, regenerates_of_files isOwn ?_ fun retention => ?_⟩
    · rw [← bootstrapEnv_congr fingerprinted unfingerprinted]
      exact kitSound.bootstrap
    · obtain ⟨ref, isRef⟩ := Option.isSome_iff_exists.mp kitSound.hasCredentials
      have isOwnRef : policy.credentialSecretRef = some ref := sameCredentials ▸ isRef
      have owned := sound.state.owned policy member
      obtain ⟨repository, repositoryFound⟩ := owned.repository
      obtain ⟨credentials, credentialsFound⟩ := owned.credentials ref isOwnRef
      obtain ⟨isRepository, repositoryId, _, repositoryOwner, _⟩ := record_eq_ok_iff.mp repositoryFound
      obtain ⟨isCredentials, credentialsId, _, credentialsOwner, _⟩ := record_eq_ok_iff.mp credentialsFound
      rw [← sameRepository] at repositoryId
      have holds : HoldsContents buildKey world.policyState.secrets policy contents repository credentials :=
        ⟨repositoryFound, kitSound.repository repository isRepository repositoryOwner repositoryId,
          ⟨ref, isOwnRef, credentialsFound⟩,
          kitSound.credentials credentials isCredentials credentialsOwner ref isRef credentialsId⟩
      refine ⟨_, holds.resolve lawful identified (known repository isRepository ⟨repositoryOwner, .inl repositoryId⟩)
        (known credentials isCredentials ⟨credentialsOwner, .inr ⟨ref, isRef, credentialsId⟩⟩) retention, ?_⟩
      exact kitSound.recovery

/-- In a run whose configurations keep what is not in the fingerprint while it is the same, a kit that is
    `current` would be generated as it was; and a kit is `current` after it was generated. -/
theorem recovery_status_faithful {deployment : Deployment}
    (lawful : ∀ key draw plaintext, cipher.decrypt key (cipher.encrypt key draw plaintext) = some plaintext)
    (identified : ∀ a b, (buildKey a).1 = (buildKey b).1 → (buildKey a).2 = (buildKey b).2)
    (collisionFree : ∀ a b, library.sha256 a = library.sha256 b → a = b) {events : List KitEvent} {world : KitWorld}
    (run : Run (fun world event world' => Configures buildKey library world event ∧
      KitStep buildKey urlsplit library world event world') (.fresh deployment) events world) :
    Faithful buildKey library world ∧
      ∀ policyId world', KitStep buildKey urlsplit library world (.generate policyId) world' →
        ∀ policy ∈ world'.policies, policy.id = policyId → Current library world'.deployment world'.file policy := by
  have sound : Sound buildKey library world :=
    @Run.invariant _ _ _ (Sound buildKey library) (fun _ _ _ kept step => kept.step lawful identified step.1 step.2) _ _ _
      run (sound_fresh deployment)
  refine ⟨sound.faithful lawful identified collisionFree, fun policyId world' step policy member isPolicy => ?_⟩
  cases step with
  | @generate made_ _ _ _ _ _ _ _ _ _ isRow _ _ made =>
    rw [Table.eq_of_key_eq member isRow isPolicy]
    exact current_of_generate made

end

/-! ## A kit whose realm changes -/

theorem plainLibrary_collisionFree (a b : Bytes) (same : plainLibrary.sha256 a = plainLibrary.sha256 b) : a = b := by
  have texts : Base64.encode a = Base64.encode b := String.ofList_injective same
  have decoded := Base64.decode_encode a
  rw [texts, Base64.decode_encode] at decoded
  exact (Option.some.inj decoded).symm

/-- A policy is made, and a kit for it. -/
theorem small_kitWorld : ∃ world policy kit,
    Run (fun world event world' => Configures plainKey plainLibrary world event ∧
        KitStep plainKey noCredentials plainLibrary world event world') (.fresh smallDeployment)
      [.policies .create, .generate policy.id] world ∧
      policy ∈ world.policies ∧ world.deployment = smallDeployment ∧ world.last policy.id = some kit ∧
      bootstrapEnv plainLibrary smallDeployment = .ok kit.bootstrap ∧
      Current plainLibrary smallDeployment world.file policy := by
  obtain ⟨s, policy, resolved, artifact, file, run, member, resolves, made, _⟩ := small_kit "secret" (by decide)
  obtain ⟨step, sameSettings⟩ : PolicyStep plainKey noCredentials (KitWorld.fresh smallDeployment).policyState .create s ∧
      s.settings = ⟨"key", []⟩ := by
    cases run with
    | next step rest =>
      cases rest
      refine ⟨step, ?_⟩
      cases step
      rfl
  have sameState : ((KitWorld.fresh smallDeployment).withPolicies s).policyState = s := by
    cases s
    cases sameSettings
    rfl
  have resolvesNow : BackupPolicyService.resolve
      (((KitWorld.fresh smallDeployment).withPolicies s).policyState.store plainKey) s.secrets policy [] = .ok resolved := by
    rw [sameState]
    exact resolves
  obtain ⟨_, digest, bootstrap, _, _, isBootstrap, _, _⟩ := generate_ok made
  exact ⟨((KitWorld.fresh smallDeployment).withPolicies s).generated policy bootstrap resolved file, policy, _,
    .next ⟨trivial, .policies (by decide) step⟩ <| .next ⟨trivial, .generate member resolvesNow isBootstrap made⟩ <|
      .done _, member, rfl, Function.update_self _ _ _, isBootstrap, current_of_generate made⟩

theorem recovery_status_faithful_small : ∃ world policy kit,
    Regenerates plainKey plainLibrary world policy kit ∧ Current plainLibrary world.deployment world.file policy := by
  obtain ⟨world, policy, kit, run, member, sameDeployment, isKit, _, current⟩ := small_kitWorld
  rw [← sameDeployment] at current
  obtain ⟨other, isOther, regenerates⟩ := (recovery_status_faithful (fun _ _ _ => rfl) (fun _ _ same => same)
    plainLibrary_collisionFree run).1 policy member current
  exact ⟨world, policy, other, regenerates, current⟩

def otherRealm : Deployment := { smallDeployment with settings := { smallDeployment.settings with turnRealm := "other" } }

/-- The realm is no part of the fingerprint: the kit is `current`, and would be generated otherwise. -/
theorem current_after_realm_change : ∃ events world,
    Run (KitStep plainKey noCredentials plainLibrary) (.fresh smallDeployment) events world ∧
      ¬Faithful plainKey plainLibrary world := by
  obtain ⟨world, policy, kit, run, member, _, isKit, isBootstrap, current⟩ := small_kitWorld
  refine ⟨_, { world with deployment := otherRealm },
    (Run.mono (fun _ _ _ step => step.2) run).append (.next (.configure world otherRealm) (.done _)), fun faithful => ?_⟩
  obtain ⟨other, isOther, regenerates⟩ := faithful policy member current
  cases isKit.symm.trans isOther
  have same : bootstrapEnv plainLibrary otherRealm = bootstrapEnv plainLibrary smallDeployment :=
    regenerates.bootstrap.trans isBootstrap.symm
  have differs : (bootstrapEnv plainLibrary otherRealm).toOption ≠ (bootstrapEnv plainLibrary smallDeployment).toOption := by
    decide +kernel
  exact differs (congrArg Except.toOption same)

end ZeroNvr.RecoveryStatus
