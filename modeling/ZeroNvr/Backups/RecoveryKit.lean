import ZeroNvr.Backups.Policies

/-! # Recovery kits

`RecoveryKitService`: the two files that a clean host is set up from, the encrypted
package they travel in, and the status that tells whether the last package is still
good.  The database URL parser, the hash, the key derivation and the cipher are
parameters.
-/

namespace ZeroNvr

open JsonText (Value write ascii unicode sortKeys loads)
open Lib
open Pagination (Timestamp)

structure KitSettings where
  appVersion : String
  environment : String
  secretKey : String
  secretKeyPrevious : List String
  databaseUrl : Option String
  sessionCookieSecure : Bool
  zlmPublicBaseUrl : String
  zlmApiSecret : Option String
  zlmHookSecret : Option String
  turnEnabled : Bool
  turnUrls : String
  turnPublicHost : Option String
  turnPort : Int
  turnSharedSecret : Option String
  turnRealm : String

/-- The settings, the variables and the readable files of the process. -/
structure Deployment where
  settings : KitSettings
  environ : String → Option String
  readText : String → Option String

structure DatabaseUrl where
  backendName : String
  username : Option String
  password : Option String
  host : Option String
  database : Option String

/-- What the kit takes from libraries; `sha256` gives the hexadecimal digest. -/
structure KitLibrary where
  makeUrl : String → Result DatabaseUrl
  sha256 : Bytes → String
  scrypt : (passphrase salt : Bytes) → Bytes
  encrypt : (key nonce plaintext associated : Bytes) → Bytes
  decrypt : (key nonce ciphertext associated : Bytes) → Option Bytes

inductive RecoveryKitState where
  | neverGenerated
  | current
  | stale
  deriving DecidableEq

structure RecoveryKitStatus where
  status : RecoveryKitState
  policyId : UUID
  generatedAt : Option (Calendar.DateTime × Option Int)
  appVersion : String
  fingerprint : String

structure RecoveryKitArtifact where
  content : Bytes
  generatedAt : Timestamp
  status : RecoveryKitStatus

namespace RecoveryKitService

def bootstrapIncomplete (message : String) : PyError := apiError 409 "recovery_kit_bootstrap_incomplete" message

/-! ## The files -/

def secretValue (value : Option String) : String := value.getD ""

/-- `os.environ.get(key, fallback)`. -/
def environGet (deployment : Deployment) (key fallback : String) : String := (deployment.environ key).getD fallback

/-- `value or fallback`. -/
def orText (value : Option String) (fallback : String) : String :=
  match value with
  | some text => if text = "" then fallback else text
  | none => fallback

def runtimeProtectedEnv (deployment : Deployment) (key : String) : Result String :=
  let direct := environGet deployment key ""
  let fileValue := environGet deployment (key ++ "_FILE") ""
  if direct ≠ "" ∧ fileValue ≠ "" then
    .error (bootstrapIncomplete ("Recovery bootstrap configures both " ++ key ++ " and " ++ key ++ "_FILE."))
  else if direct ≠ "" then .ok direct
  else if fileValue = "" then .ok ""
  else
    match deployment.readText fileValue with
    | none => .error (bootstrapIncomplete ("Recovery bootstrap file for " ++ key ++ " is unavailable."))
    | some text =>
      let value := text.toList.rdropWhile fun c => c = '\r' ∨ c = '\n'
      if value = [] ∨ '\n' ∈ value ∨ '\r' ∈ value then
        .error (bootstrapIncomplete ("Recovery bootstrap file for " ++ key ++ " must contain one non-empty line."))
      else .ok (String.ofList value)

/-- `KEY="value"`. -/
def dotenvLine (key value : String) : List Char := key.toList ++ '=' :: unicode.quoted value

/-- The names between the commas of `COMPOSE_PROFILES`. -/
def profilesOf (text : String) : List String :=
  ((text.toList.splitOn ',').map fun item => strip (String.ofList item)).filter (· ≠ "")

def flag (value : Bool) : String := if value then "true" else "false"

section
variable (library : KitLibrary) (deployment : Deployment)

/-- `parsed.password or self._runtime_protected_env(...)`. -/
def postgresPassword (parsed : DatabaseUrl) : Result String :=
  if orText parsed.password "" = "" then runtimeProtectedEnv deployment "ZERO_NVR_POSTGRES_PASSWORD"
  else .ok (orText parsed.password "")

/-- The profiles with those that a managed database adds, and its values. -/
def postgresValues (profiles : List String) : Result (List String × List (String × String)) := do
  let databaseUrl := deployment.settings.databaseUrl.getD ""
  if databaseUrl = "" then .ok (profiles, [])
  else
    let parsed ← library.makeUrl databaseUrl
    if parsed.backendName = "postgresql" ∧ parsed.host = some "postgres" then
      let profiles := if "postgres" ∈ profiles then profiles else profiles ++ ["postgres"]
      let password ← postgresPassword deployment parsed
      if password = "" then
        .error (bootstrapIncomplete "Managed PostgreSQL is active but its bootstrap password is unavailable.")
      else
        .ok (profiles,
          [("ZERO_NVR_POSTGRES_DB", orText parsed.database (environGet deployment "ZERO_NVR_POSTGRES_DB" "zero_nvr")),
            ("ZERO_NVR_POSTGRES_USER", orText parsed.username (environGet deployment "ZERO_NVR_POSTGRES_USER" "zero_nvr")),
            ("ZERO_NVR_POSTGRES_PASSWORD", password),
            ("ZERO_NVR_POSTGRES_PASSWORD_FILE", "")])
    else .ok (profiles, [])

def mqttValues (profiles : List String) : Result (List (String × String)) := do
  if "mqtt" ∈ profiles then
    let password ← runtimeProtectedEnv deployment "ZERO_NVR_MQTT_PASSWORD"
    if password = "" then
      .error (bootstrapIncomplete "Managed MQTT is enabled but its bootstrap password is unavailable.")
    else
      .ok [("ZERO_NVR_MQTT_USERNAME", environGet deployment "ZERO_NVR_MQTT_USERNAME" "zero-nvr"),
        ("ZERO_NVR_MQTT_PASSWORD", password),
        ("ZERO_NVR_MQTT_PASSWORD_FILE", "")]
  else .ok []

/-- The values that every kit exports. -/
def baseValues (profiles : List String) : List (String × String) :=
  let settings := deployment.settings
  [("ZERO_NVR_DATA_PATH", environGet deployment "ZERO_NVR_DATA_PATH" "./data/zero-nvr"),
    ("ZERO_NVR_CACHE_PATH", environGet deployment "ZERO_NVR_CACHE_PATH" "./data/cache"),
    ("ZERO_NVR_RECORDINGS_PATH", environGet deployment "ZERO_NVR_RECORDINGS_PATH" "./data/recordings"),
    ("ZERO_NVR_SECRET_KEY", settings.secretKey),
    ("ZERO_NVR_SECRET_KEY_FILE", ""),
    ("ZERO_NVR_ZLM_API_SECRET", secretValue settings.zlmApiSecret),
    ("ZERO_NVR_ZLM_API_SECRET_FILE", ""),
    ("ZERO_NVR_ZLM_HOOK_SECRET", secretValue settings.zlmHookSecret),
    ("ZERO_NVR_ZLM_HOOK_SECRET_FILE", ""),
    ("ZERO_NVR_ENVIRONMENT", settings.environment),
    ("ZERO_NVR_SESSION_COOKIE_SECURE", flag settings.sessionCookieSecure),
    ("ZERO_NVR_ZLM_PUBLIC_BASE_URL", settings.zlmPublicBaseUrl),
    ("ZERO_NVR_TURN_ENABLED", flag settings.turnEnabled),
    ("ZERO_NVR_TURN_URLS", settings.turnUrls),
    ("ZERO_NVR_TURN_PUBLIC_HOST", settings.turnPublicHost.getD ""),
    ("ZERO_NVR_TURN_PORT", toString settings.turnPort),
    ("ZERO_NVR_TURN_SHARED_SECRET", secretValue settings.turnSharedSecret),
    ("ZERO_NVR_TURN_SHARED_SECRET_FILE", ""),
    ("ZERO_NVR_TURN_REALM", settings.turnRealm),
    ("ZERO_NVR_DATABASE_URL", settings.databaseUrl.getD ""),
    ("ZERO_NVR_PREBUFFER_SIZE", environGet deployment "ZERO_NVR_PREBUFFER_SIZE" "512m"),
    ("COMPOSE_PROFILES", ",".intercalate profiles)]

/-- The values of `zero-nvr.env` that are written in quotes. -/
def bootstrapValues : Result (List (String × String)) := do
  let settings := deployment.settings
  if (utf8 (secretValue settings.zlmApiSecret).toList).length < 32 ∨
      (utf8 (secretValue settings.zlmHookSecret).toList).length < 32 then
    .error (bootstrapIncomplete
      "RecoveryKit generation requires the active ZLMediaKit API and hook bootstrap secrets.")
  else
    let profiles := profilesOf (environGet deployment "COMPOSE_PROFILES" "")
    let profiles := if settings.turnEnabled ∧ "turn" ∉ profiles then profiles ++ ["turn"] else profiles
    let (profiles, postgres) ← postgresValues library deployment profiles
    let mqtt ← mqttValues deployment profiles
    .ok (baseValues deployment profiles ++ mqtt ++ postgres)

def bootstrapComment : List Char := "# zero-nvr RecoveryKit minimal clean-host bootstrap".toList

def previousKey : String := "ZERO_NVR_SECRET_KEY_PREVIOUS"

/-- The previous keys, as a JSON array that no quotes stand around. -/
def previousValue (previous : List String) : List Char := write unicode (.arr (previous.map .str))

def unlines (lines : List (List Char)) : List Char := lines.flatMap (· ++ ['\n'])

def bootstrapText (values : List (String × String)) (previous : List String) : List Char :=
  unlines (bootstrapComment :: (values.map fun (key, value) => dotenvLine key value) ++
    [previousKey.toList ++ '=' :: previousValue previous])

/-- `_bootstrap_env`. -/
def bootstrapEnv : Result (List Char) :=
  (bootstrapValues library deployment).map fun values => bootstrapText values deployment.settings.secretKeyPrevious

end

def recoveryComment : List Char := "# zero-nvr RecoveryKit restic bootstrap".toList

/-- The variables of `recovery.env`, in the order of its lines. -/
def recoveryValues (repository password : String) (environment : List (String × String)) : List (String × String) :=
  ("RESTIC_REPOSITORY", repository) :: ("RESTIC_PASSWORD", password) ::
    environment.insertionSort fun a b => a.1 ≤ b.1

/-- `_recovery_env`. -/
def recoveryEnv (repository password : String) (environment : List (String × String)) : List Char :=
  unlines (recoveryComment :: (recoveryValues repository password environment).map fun (key, value) => dotenvLine key value)

/-! ## The fingerprint -/

def uuidValue (id : UUID) : Value := .str (String.ofList id.str)
def isoValue (timestamp : Timestamp) : Value :=
  .str (String.ofList (IsoFormat.isoformat (Calendar.ofWall timestamp.instant)))

section
variable (library : KitLibrary) (deployment : Deployment)

/-- The secrets of the deployment, in the order in which they are hashed. -/
def secretValues : Result (List String) := do
  let settings := deployment.settings
  let mqtt ← runtimeProtectedEnv deployment "ZERO_NVR_MQTT_PASSWORD"
  let postgres ← runtimeProtectedEnv deployment "ZERO_NVR_POSTGRES_PASSWORD"
  .ok (settings.secretKey :: settings.secretKeyPrevious ++
    [secretValue settings.zlmApiSecret, secretValue settings.zlmHookSecret, secretValue settings.turnSharedSecret,
      mqtt, postgres])

def deploymentPaths : Value :=
  .obj [("ZERO_NVR_DATA_PATH", .str (environGet deployment "ZERO_NVR_DATA_PATH" "./data/zero-nvr")),
    ("ZERO_NVR_CACHE_PATH", .str (environGet deployment "ZERO_NVR_CACHE_PATH" "./data/cache")),
    ("ZERO_NVR_RECORDINGS_PATH", .str (environGet deployment "ZERO_NVR_RECORDINGS_PATH" "./data/recordings"))]

def material (policy : BackupPolicyRow) (secrets : List String) : Value :=
  .obj [("app_version", .str deployment.settings.appVersion),
    ("database_url", .str (deployment.settings.databaseUrl.getD "")),
    ("compose_profiles", .str (environGet deployment "COMPOSE_PROFILES" "")),
    ("deployment_paths", deploymentPaths deployment),
    ("policy_id", uuidValue policy.id),
    ("policy_updated_at", isoValue policy.updatedAt),
    ("repository_config_ref", uuidValue policy.repositoryConfigRef),
    ("credential_secret_ref", (policy.credentialSecretRef.map uuidValue).getD .null),
    ("bootstrap_secret_hashes", .arr (secrets.map fun value => .str (library.sha256 (utf8 value.toList))))]

/-- `_fingerprint`. -/
def fingerprint (policy : BackupPolicyRow) : Result String :=
  (secretValues deployment).map fun secrets =>
    library.sha256 (utf8 (write ascii (sortKeys (material library deployment policy secrets))))

end

/-! ## The status -/

/-- What `_write_status` leaves in the status file. -/
def statusText (policyId : UUID) (generatedAt : Timestamp) (appVersion fingerprint : String) : List Char :=
  write ascii (sortKeys (.obj [("version", .int 1), ("policy_id", uuidValue policyId), ("generated_at", isoValue generatedAt),
    ("app_version", .str appVersion), ("fingerprint", .str fingerprint)])) ++ ['\n']

def readStatus (file : Option (List Char)) : Option (List (String × Value)) :=
  match file.bind loads with
  | some (.obj fields) => some fields
  | _ => none

/-- `str(value)` of a text or a whole number; the text of any other value is neither a UUID nor a
    timestamp nor a digest. -/
def valueText : Value → List Char
  | .str text => text.toList
  | .int value => (toString value).toList
  | _ => []

/-- The policy, the time and the fingerprint that a status file names. -/
def parseState (state : List (String × Value)) : Option (UUID × (Calendar.DateTime × Option Int) × List Char) := do
  let policyId ← UUID.parse (valueText (← Value.field? state "policy_id"))
  let generatedAt ← IsoFormat.fromisoformat (valueText (← Value.field? state "generated_at"))
  let fingerprint ← Value.field? state "fingerprint"
  some (policyId, generatedAt, valueText fingerprint)

def status (library : KitLibrary) (deployment : Deployment) (file : Option (List Char)) (policy : BackupPolicyRow) :
    Result RecoveryKitStatus :=
  (fingerprint library deployment policy).map fun fingerprint =>
    let appVersion := deployment.settings.appVersion
    match (readStatus file).bind parseState with
    | none => { status := .neverGenerated, policyId := policy.id, generatedAt := none, appVersion, fingerprint }
    | some (policyId, generatedAt, stateFingerprint) =>
      { status := if policyId = policy.id ∧ stateFingerprint = fingerprint.toList then .current else .stale
        policyId := policy.id
        generatedAt := some generatedAt
        appVersion, fingerprint }

/-! ## The package -/

def associated : Bytes := utf8 "zero-nvr/recovery-kit/v1".toList
def kitFormat : String := "zero-nvr.recovery-kit.encrypted"
def payloadFormat : String := "zero-nvr.recovery-kit"

def readme : String :=
  "zero-nvr encrypted RecoveryKit\n==============================\n\nDecrypt this package with the RecoveryKit passphrase, then copy zero-nvr.env to .env and recovery.env to deploy/recovery.env.\nRun ./deploy.sh restore list before choosing a restore point.\nKeep this package and its passphrase off-host and in separate protected locations.\n"

def filesValue (bootstrap recovery : List Char) : Value :=
  .obj [("zero-nvr.env", .str (String.ofList bootstrap)), ("recovery.env", .str (String.ofList recovery)),
    ("README.txt", .str readme)]

def payload (generatedAt : Timestamp) (appVersion : String) (policyId : UUID) (fingerprint : String) (files : Value) :
    Value :=
  .obj [("format", .str payloadFormat), ("version", .int 1), ("generated_at", isoValue generatedAt),
    ("app_version", .str appVersion), ("policy_id", uuidValue policyId), ("fingerprint", .str fingerprint),
    ("files", files)]

def base64Value (bytes : Bytes) : Value := .str (String.ofList (Base64.encode bytes))

def envelope (salt nonce ciphertext : Bytes) : Value :=
  .obj [("format", .str kitFormat), ("version", .int 1),
    ("kdf", .obj [("name", .str "scrypt"), ("salt", base64Value salt), ("n", .int 16384), ("r", .int 8), ("p", .int 1)]),
    ("cipher", .obj [("name", .str "AES-256-GCM"), ("nonce", base64Value nonce), ("ciphertext", base64Value ciphertext)])]

section
variable (library : KitLibrary)

/-- The bytes of a package. -/
def sealed (passphrase : String) (salt nonce : Bytes) (payload : Value) : Bytes :=
  let plaintext := utf8 (write ascii (sortKeys payload))
  let key := library.scrypt (utf8 passphrase.toList) salt
  utf8 (write ascii (sortKeys (envelope salt nonce (library.encrypt key nonce plaintext associated))) ++ ['\n'])

/-- The status file as the call leaves it, and the package.  `resolved` is what
    `BackupPolicyService.resolve` answers. -/
def generate (deployment : Deployment) (resolved : Result ResolvedBackupPolicy) (policy : BackupPolicyRow)
    (passphrase : String) (salt nonce : Bytes) (now : Timestamp) : Result (List Char × RecoveryKitArtifact) :=
  if (utf8 passphrase.toList).length < 16 then
    .error (apiError 400 "recovery_kit_passphrase_too_short" "RecoveryKit passphrase must be at least 16 bytes.")
  else do
    let resolved ← resolved
    let fingerprint ← fingerprint library deployment policy
    let bootstrap ← bootstrapEnv library deployment
    let recovery := recoveryEnv resolved.repository resolved.password resolved.environment
    let appVersion := deployment.settings.appVersion
    let content := sealed library passphrase salt nonce
      (payload now appVersion policy.id fingerprint (filesValue bootstrap recovery))
    let file := statusText policy.id now appVersion fingerprint
    let status ← status library deployment (some file) policy
    .ok (file, { content, generatedAt := now, status })

/-- `bytes.decode("utf-8")`. -/
def decodeUtf8 (bytes : Bytes) : Result (List Char) :=
  match bytes.toByteArray.utf8Decode? with
  | none => .error (.valueError "invalid UTF-8")
  | some text => .ok text.toList

/-- `json.loads` of an object, which is used through `get`. -/
def loadsDict (text : List Char) : Result (List (String × Value)) :=
  match loads text with
  | none => .error (.valueError "invalid JSON")
  | some (.obj fields) => .ok fields
  | some _ => .error (.attributeError "object has no attribute 'get'")

/-- `dict[key]`, for a value of a kind. -/
def member {α : Type} (fields : List (String × Value)) (key : String) (kind : Value → Option α) : Result α :=
  match Value.field? fields key with
  | none => .error (.keyError key)
  | some value =>
    match kind value with
    | none => .error (.typeError "argument of the wrong type")
    | some value => .ok value

def asObject : Value → Option (List (String × Value))
  | .obj fields => some fields
  | _ => none

def asText : Value → Option String
  | .str text => some text
  | _ => none

/-- `fields.get(key) == text`. -/
def hasText (fields : List (String × Value)) (key text : String) : Bool :=
  (Value.field? fields key).bind asText = some text

/-- `fields.get("version") == 1`. -/
def versionOne (fields : List (String × Value)) : Bool :=
  match Value.field? fields "version" with
  | some (.int value) => value = 1
  | some (.bool value) => value
  | _ => false

def urlsafeB64decode (text : String) : Result Bytes :=
  if ¬text.toList.all isAscii then .error (.valueError "string argument should contain only ASCII characters")
  else
    match Base64.decode text.toList with
    | none => .error (.valueError "Incorrect padding")
    | some bytes => .ok bytes

/-- The payload of a package. -/
def decrypt (content : Bytes) (passphrase : String) : Result (List (String × Value)) := do
  let text ← decodeUtf8 content
  let envelope ← loadsDict text
  if ¬hasText envelope "format" kitFormat ∨ ¬versionOne envelope then .error (.valueError "unsupported RecoveryKit format")
  else
    let kdf ← member envelope "kdf" asObject
    let cipher ← member envelope "cipher" asObject
    if ¬hasText kdf "name" "scrypt" ∨ ¬hasText cipher "name" "AES-256-GCM" then
      .error (.valueError "unsupported RecoveryKit crypto")
    else
      let salt ← urlsafeB64decode (← member kdf "salt" asText)
      let nonce ← urlsafeB64decode (← member cipher "nonce" asText)
      let ciphertext ← urlsafeB64decode (← member cipher "ciphertext" asText)
      let key := library.scrypt (utf8 passphrase.toList) salt
      match library.decrypt key nonce ciphertext associated with
      | none => .error (.valueError "InvalidTag")
      | some plaintext =>
        let text ← decodeUtf8 plaintext
        let payload ← loadsDict text
        if ¬hasText payload "format" payloadFormat ∨ ¬versionOne payload then
          .error (.valueError "unsupported RecoveryKit payload")
        else .ok payload

def allowedFiles : List String := ["README.txt", "recovery.env", "zero-nvr.env"]

/-- The files that `extract` writes into a directory, of which `present` tells the names that are
    there. -/
def extract (content : Bytes) (passphrase : String) (present : String → Bool) (overwrite : Bool) :
    Result (List (String × String)) := do
  let payload ← decrypt library content passphrase
  match (Value.field? payload "files").bind BackupPolicyService.textFields with
  | none => .error (.valueError "RecoveryKit payload files are invalid")
  | some files =>
    if ¬(files.all fun file => file.1 ∈ allowedFiles) ∨ ¬(allowedFiles.all fun name => (files.lookup name).isSome) then
      .error (.valueError "RecoveryKit payload files are invalid")
    else if ¬overwrite ∧ allowedFiles.any present then .error .osError
    else .ok (allowedFiles.map fun name => (name, (files.lookup name).getD ""))

end

end RecoveryKitService

end ZeroNvr
