import ZeroNvr.Auth.Users
import ZeroNvr.Core.IsoFormat
import ZeroNvr.Core.SecretStore
import ZeroNvr.Core.UuidText
import ZeroNvr.Lib.Base64
import ZeroNvr.Notifications.Delivery

/-! # Password resets

A reset is stored with the hash of its token.  The token itself is derived from
the record and a deployment secret, when it is issued and again when it is
delivered.  The hash functions are parameters.
-/

namespace ZeroNvr

open Lib

/-- `hashlib.sha256(data).hexdigest()` and `hmac.new(key, message, sha256).digest()`. -/
structure ResetCrypto where
  sha256Hex : Bytes → String
  hmacSha256 : (key message : Bytes) → Bytes

structure PasswordResetIssue where
  userId : Uuid
  deliveryId : Uuid

structure AdminPasswordResetIssue where
  userId : Uuid
  token : String
  expiresAt : Int

/-- The whole `PasswordResetMail`. -/
structure ResetMail where
  recipient : String
  title : String
  body : String

namespace PasswordResetService

def resetContext : Bytes := utf8 "zero-nvr/password-reset/v1:".toList
def resetTtl : Int := seconds 1800
def requestThrottle : Int := seconds 60

/-! ## Tokens -/

/-- `int.to_bytes(count, "big")`. -/
def bigEndian (count n : Nat) : Bytes := (List.range count).map fun i => UInt8.ofNat (n / 256 ^ (count - 1 - i))

/-- `uuid.bytes`. -/
def uuidBytes (id : Uuid) : Bytes := bigEndian 16 id

def b64 (value : Bytes) : String := String.ofList (Base64.unpadded (Base64.encode value))

section Service

variable (crypto : ResetCrypto)

def hashToken (token : String) : String := crypto.sha256Hex (utf8 token.toList)

/-- `_token_for_key`; the seconds of the expiry are written in eight bytes with a sign. -/
def tokenForKey (id userId : Uuid) (expiresAt : Int) (key : String) : String :=
  let expires := expiresAt.tdiv 1000000
  let payload := uuidBytes id ++ uuidBytes userId ++ bigEndian 8 (expires % 2 ^ 64).toNat
  let signature := crypto.hmacSha256 (utf8 key.toList) (resetContext ++ payload)
  "znr1." ++ b64 (uuidBytes id) ++ "." ++ b64 signature

def keyValues (settings : SecretSettings) : List String := settings.secretKey :: settings.secretKeyPrevious

def tokenForRecord (settings : SecretSettings) (reset : PasswordResetToken) : Result String :=
  match (keyValues settings).find? fun key =>
      hashToken crypto (tokenForKey crypto reset.id reset.userId reset.expiresAt key) = reset.tokenHash with
  | some key => .ok (tokenForKey crypto reset.id reset.userId reset.expiresAt key)
  | none =>
    .error (apiError 409 "password_reset_token_unavailable" "Password reset token can no longer be reconstructed.")

def invalidToken : PyError := apiError 400 "password_reset_token_invalid" "Password reset token is invalid or expired."

/-! ## Issuing -/

/-- A token of the user that could still be used is used up. -/
def superseded (userId : Uuid) (now : Int) (reset : PasswordResetToken) : PasswordResetToken :=
  if reset.userId = userId ∧ reset.usedAt = none ∧ now < reset.expiresAt then { reset with usedAt := some now } else reset

/-- `_create_reset`; the hash of a token is unique. -/
def createReset (settings : SecretSettings) (uuid4 : Supply Uuid) (db : Database) (user : User) (createdBy : Option Uuid)
    (now : Int) : Result (Database × PasswordResetToken) :=
  let tokens := db.passwordResetTokens.mapRows (superseded user.id now) fun reset => by
    unfold superseded
    split <;> rfl
  let id := db.passwordResetTokens.newKey uuid4
  let expiresAt := now + resetTtl
  let reset : PasswordResetToken :=
    { id
      userId := user.id
      tokenHash := hashToken crypto (tokenForKey crypto id user.id expiresAt settings.secretKey)
      requestedAt := now
      expiresAt
      createdBy }
  if tokens.rows.any fun other => other.tokenHash = reset.tokenHash then .error .integrityError
  else
    match tokens.insert? reset with
    | none => .error .integrityError
    | some passwordResetTokens => .ok ({ db with passwordResetTokens }, reset)

def issueAdmin (settings : SecretSettings) (uuid4 : Supply Uuid) (db : Database) (user : User) (createdBy : Uuid)
    (now : Int) : Result (Database × AdminPasswordResetIssue) := do
  if !user.enabled then .error (apiError 409 "user_disabled" "Disabled user must be enabled before password reset.")
  else
    let (db, reset) ← createReset crypto settings uuid4 db user (some createdBy) now
    let token ← tokenForRecord crypto settings reset
    .ok (db, { userId := user.id, token, expiresAt := reset.expiresAt })

def securityEmailNamespace : String := "notifications.security_email"

/-- `security_email_target`; a number in place of a text is read as its digits. -/
def securityEmailTarget (db : Database) : Option NotificationTarget := do
  let row ← db.systemSettings.get? securityEmailNamespace
  let text ← match Dict.get row.valueJson "target_id" with
    | some (.str text) => some text
    | some (.int value) => some (toString value)
    | _ => none
  let id ← UUID.parse text.toList
  let target ← db.notificationTargets.get? id.int
  if target.kind = "smtp" then some target else none

def passwordResetTarget (db : Database) : Option NotificationTarget :=
  db.notificationTargets.first? fun target => target.enabled && NotificationTargetService.isPasswordResetTarget target

/-- The enabled user with a name or an email. -/
def identifiedUser (db : Database) (normalized : String) : Option User :=
  db.users.first? fun user =>
    user.enabled && (user.username = normalized || user.email.any fun email => lower email = lower normalized)

/-- `issue`; the clock is read for the throttle, and again when the reset is created. -/
def issue (settings : SecretSettings) (uuid4 : Supply Uuid) (db : Database) (identifier : String) (now later : Int) :
    Result (Database × Option PasswordResetIssue) :=
  let normalized := strip identifier
  if normalized = "" then .ok (db, none)
  else
    match identifiedUser db normalized with
    | none => .ok (db, none)
    | some user =>
      if user.email.all (· = "") then .ok (db, none)
      else
        let target := ((securityEmailTarget db).filter NotificationTarget.enabled).or (passwordResetTarget db)
        match target with
        | none => .ok (db, none)
        | some target =>
          if db.passwordResetTokens.rows.any fun reset => reset.userId = user.id ∧ now - requestThrottle ≤ reset.requestedAt then
            .ok (db, none)
          else do
            let (db, reset) ← createReset crypto settings uuid4 db user none later
            let delivery : NotificationDelivery :=
              { id := db.deliveries.newKey uuid4
                alertId := none
                purpose := "password_reset"
                notificationTargetId := target.id
                correlationId := some (UUID.text reset.id) }
            .ok ({ db with deliveries := db.deliveries.put delivery }, some { userId := user.id, deliveryId := delivery.id })

/-! ## Delivering -/

/-- `strftime("%Y-%m-%d %H:%M:%S UTC")`. -/
def expiryText (expiresAt : Int) : String :=
  let fields := Calendar.ofWall expiresAt
  String.ofList (IsoFormat.four fields.date.year ++ '-' :: IsoFormat.two fields.date.month ++ '-' ::
    IsoFormat.two fields.date.day ++ ' ' :: IsoFormat.two fields.hour ++ ':' :: IsoFormat.two fields.minute ++ ':' ::
    IsoFormat.two fields.second ++ " UTC".toList)

def deliveryMail (settings : SecretSettings) (db : Database) (correlationId : String) (now : Int) : Result ResetMail :=
  match UUID.parse correlationId.toList with
  | none => .error (apiError 409 "password_reset_delivery_invalid" "Password reset delivery is invalid.")
  | some resetId =>
    match db.passwordResetTokens.get? resetId.int with
    | none => .error invalidToken
    | some reset =>
      if reset.usedAt ≠ none ∨ reset.expiresAt ≤ now then .error invalidToken
      else
        match db.users.get? reset.userId with
        | none => .error invalidToken
        | some user =>
          if !user.enabled || user.email.all (· = "") then .error invalidToken
          else do
            let token ← tokenForRecord crypto settings reset
            .ok
              { recipient := user.email.getD ""
                title := "zero-nvr password reset"
                body :=
                  "A password reset was requested for your zero-nvr account.\n\nOne-time reset token:\n" ++ token ++
                    "\n\nThis token expires at " ++ expiryText reset.expiresAt ++
                    ".\nOpen zero-nvr, choose Forgot password, then paste the token.\n\n" ++
                    "If you did not request this reset, you can ignore this message." }

/-! ## Using a token -/

/-- A token of the user is used up. -/
def spent (userId : Uuid) (now : Int) (reset : PasswordResetToken) : PasswordResetToken :=
  if reset.userId = userId ∧ reset.usedAt = none then { reset with usedAt := some now } else reset

def consume (hash : String → String) (db : Database) (token newPassword : String) (now : Int) : Result (Database × User) :=
  let normalized := strip token
  if normalized = "" then .error invalidToken
  else
    match db.passwordResetTokens.first? fun reset => reset.tokenHash = hashToken crypto normalized with
    | none => .error invalidToken
    | some reset =>
      if reset.usedAt ≠ none ∨ reset.expiresAt ≤ now then .error invalidToken
      else
        match db.users.get? reset.userId with
        | none => .error invalidToken
        | some user =>
          if !user.enabled then .error invalidToken
          else
            let user := { user with passwordHash := some (hash newPassword) }
            .ok ({ db with
              users := db.users.put user
              userSessions := AuthAdminService.revokeSessions db.userSessions user.id now
              passwordResetTokens := db.passwordResetTokens.mapRows (spent user.id now) fun reset => by
                unfold spent
                split <;> rfl }, user)

end Service

/-! ## What an operation does -/

section Specs

variable {crypto : ResetCrypto} {settings : SecretSettings} {uuid4 : Supply Uuid} {db db' : Database} {user : User}

/-- The record that was created, beside the others, of which those of the user are used up. -/
theorem createReset_spec {createdBy : Option Uuid} {now : Int} {reset : PasswordResetToken}
    (done : createReset crypto settings uuid4 db user createdBy now = .ok (db', reset)) :
    reset.userId = user.id ∧ reset.usedAt = none ∧
      reset.tokenHash = hashToken crypto (tokenForKey crypto reset.id reset.userId reset.expiresAt settings.secretKey) ∧
      (∀ other ∈ db.passwordResetTokens, other.id ≠ reset.id ∧ other.tokenHash ≠ reset.tokenHash) ∧
      (∀ row, row ∈ db'.passwordResetTokens ↔
        row = reset ∨ ∃ old ∈ db.passwordResetTokens, superseded user.id now old = row) ∧
      db'.users = db.users ∧ db'.userSessions = db.userSessions := by
  have same (old : PasswordResetToken) : (superseded user.id now old).tokenHash = old.tokenHash := by
    unfold superseded
    split <;> rfl
  unfold createReset at done
  dsimp only at done
  split at done
  · cases done
  next unused =>
  split at done
  · cases done
  next tokens inserted =>
  cases done
  refine ⟨rfl, rfl, rfl, fun other member => ⟨Table.newKey_fresh _ _ member, fun clash => unused ?_⟩, fun row => ?_, rfl, rfl⟩
  · rw [List.any_eq_true]
    exact ⟨_, Table.mem_mapRows.mpr ⟨other, member, rfl⟩, decide_eq_true ((same other).trans clash)⟩
  · refine (Table.mem_insert? inserted).trans ?_
    rw [Table.mem_mapRows]
    exact or_comm

/-- What `consume` found and what it did. -/
theorem consume_spec {hash : String → String} {token newPassword : String} {now : Int}
    (done : consume crypto hash db token newPassword now = .ok (db', user)) :
    ∃ reset ∈ db.passwordResetTokens, reset.tokenHash = hashToken crypto (strip token) ∧ reset.usedAt = none ∧
      now < reset.expiresAt ∧ reset.userId = user.id ∧ user.enabled = true ∧
      (∀ row, row ∈ db'.passwordResetTokens ↔ ∃ old ∈ db.passwordResetTokens, spent user.id now old = row) ∧
      db'.userSessions = AuthAdminService.revokeSessions db.userSessions user.id now := by
  unfold consume at done
  dsimp only at done
  split at done
  · cases done
  split at done
  · cases done
  next reset found =>
  split at done
  · cases done
  next live =>
  split at done
  · cases done
  next holder foundUser =>
  split at done
  · cases done
  next enabled =>
  cases done
  obtain ⟨unused, unexpired⟩ := not_or.mp live
  obtain ⟨member, hashed⟩ := Table.mem_of_first? found
  have isHolder : holder.id = reset.userId := Table.key_of_get? foundUser
  refine ⟨reset, member, of_decide_eq_true hashed, not_not.mp unused, not_le.mp unexpired, isHolder.symm,
    by simpa using enabled, fun row => ?_, rfl⟩
  exact @Table.mem_mapRows _ _ _ _ _ (fun old => by unfold spent; split <;> rfl) row

theorem hashToken_injective (injective : Function.Injective crypto.sha256Hex) : Function.Injective (hashToken crypto) := by
  intro token other same
  exact String.toList_inj.mp (utf8_injective (injective same))

/-- The key that a record was issued with leads back to its token, whichever other keys are configured. -/
theorem tokenForRecord_of_key (injective : Function.Injective crypto.sha256Hex) {reset : PasswordResetToken} {key : String}
    (configured : key ∈ keyValues settings)
    (hashed : reset.tokenHash = hashToken crypto (tokenForKey crypto reset.id reset.userId reset.expiresAt key)) :
    tokenForRecord crypto settings reset = .ok (tokenForKey crypto reset.id reset.userId reset.expiresAt key) := by
  unfold tokenForRecord
  split
  · next other found =>
    have matched : hashToken crypto (tokenForKey crypto reset.id reset.userId reset.expiresAt other) = reset.tokenHash := by
      simpa using List.find?_some found
    rw [hashToken_injective injective (matched.trans hashed)]
  · next missing =>
    have differs := List.find?_eq_none.mp missing key configured
    exact absurd (decide_eq_true hashed.symm) differs

end Specs

end PasswordResetService

end ZeroNvr
