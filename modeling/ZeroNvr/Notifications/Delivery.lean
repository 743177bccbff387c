import ZeroNvr.Core.Errors
import ZeroNvr.Core.Time
import ZeroNvr.Lib.Outcome
import ZeroNvr.Models

/-! # Delivering notifications

An execution of a delivery prepares it in one transaction, sends it without one, and
writes down in another whether it was sent.  Titles and bodies are left out.
-/

namespace ZeroNvr

open Lib

structure ResolvedSmtpTarget where
  host : String
  port : Int
  security : String
  fromAddress : String
  fromName : Option String
  username : Option String
  password : Option String

structure PasswordResetMail where
  recipient : String

structure NotificationPlan where
  deliveryId : Uuid
  targetId : Uuid
  targetKind : String
  purpose : String
  correlationId : Option String
  notifyType : String := "info"
  url : Option String := none
  smtp : Option ResolvedSmtpTarget := none

structure NotificationResult where
  deliveryId : Uuid
  state : DeliveryState
  delivered : Bool

/-- What the service takes from the secret store, from the password resets and from the text of URLs. -/
structure NotificationEnv where
  secretUrl : Database → NotificationTarget → Result String
  smtpServer : Database → NotificationTarget → Result ResolvedSmtpTarget
  deliveryMail : Database → String → Result PasswordResetMail
  passwordResetRecipientUrl : String → String → Result String

namespace NotificationTargetService

variable (env : NotificationEnv)

def isPasswordResetTarget (target : NotificationTarget) : Bool :=
  Dict.get target.configJson "password_reset" == some (.bool true)

/-- A stored configuration holds it as text. -/
def notifyType (target : NotificationTarget) : String :=
  match Dict.get target.configJson "notify_type" with
  | some (.str text) => text
  | _ => "info"

def resolve (db : Database) (target : NotificationTarget) : Result String :=
  if target.kind ≠ "apprise" then
    .error (apiError 409 "notification_delivery_not_supported"
      "SMTP delivery is configured but not available in this release step.")
  else if ¬ target.enabled then
    .error (apiError 409 "notification_target_disabled" "Notification target is disabled.")
  else env.secretUrl db target

def resolveSmtp (db : Database) (target : NotificationTarget) : Result ResolvedSmtpTarget :=
  if target.kind ≠ "smtp" then
    .error (apiError 409 "notification_delivery_not_supported" "Notification target is not SMTP.")
  else if ¬ target.enabled then
    .error (apiError 409 "notification_target_disabled" "Notification target is disabled.")
  else env.smtpServer db target

end NotificationTargetService

namespace NotificationDeliveryService

variable (env : NotificationEnv)

/-- The time after which a delivery in progress may be taken up again. -/
def staleAfter : Int := seconds 300

/-- What an execution goes on with: a plan, or the result it ends with. -/
inductive Prepared where
  | plan (plan : NotificationPlan)
  | result (result : NotificationResult)

def notFound (message : String) : PyError := apiError 404 "notification_delivery_not_found" message

/-- The target of the delivery, as it is to be used. -/
def resolvedPlan (db : Database) (delivery : NotificationDelivery) (target : NotificationTarget) :
    Result NotificationPlan :=
  let plan : NotificationPlan :=
    { deliveryId := delivery.id, targetId := target.id, targetKind := target.kind, purpose := delivery.purpose
      correlationId := delivery.correlationId }
  if target.kind = "smtp" then do
    let smtp ← NotificationTargetService.resolveSmtp env db target
    .ok { plan with smtp := some smtp }
  else do
    let url ← NotificationTargetService.resolve env db target
    .ok { plan with url := some url, notifyType := NotificationTargetService.notifyType target }

def busy (delivery : NotificationDelivery) (now : Int) : Bool :=
  delivery.state = .sending ∧ delivery.lastAttemptAt.any fun last => now - staleAfter < last

def cannotReset (delivery : NotificationDelivery) (target : NotificationTarget) : Bool :=
  delivery.purpose = "password_reset" ∧
    ¬ (target.kind = "smtp" ∨ (target.kind = "apprise" ∧ NotificationTargetService.isPasswordResetTarget target))

/-- The delivery ends without an attempt. -/
def ending (delivery : NotificationDelivery) (state : DeliveryState) (code : String) (now : Int) : NotificationDelivery :=
  { delivery with state, lastAttemptAt := some now, lastErrorCode := some code }

/-- The delivery is in progress. -/
def sending (delivery : NotificationDelivery) (now : Int) : NotificationDelivery :=
  { delivery with
    state := .sending, attemptCount := delivery.attemptCount + 1, lastAttemptAt := some now, lastErrorCode := none }

def prepare (db : Database) (deliveryId : Uuid) (now : Int) : Result (Database × Prepared) :=
  match db.deliveries.get? deliveryId with
  | none => .error (notFound "Notification delivery was not found.")
  | some delivery =>
    let ended (state : DeliveryState) : Prepared := .result ⟨delivery.id, state, false⟩
    let ends (state : DeliveryState) (code : String) : Database × Prepared :=
      ({ db with deliveries := db.deliveries.modify deliveryId fun delivery => ending delivery state code now },
        ended state)
    if delivery.state = .sent then .ok (db, ended .sent)
    else if delivery.state = .skipped then .ok (db, ended .skipped)
    else match (db.notificationTargets.get? delivery.notificationTargetId).filter NotificationTarget.enabled with
    | none => .ok (ends .skipped "notification_target_unavailable")
    | some target =>
      if busy delivery now then
        .error (apiError 409 "notification_delivery_busy" "Notification delivery is already in progress.")
      else if cannotReset delivery target then .ok (ends .failed "password_reset_target_unavailable")
      else match resolvedPlan env db delivery target with
      | .ok plan =>
        .ok ({ db with deliveries := db.deliveries.modify deliveryId fun delivery => sending delivery now }, .plan plan)
      | .error (.api error) => .ok (ends .failed error.code)
      | .error failure => .error failure

def markFailed (db : Database) (deliveryId : Uuid) (errorCode : String) (now : Int) : Database :=
  { db with deliveries := db.deliveries.modify deliveryId fun delivery => ending delivery .failed errorCode now }

def sentNow (delivery : NotificationDelivery) (now : Int) : NotificationDelivery :=
  { delivery with state := .sent, sentAt := some now, lastAttemptAt := some now, lastErrorCode := none }

def markSent (db : Database) (deliveryId : Uuid) (now : Int) : Result Database :=
  match db.deliveries.get? deliveryId with
  | none => .error (notFound "Notification delivery disappeared after send.")
  | some _ =>
    .ok { db with deliveries := db.deliveries.modify deliveryId fun delivery => sentNow delivery now }

/-! ## Sending -/

/-- Whom the mail of a password reset goes to. -/
structure Addressed where
  url : Option String
  recipient : Option String := none

def address (db : Database) (plan : NotificationPlan) : Result Addressed :=
  if plan.purpose ≠ "password_reset" then .ok { url := plan.url }
  else match plan.correlationId with
  | none => .error (apiError 409 "password_reset_delivery_invalid" "Password reset delivery is invalid.")
  | some correlationId =>
    if correlationId = "" then
      .error (apiError 409 "password_reset_delivery_invalid" "Password reset delivery is invalid.")
    else do
      let mail ← env.deliveryMail db correlationId
      if plan.targetKind ≠ "apprise" then .ok { url := plan.url, recipient := some mail.recipient }
      else match plan.url with
      | none => .error (apiError 409 "notification_secret_unavailable" "Notification target secret is unavailable.")
      | some url => do
        let url ← env.passwordResetRecipientUrl url mail.recipient
        .ok { url := some url, recipient := some mail.recipient }

/-- An error of the adapters. -/
structure IntegrationError where
  code : String
  category : String

/-- What the adapter is not even asked to send. -/
def unsendable (plan : NotificationPlan) (addressed : Addressed) : Option IntegrationError :=
  if plan.targetKind = "smtp" then
    if plan.smtp.isNone ∨ addressed.recipient.isNone then some ⟨"smtp_recipient_unavailable", "permanent"⟩ else none
  else if addressed.url.isNone then some ⟨"notification_secret_unavailable", "permanent"⟩
  else none

end NotificationDeliveryService

end ZeroNvr
