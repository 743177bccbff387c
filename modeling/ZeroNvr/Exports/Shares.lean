import ZeroNvr.Exports.Execution
import ZeroNvr.Lib.Table

/-! # Shared exports

A share is a token for the downloads of an export.  A download is authorized in one
step and counted in another one, a single conditional update.
-/

namespace ZeroNvr

open Lib

instance : Keyed ExportJob Uuid := ⟨ExportJob.id⟩

structure ExportShareToken where
  id : Uuid
  exportId : Uuid
  tokenHash : String
  passwordHash : Option String := none
  expiresAt : Int
  maxDownloads : Option Int := none
  downloadCount : Int := 0
  createdBy : Uuid
  revokedAt : Option Int := none
  lastDownloadAt : Option Int := none

instance : Keyed ExportShareToken Uuid := ⟨ExportShareToken.id⟩

/-- A session that revokes a share writes the column that it has changed. -/
def ExportShareToken.flush (read new current : ExportShareToken) : ExportShareToken :=
  { current with revokedAt := written read.revokedAt new.revokedAt current.revokedAt }

/-- `sha256`, and the hashing of passwords. -/
structure ShareEnv where
  tokenHash : String → String
  hashPassword : String → Option String
  verifyPassword : String → String → Bool

structure AuthorizedShareDownload where
  shareId : Uuid
  export_ : ExportJob

namespace ExportShareService

def notFound : PyError := apiError 404 "export_share_not_found" "Export share was not found."

def expired : PyError := apiError 410 "export_share_expired" "Export share is no longer available."

/-- The refusal of a request whose limit is reached, with the text of the check that found it. -/
def limitReached (message : String) : PyError := apiError 410 "export_share_download_limit_reached" message

def unavailable : PyError := apiError 410 "export_share_unavailable" "Shared export is no longer available."

variable (env : ShareEnv)

/-- The row of a new share; `token` is what `secrets.token_urlsafe` has returned. -/
def create (job : ExportJob) (createdBy : Uuid) (token : String) (password : Option String) (expiresInHours : Int)
    (maxDownloads : Option Int) (now : Int) (id : Uuid) : Result ExportShareToken :=
  if job.state ≠ .completed then
    .error (apiError 409 "export_not_ready" "Only completed exports can be shared.")
  else if expiresInHours < 1 ∨ 24 * 30 < expiresInHours then
    .error (apiError 400 "export_share_expiry_invalid" "Share expiry must be between 1 hour and 30 days.")
  else if maxDownloads.any fun limit => limit < 1 ∨ 100000 < limit then
    .error (apiError 400 "export_share_download_limit_invalid" "Share download limit is invalid.")
  else
    let row (passwordHash : Option String) : ExportShareToken :=
      { id, exportId := job.id, tokenHash := env.tokenHash token, passwordHash
        expiresAt := min job.expiresAt (now + seconds (expiresInHours * 3600)), maxDownloads, createdBy }
    match password with
    | none => .ok (row none)
    | some password =>
      match env.hashPassword password with
      | none => .error (apiError 400 "export_share_password_invalid" "Share password does not meet password policy.")
      | some passwordHash => .ok (row (some passwordHash))

/-- What `revoke` makes of the row it has read. -/
def revoke (share : ExportShareToken) (now : Int) : ExportShareToken :=
  if share.revokedAt.isNone then { share with revokedAt := some now } else share

def authorizeDownload (shares : Table ExportShareToken) (exports : Table ExportJob) (token : String) (password : Option String)
    (now : Int) : Result AuthorizedShareDownload :=
  match shares.first? fun share => share.tokenHash = env.tokenHash token with
  | none => .error notFound
  | some share =>
    if share.revokedAt.isSome ∨ share.expiresAt ≤ now then .error expired
    else if share.maxDownloads.any fun limit => limit ≤ share.downloadCount then
      .error (limitReached "Export share download limit has been reached.")
    else if share.passwordHash.any fun hash => ¬password.any (env.verifyPassword · hash) then
      .error (apiError 401 "export_share_password_required" "A valid share password is required.")
    else
      match exports.get? share.exportId with
      | none => .error unavailable
      | some job =>
        if job.state ≠ .completed ∨ job.expiresAt ≤ now then .error unavailable
        else .ok { shareId := share.id, export_ := job }

/-- The condition of the update. -/
def consumable (share : ExportShareToken) (now : Int) : Bool :=
  share.revokedAt.isNone ∧ now < share.expiresAt ∧ share.maxDownloads.all fun limit => share.downloadCount < limit

def consumed (now : Int) (share : ExportShareToken) : ExportShareToken :=
  { share with downloadCount := share.downloadCount + 1, lastDownloadAt := some now }

/-- One update; it is refused when no row meets the condition. -/
def consumeDownload (shares : Table ExportShareToken) (shareId : Uuid) (now : Int) : Result (Table ExportShareToken) :=
  if (shares.get? shareId).any (consumable · now) then .ok (shares.modify shareId (consumed now))
  else .error (limitReached "Export share is no longer available.")

end ExportShareService

end ZeroNvr
