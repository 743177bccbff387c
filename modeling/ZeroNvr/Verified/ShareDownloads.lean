import ZeroNvr.Exports.Shares
import ZeroNvr.Lib.Run

/-! # Downloads of a share

Requests, revocations, cancellations and cleanup passes go on one transaction at a
time.  The update that counts a download tests the limit, the revocation and the
expiry again, and with the expiry that of the export; it does not test whether the
export was cancelled.
-/

namespace ZeroNvr.ShareDownloads

open Lib ExportShareService

/-! ## Requests -/

inductive DownloadPhase where
  | idle
  | authorized (shareId : Uuid) (export_ : ExportJob)
  | finished

/-- A request that revokes a share or cancels an export, or a cleanup pass as far as one export goes. -/
inductive AdminPhase where
  | idle
  | revoking (row : ExportShareToken)
  | cancelling (row : ExportJob)
  | cleaning (row : ExportJob) (reference : Int)
  | finished

/-- The shares and exports, the requests under way, and how many downloads of each share were answered
    with the file. -/
structure ShareWorld where
  shares : Table ExportShareToken := .empty
  exports : Table ExportJob
  clock : Int
  request : Nat → DownloadPhase := fun _ => .idle
  admin : Nat → AdminPhase := fun _ => .idle
  served : Uuid → Nat := fun _ => 0

namespace ShareWorld

def requesting (world : ShareWorld) (request : Nat) (phase : DownloadPhase) : ShareWorld :=
  { world with request := Function.update world.request request phase }

def administering (world : ShareWorld) (admin : Nat) (phase : AdminPhase) : ShareWorld :=
  { world with admin := Function.update world.admin admin phase }

/-- A session commits what it made of the row of an export. -/
def flushExport (world : ShareWorld) (read new : ExportJob) : ShareWorld :=
  { world with exports := world.exports.modify read.id (read.flush new) }

/-- The update has counted the download, and the file is sent. -/
def serve (world : ShareWorld) (shareId : Uuid) (shares : Table ExportShareToken) : ShareWorld :=
  { world with shares, served := Function.update world.served shareId (world.served shareId + 1) }

end ShareWorld

inductive ShareAction where
  | consume (request : Nat)
  | goOn

variable (env : ShareEnv) (uuid4 : Supply Uuid)

inductive ShareStep : ShareWorld → ShareAction → ShareWorld → Prop
  | wait {world : ShareWorld} {clock : Int} (later : world.clock ≤ clock) : ShareStep world .goOn { world with clock }
  | create {world : ShareWorld} {job : ExportJob} {exportId createdBy : Uuid} {token : String} {password : Option String}
      {expiresInHours : Int} {maxDownloads : Option Int} {row : Uuid → ExportShareToken}
      (found : world.exports.get? exportId = some job)
      (done : ∀ id, create env job createdBy token password expiresInHours maxDownloads world.clock id = .ok (row id))
      (keyed : ∀ id, Keyed.key (row id) = id) :
      ShareStep world .goOn { world with shares := world.shares.create uuid4 row keyed }
  | authorize {world : ShareWorld} {request : Nat} {token : String} {password : Option String}
      {authorized : AuthorizedShareDownload} (idle : world.request request = .idle)
      (done : authorizeDownload env world.shares world.exports token password world.clock = .ok authorized) :
      ShareStep world .goOn (world.requesting request (.authorized authorized.shareId authorized.export_))
  | consume {world : ShareWorld} {request : Nat} {shareId : Uuid} {job : ExportJob} {shares : Table ExportShareToken}
      (at_ : world.request request = .authorized shareId job)
      (done : consumeDownload world.shares shareId world.clock = .ok shares) :
      ShareStep world (.consume request) ((world.serve shareId shares).requesting request .finished)
  /-- The request is refused, finds no file, or stops. -/
  | drop {world : ShareWorld} {request : Nat} : ShareStep world .goOn (world.requesting request .finished)
  | revoke {world : ShareWorld} {admin : Nat} {shareId : Uuid} {row : ExportShareToken} (idle : world.admin admin = .idle)
      (found : world.shares.get? shareId = some row) :
      ShareStep world .goOn (world.administering admin (.revoking row))
  | commitRevoke {world : ShareWorld} {admin : Nat} {row : ExportShareToken} (at_ : world.admin admin = .revoking row) :
      ShareStep world .goOn
        ({ world with shares := world.shares.modify row.id (row.flush (ExportShareService.revoke row world.clock)) }.administering
          admin .finished)
  | cancel {world : ShareWorld} {admin : Nat} {exportId : Uuid} {row : ExportJob} (idle : world.admin admin = .idle)
      (found : world.exports.get? exportId = some row) :
      ShareStep world .goOn (world.administering admin (.cancelling row))
  | commitCancel {world : ShareWorld} {admin : Nat} {row : ExportJob} (at_ : world.admin admin = .cancelling row) :
      ShareStep world .goOn
        ((world.flushExport row (ExportService.cancel row world.clock).1).administering admin .finished)
  | clean {world : ShareWorld} {admin : Nat} {exportId : Uuid} {row : ExportJob} {reference : Int}
      (idle : world.admin admin = .idle) (found : world.exports.get? exportId = some row)
      (before : reference ≤ world.clock) (due : ExportCleanupService.isDue row reference = true) :
      ShareStep world .goOn (world.administering admin (.cleaning row reference))
  | commitClean {world : ShareWorld} {admin : Nat} {row : ExportJob} {reference : Int}
      (at_ : world.admin admin = .cleaning row reference) :
      ShareStep world .goOn
        ((world.flushExport row (ExportCleanupService.expired row reference)).administering admin .finished)
  | stop {world : ShareWorld} {admin : Nat} : ShareStep world .goOn (world.administering admin .finished)

/-- The export is still in the state in which the download was authorized. -/
def Undisturbed (world : ShareWorld) : ShareAction → Prop
  | .consume request =>
    match world.request request with
    | .authorized _ job => ∀ current, world.exports.get? job.id = some current → current.state = job.state
    | _ => True
  | .goOn => True

abbrev UndisturbedRun := Run fun world action world' => ShareStep env uuid4 world action world' ∧ Undisturbed world action

variable {env uuid4} {world world' : ShareWorld} {action : ShareAction}

/-! ## What a step does to the rows -/

/-- A share is counted and revoked, and nothing else of it changes. -/
structure ShareMoves (before after : ExportShareToken) : Prop where
  exportId : after.exportId = before.exportId
  expiresAt : after.expiresAt = before.expiresAt
  maxDownloads : after.maxDownloads = before.maxDownloads
  revoked : before.revokedAt ≠ none → after.revokedAt ≠ none

theorem ShareMoves.refl (share : ExportShareToken) : ShareMoves share share := ⟨rfl, rfl, rfl, fun revoked => revoked⟩

theorem revoke_moves (row : ExportShareToken) (now : Int) (share : ExportShareToken) :
    ShareMoves share (row.flush (ExportShareService.revoke row now) share) := by
  refine ⟨rfl, rfl, rfl, fun revoked => ?_⟩
  unfold ExportShareService.revoke
  split
  · rcases written_cases row.revokedAt (some now) share.revokedAt with is | is
    · exact fun none_ => by cases is.symm.trans none_
    · exact fun none_ => revoked (is.symm.trans none_)
  · exact fun none_ => revoked ((written_unchanged row.revokedAt share.revokedAt).symm.trans none_)

theorem consumed_moves (now : Int) (share : ExportShareToken) : ShareMoves share (consumed now share) :=
  ⟨rfl, rfl, rfl, fun revoked => revoked⟩

theorem consumed_key (now : Int) (share : ExportShareToken) : Keyed.key (consumed now share) = Keyed.key share := rfl

theorem shareFlush_key (read new share : ExportShareToken) : Keyed.key (read.flush new share) = Keyed.key share := rfl

theorem exportFlush_key (read new job : ExportJob) : Keyed.key (read.flush new job) = Keyed.key job := rfl

/-- What is over stays so. -/
structure ExportMoves (before after : ExportJob) : Prop where
  expiresAt : after.expiresAt = before.expiresAt
  gone : ExportExecutionService.isOver before = true → ExportExecutionService.isOver after = true

theorem ExportMoves.refl (job : ExportJob) : ExportMoves job job := ⟨rfl, fun gone => gone⟩

theorem isOver_iff {job : ExportJob} : ExportExecutionService.isOver job = true ↔ job.state = .cancelled ∨ job.state = .expired :=
  decide_eq_true_iff

theorem cancel_moves (row : ExportJob) (now : Int) (job : ExportJob) :
    ExportMoves job (row.flush (ExportService.cancel row now).1 job) := by
  refine ⟨rfl, fun gone => isOver_iff.mpr ?_⟩
  unfold ExportService.cancel
  split
  · rw [show (row.flush row job).state = job.state from written_unchanged _ _]
    exact isOver_iff.mp gone
  · rcases written_cases row.state .cancelled job.state with is | is
    · exact .inl is
    · exact (isOver_iff.mp gone).imp is.trans is.trans

theorem expired_moves (row : ExportJob) (reference : Int) (job : ExportJob) :
    ExportMoves job (row.flush (ExportCleanupService.expired row reference) job) := by
  refine ⟨rfl, fun gone => isOver_iff.mpr ?_⟩
  rcases written_cases row.state .expired job.state with is | is
  · exact .inr is
  · exact (isOver_iff.mp gone).imp is.trans is.trans

/-- An export that a cancellation leaves expired was expired. -/
theorem cancel_expired {row job : ExportJob} {now : Int}
    (expired : (row.flush (ExportService.cancel row now).1 job).state = .expired) : job.state = .expired := by
  unfold ExportService.cancel at expired
  split at expired
  · exact (written_unchanged row.state job.state).symm.trans expired
  · rcases written_cases row.state .cancelled job.state with is | is
    · cases is.symm.trans expired
    · exact is.symm.trans expired

/-- The rows stay, and the clock goes on. -/
structure Kept (world world' : ShareWorld) : Prop where
  clock : world.clock ≤ world'.clock
  shares : ∀ id share, world.shares.get? id = some share → ∃ after, world'.shares.get? id = some after ∧ ShareMoves share after
  exports : ∀ id job, world.exports.get? id = some job → ∃ after, world'.exports.get? id = some after ∧ ExportMoves job after

theorem Kept.refl (world : ShareWorld) : Kept world world :=
  ⟨le_rfl, fun _ share found => ⟨share, found, .refl share⟩, fun _ job found => ⟨job, found, .refl job⟩⟩

theorem Kept.same (clock : world'.clock = world.clock) (shares : world'.shares = world.shares)
    (exports : world'.exports = world.exports) : Kept world world' := by
  have kept := Kept.refl world
  exact ⟨clock ▸ kept.clock, shares ▸ kept.shares, exports ▸ kept.exports⟩

theorem get?_modify_moves {ρ : Type} [Keyed ρ Uuid] {Moves : ρ → ρ → Prop} (refl : ∀ row, Moves row row) {table : Table ρ}
    {key : Uuid} {change : ρ → ρ} (keeps : ∀ row, Keyed.key (change row) = Keyed.key row) (moves : ∀ row, Moves row (change row))
    (id : Uuid) (row : ρ) (found : table.get? id = some row) :
    ∃ after, (table.modify key change keeps).get? id = some after ∧ Moves row after := by
  rw [Table.get?_modify, found]
  split
  · exact ⟨change row, rfl, moves row⟩
  · exact ⟨row, rfl, refl row⟩

theorem get?_create_of_get? {ρ : Type} [Keyed ρ Uuid] {table : Table ρ} {make : Uuid → ρ}
    (keyed : ∀ id, Keyed.key (make id) = id) {id : Uuid} {row : ρ} (found : table.get? id = some row) :
    (table.create uuid4 make keyed).get? id = some row :=
  Table.get?_eq_some_iff.mpr ⟨Table.mem_create.mpr (.inl (Table.mem_of_get? found)), Table.key_of_get? found⟩

theorem consumeDownload_ok {shares shares' : Table ExportShareToken} {shareId : Uuid} {now : Int}
    (done : consumeDownload shares shareId now = .ok shares') :
    ∃ share, shares.get? shareId = some share ∧ consumable share now = true ∧ shares' = shares.modify shareId (consumed now) := by
  unfold consumeDownload at done
  split at done
  next consumes =>
    cases done
    cases found : shares.get? shareId with
    | none =>
      rw [found] at consumes
      cases consumes
    | some share =>
      rw [found] at consumes
      exact ⟨share, rfl, consumes, rfl⟩
  · cases done

theorem step_kept (step : ShareStep env uuid4 world action world') : Kept world world' := by
  cases step with
  | wait later => exact { Kept.refl world with clock := later }
  | create found done keyed =>
    exact { Kept.refl world with
      shares := fun id share known => ⟨share, get?_create_of_get? keyed known, .refl share⟩ }
  | consume at_ done =>
    obtain ⟨share, found, isConsumable, rfl⟩ := consumeDownload_ok done
    exact { Kept.refl world with
      shares := get?_modify_moves ShareMoves.refl (consumed_key world.clock) (consumed_moves world.clock) }
  | @commitRevoke admin row at_ =>
    exact { Kept.refl world with shares := get?_modify_moves ShareMoves.refl (shareFlush_key _ _) (revoke_moves row world.clock) }
  | @commitCancel admin row at_ =>
    exact { Kept.refl world with exports := get?_modify_moves ExportMoves.refl (exportFlush_key _ _) (cancel_moves row world.clock) }
  | @commitClean admin row reference at_ =>
    exact { Kept.refl world with exports := get?_modify_moves ExportMoves.refl (exportFlush_key _ _) (expired_moves row reference) }
  | authorize idle done => exact .same rfl rfl rfl
  | drop => exact .same rfl rfl rfl
  | revoke idle found => exact .same rfl rfl rfl
  | cancel idle found => exact .same rfl rfl rfl
  | clean idle found before due => exact .same rfl rfl rfl
  | stop => exact .same rfl rfl rfl

/-! ## Counting -/

/-- What `create` writes. -/
theorem create_ok {job : ExportJob} {createdBy : Uuid} {token : String} {password : Option String} {expiresInHours : Int}
    {maxDownloads : Option Int} {now : Int} {id : Uuid} {share : ExportShareToken}
    (done : create env job createdBy token password expiresInHours maxDownloads now id = .ok share) :
    share.exportId = job.id ∧ share.expiresAt ≤ job.expiresAt ∧ share.downloadCount = 0 ∧
      ∀ limit, share.maxDownloads = some limit → 0 ≤ limit := by
  unfold create at done
  split at done
  · cases done
  split at done
  · cases done
  split at done
  · cases done
  next valid =>
    have positive (limit : Int) (isLimit : maxDownloads = some limit) : 0 ≤ limit := by
      rw [isLimit] at valid
      simp only [Option.any_some, decide_eq_true_eq, not_or] at valid
      omega
    dsimp only at done
    split at done
    · cases done
      exact ⟨rfl, min_le_left _ _, rfl, positive⟩
    · split at done
      · cases done
      · cases done
        exact ⟨rfl, min_le_left _ _, rfl, positive⟩

theorem authorizeDownload_ok {shares : Table ExportShareToken} {exports : Table ExportJob} {token : String}
    {password : Option String} {now : Int} {authorized : AuthorizedShareDownload}
    (done : authorizeDownload env shares exports token password now = .ok authorized) :
    authorized.export_.state = .completed ∧ ∃ share, shares.get? authorized.shareId = some share ∧
      exports.get? share.exportId = some authorized.export_ := by
  unfold authorizeDownload at done
  split at done
  · cases done
  next share found =>
    split at done
    · cases done
    split at done
    · cases done
    split at done
    · cases done
    split at done
    · cases done
    next job isJob =>
      split at done
      · cases done
      next available =>
        cases done
        have isShare : shares.get? share.id = some share := Table.get?_of_mem (Table.mem_of_first? found).1
        exact ⟨not_not.mp (not_or.mp available).1, share, isShare, isJob⟩

/-- The downloads served are those counted, and the rows bound them. -/
structure Sound (world : ShareWorld) : Prop where
  counted : ∀ id share, world.shares.get? id = some share → (world.served id : Int) = share.downloadCount
  limited : ∀ id share, world.shares.get? id = some share → ∀ limit, share.maxDownloads = some limit →
    share.downloadCount ≤ limit
  unknown : ∀ id, world.shares.get? id = none → world.served id = 0
  bounded : ∀ id share, world.shares.get? id = some share → ∀ job, world.exports.get? share.exportId = some job →
    share.expiresAt ≤ job.expiresAt
  expired : ∀ id job, world.exports.get? id = some job → job.state = .expired → job.expiresAt ≤ world.clock
  cleaning : ∀ admin row reference, world.admin admin = .cleaning row reference → row.expiresAt ≤ world.clock ∧
    ∃ job, world.exports.get? row.id = some job ∧ job.expiresAt = row.expiresAt
  authorized : ∀ request shareId job, world.request request = .authorized shareId job → job.state = .completed ∧
    ∃ share, world.shares.get? shareId = some share ∧ share.exportId = job.id

theorem get?_of_modify {ρ : Type} [Keyed ρ Uuid] {table : Table ρ} {key : Uuid} {change : ρ → ρ}
    (keeps : ∀ row, Keyed.key (change row) = Keyed.key row) {id : Uuid} {after : ρ}
    (found : (table.modify key change keeps).get? id = some after) :
    ∃ before, table.get? id = some before ∧ (id = key ∧ after = change before ∨ id ≠ key ∧ after = before) := by
  rw [Table.get?_modify] at found
  split at found
  next same =>
    obtain ⟨before, isBefore, rfl⟩ := Option.map_eq_some_iff.mp found
    exact ⟨before, isBefore, .inl ⟨same, rfl⟩⟩
  next differs => exact ⟨after, found, .inr ⟨differs, rfl⟩⟩

theorem get?_of_modify_none {ρ : Type} [Keyed ρ Uuid] {table : Table ρ} {key : Uuid} {change : ρ → ρ}
    (keeps : ∀ row, Keyed.key (change row) = Keyed.key row) {id : Uuid}
    (none_ : (table.modify key change keeps).get? id = none) : table.get? id = none := by
  rw [Table.get?_modify] at none_
  split at none_
  · exact Option.map_eq_none_iff.mp none_
  · exact none_

theorem get?_of_create {ρ : Type} [Keyed ρ Uuid] {table : Table ρ} {make : Uuid → ρ}
    (keyed : ∀ id, Keyed.key (make id) = id) {id : Uuid} {row : ρ}
    (found : (table.create uuid4 make keyed).get? id = some row) :
    table.get? id = some row ∨ (table.get? id = none ∧ row = make (table.newKey uuid4)) := by
  obtain ⟨member, isKey⟩ := Table.get?_eq_some_iff.mp found
  rcases Table.mem_create.mp member with old | rfl
  · exact .inl (Table.get?_eq_some_iff.mpr ⟨old, isKey⟩)
  · refine .inr ⟨Table.get?_eq_none_iff.mpr fun other isOther => ?_, rfl⟩
    rw [← isKey, keyed]
    exact Table.newKey_fresh table uuid4 isOther

theorem Sound.requesting (sound : Sound world) {request : Nat} {phase : DownloadPhase}
    (holds : ∀ shareId job, phase = .authorized shareId job → job.state = .completed ∧
      ∃ share, world.shares.get? shareId = some share ∧ share.exportId = job.id) :
    Sound (world.requesting request phase) :=
  { sound with
    authorized := fun other shareId job at_ => by
      simp only [ShareWorld.requesting, Function.update_apply] at at_
      split at at_
      · exact holds shareId job at_
      · exact sound.authorized other shareId job at_ }

theorem Sound.administering (sound : Sound world) {admin : Nat} {phase : AdminPhase}
    (holds : ∀ row reference, phase = .cleaning row reference → row.expiresAt ≤ world.clock ∧
      ∃ job, world.exports.get? row.id = some job ∧ job.expiresAt = row.expiresAt) :
    Sound (world.administering admin phase) :=
  { sound with
    cleaning := fun other row reference at_ => by
      simp only [ShareWorld.administering, Function.update_apply] at at_
      split at at_
      · exact holds row reference at_
      · exact sound.cleaning other row reference at_ }

/-- Exports change, and expire only when their time has passed. -/
theorem Sound.flushExport (sound : Sound world) {read new : ExportJob} (moves : ∀ job, ExportMoves job (read.flush new job))
    (expires : ∀ job, world.exports.get? read.id = some job → (read.flush new job).state = .expired →
      job.expiresAt ≤ world.clock) : Sound (world.flushExport read new) := by
  refine { sound with bounded := fun id share found job isJob => ?_, expired := fun id job isJob => ?_, cleaning := ?_ }
  · obtain ⟨before, isBefore, ⟨-, rfl⟩ | ⟨-, rfl⟩⟩ := get?_of_modify (exportFlush_key read new) isJob
    · exact (sound.bounded id share found before isBefore).trans_eq (moves before).expiresAt.symm
    · exact sound.bounded id share found _ isBefore
  · obtain ⟨before, isBefore, ⟨rfl, rfl⟩ | ⟨-, rfl⟩⟩ := get?_of_modify (exportFlush_key read new) isJob
    · exact fun state => (moves before).expiresAt.trans_le (expires before isBefore state)
    · exact sound.expired id _ isBefore
  · intro admin row reference at_
    obtain ⟨late, job, isJob, same⟩ := sound.cleaning admin row reference at_
    obtain ⟨after, isAfter, moved⟩ := get?_modify_moves ExportMoves.refl (exportFlush_key _ _) moves row.id job isJob
    exact ⟨late, after, isAfter, moved.expiresAt.trans same⟩

/-- A change that does not count. -/
theorem Sound.modifyShare (sound : Sound world) {key : Uuid} {change : ExportShareToken → ExportShareToken}
    {keeps : ∀ share, Keyed.key (change share) = Keyed.key share} (moves : ∀ share, ShareMoves share (change share))
    (count : ∀ share, (change share).downloadCount = share.downloadCount) :
    Sound { world with shares := world.shares.modify key change keeps } := by
  refine { sound with counted := fun id share found => ?_, limited := fun id share found => ?_,
                      unknown := fun id none_ => sound.unknown id (get?_of_modify_none keeps none_),
                      bounded := fun id share found => ?_, authorized := fun request shareId job at_ => ?_ }
  · obtain ⟨before, isBefore, ⟨-, rfl⟩ | ⟨-, rfl⟩⟩ := get?_of_modify keeps found
    · exact (sound.counted id before isBefore).trans (count before).symm
    · exact sound.counted id _ isBefore
  · obtain ⟨before, isBefore, ⟨-, rfl⟩ | ⟨-, rfl⟩⟩ := get?_of_modify keeps found
    · rw [count, (moves before).maxDownloads]
      exact sound.limited id before isBefore
    · exact sound.limited id _ isBefore
  · obtain ⟨before, isBefore, ⟨-, rfl⟩ | ⟨-, rfl⟩⟩ := get?_of_modify keeps found
    · rw [(moves before).exportId, (moves before).expiresAt]
      exact sound.bounded id before isBefore
    · exact sound.bounded id _ isBefore
  · obtain ⟨completed, share, found, same⟩ := sound.authorized request shareId job at_
    obtain ⟨after, isAfter, moved⟩ := get?_modify_moves ShareMoves.refl keeps moves shareId share found
    exact ⟨completed, after, isAfter, moved.exportId.trans same⟩

theorem serve_other (world : ShareWorld) {shareId id : Uuid} (shares : Table ExportShareToken) (differs : id ≠ shareId) :
    (world.serve shareId shares).served id = world.served id := Function.update_of_ne differs _ _

theorem Sound.serve (sound : Sound world) {shareId : Uuid} {shares : Table ExportShareToken}
    (done : consumeDownload world.shares shareId world.clock = .ok shares) : Sound (world.serve shareId shares) := by
  obtain ⟨share, found, isConsumable, rfl⟩ := consumeDownload_ok done
  obtain ⟨-, -, within⟩ := of_decide_eq_true isConsumable
  refine { sound with counted := fun id after isAfter => ?_, limited := fun id after isAfter limit isLimit => ?_,
                      unknown := fun id none_ => ?_, bounded := fun id after isAfter => ?_,
                      authorized := fun request other job at_ => ?_ }
  · obtain ⟨before, isBefore, ⟨rfl, rfl⟩ | ⟨differs, rfl⟩⟩ := get?_of_modify (consumed_key world.clock) isAfter
    · have counted := sound.counted id before isBefore
      simp only [ShareWorld.serve, Function.update_self, consumed]
      omega
    · rw [serve_other world _ differs]
      exact sound.counted id _ isBefore
  · obtain ⟨before, isBefore, ⟨rfl, rfl⟩ | ⟨-, rfl⟩⟩ := get?_of_modify (consumed_key world.clock) isAfter
    · cases isBefore.symm.trans found
      rw [show share.maxDownloads = some limit from isLimit, Option.all_some, decide_eq_true_eq] at within
      exact within
    · exact sound.limited id _ isBefore limit isLimit
  · have isNone := get?_of_modify_none (consumed_key world.clock) none_
    have differs : id ≠ shareId := by
      rintro rfl
      cases isNone.symm.trans found
    rw [serve_other world _ differs]
    exact sound.unknown id isNone
  · obtain ⟨before, isBefore, ⟨-, rfl⟩ | ⟨-, rfl⟩⟩ := get?_of_modify (consumed_key world.clock) isAfter
    · exact sound.bounded id before isBefore
    · exact sound.bounded id _ isBefore
  · obtain ⟨completed, row, isRow, same⟩ := sound.authorized request other job at_
    obtain ⟨after, isAfter, moved⟩ :=
      get?_modify_moves ShareMoves.refl (consumed_key world.clock) (consumed_moves world.clock) other row isRow
    exact ⟨completed, after, isAfter, moved.exportId.trans same⟩

theorem Sound.step (sound : Sound world) (step : ShareStep env uuid4 world action world') : Sound world' := by
  cases step with
  | wait later =>
    exact { sound with
      expired := fun id job found state => (sound.expired id job found state).trans later
      cleaning := fun admin row reference at_ => (sound.cleaning admin row reference at_).imp_left later.trans' }
  | @create job exportId createdBy token password expiresInHours maxDownloads row isJob done keyed =>
    obtain ⟨isExport, before, none_, positive⟩ := create_ok (done (world.shares.newKey uuid4))
    refine { sound with counted := fun id share found => ?_, limited := fun id share found => ?_,
                        unknown := fun id found => ?_, bounded := fun id share found => ?_,
                        authorized := fun request shareId job at_ => ?_ }
    · rcases get?_of_create keyed found with old | ⟨isNew, rfl⟩
      · exact sound.counted id share old
      · rw [none_]
        exact congrArg Int.ofNat (sound.unknown id isNew)
    · rcases get?_of_create keyed found with old | ⟨-, rfl⟩
      · exact sound.limited id share old
      · rw [none_]
        exact positive
    · cases known : world.shares.get? id with
      | none => exact sound.unknown id known
      | some share => cases (get?_create_of_get? keyed known).symm.trans found
    · rcases get?_of_create keyed found with old | ⟨-, rfl⟩
      · exact sound.bounded id share old
      · intro other isOther
        have sameId : job.id = exportId := Table.key_of_get? isJob
        rw [isExport, sameId] at isOther
        cases isJob.symm.trans isOther
        exact before
    · obtain ⟨completed, share, found, same⟩ := sound.authorized request shareId job at_
      exact ⟨completed, share, get?_create_of_get? keyed found, same⟩
  | authorize idle done =>
    obtain ⟨completed, share, found, isJob⟩ := authorizeDownload_ok done
    refine sound.requesting fun shareId job same => ?_
    cases same
    exact ⟨completed, share, found, (Table.key_of_get? isJob).symm⟩
  | consume at_ done => exact (sound.serve done).requesting (by simp)
  | drop => exact sound.requesting (by simp)
  | revoke idle found => exact sound.administering (by simp)
  | @commitRevoke admin row at_ =>
    have changed := @Sound.modifyShare world sound row.id (row.flush (ExportShareService.revoke row world.clock))
      (shareFlush_key _ _) (revoke_moves row world.clock) fun _ => rfl
    exact changed.administering (by simp)
  | cancel idle found => exact sound.administering (by simp)
  | @commitCancel admin row at_ =>
    refine (sound.flushExport (cancel_moves row world.clock) fun job found state => ?_).administering (by simp)
    exact sound.expired _ job found (cancel_expired state)
  | @clean admin exportId row reference idle found before due =>
    refine sound.administering fun row' reference' same => ?_
    cases same
    have late := (of_decide_eq_true due).1
    exact ⟨late.trans before, row, by rw [← Table.key_of_get? found] at found; exact found, rfl⟩
  | @commitClean admin row reference at_ =>
    obtain ⟨late, job, isJob, same⟩ := sound.cleaning admin row reference at_
    refine (sound.flushExport (expired_moves row reference) fun job' found state => ?_).administering (by simp)
    cases isJob.symm.trans found
    exact same.trans_le late
  | stop => exact sound.administering (by simp)

/-! ## Shares that serve no more -/

/-- The share is revoked or has expired. -/
def Closed (world : ShareWorld) (shareId : Uuid) : Prop :=
  ∃ share, world.shares.get? shareId = some share ∧ (share.revokedAt ≠ none ∨ share.expiresAt ≤ world.clock)

/-- Its export was cancelled or has expired. -/
def Gone (world : ShareWorld) (shareId : Uuid) : Prop :=
  ∃ share job, world.shares.get? shareId = some share ∧ world.exports.get? share.exportId = some job ∧
    ExportExecutionService.isOver job = true

theorem Closed.kept {shareId : Uuid} (closed : Closed world shareId) (kept : Kept world world') : Closed world' shareId := by
  obtain ⟨share, found, reason⟩ := closed
  obtain ⟨after, isAfter, moved⟩ := kept.shares shareId share found
  exact ⟨after, isAfter, reason.imp moved.revoked fun late => moved.expiresAt.trans_le (late.trans kept.clock)⟩

theorem Gone.kept {shareId : Uuid} (gone : Gone world shareId) (kept : Kept world world') : Gone world' shareId := by
  obtain ⟨share, job, found, isJob, isGone⟩ := gone
  obtain ⟨after, isAfter, moved⟩ := kept.shares shareId share found
  obtain ⟨jobAfter, isJobAfter, jobMoved⟩ := kept.exports share.exportId job isJob
  exact ⟨after, jobAfter, isAfter, moved.exportId ▸ isJobAfter, jobMoved.gone isGone⟩

/-- A step serves a download of the share, or leaves the number as it is. -/
theorem served_cases (step : ShareStep env uuid4 world action world') (shareId : Uuid) :
    world'.served shareId = world.served shareId ∨
      ∃ request job share, action = .consume request ∧ world.request request = .authorized shareId job ∧
        world.shares.get? shareId = some share ∧ consumable share world.clock = true := by
  cases step with
  | @consume request consumedId job shares at_ done =>
    by_cases same : shareId = consumedId
    · subst same
      obtain ⟨share, found, isConsumable, -⟩ := consumeDownload_ok done
      exact .inr ⟨request, job, share, rfl, at_, found, isConsumable⟩
    · exact .inl (serve_other world shares same)
  | _ => exact .inl rfl

theorem Closed.served {shareId : Uuid} (closed : Closed world shareId) (step : ShareStep env uuid4 world action world') :
    world'.served shareId = world.served shareId := by
  refine (served_cases step shareId).resolve_right ?_
  rintro ⟨-, -, share, -, -, found, isConsumable⟩
  obtain ⟨other, isOther, reason⟩ := closed
  cases found.symm.trans isOther
  obtain ⟨unrevoked, early, -⟩ := of_decide_eq_true isConsumable
  rcases reason with revoked | late
  · exact revoked (Option.isNone_iff_eq_none.mp unrevoked)
  · exact absurd early (not_lt.mpr late)

theorem Gone.served {shareId : Uuid} (gone : Gone world shareId) (sound : Sound world)
    (step : ShareStep env uuid4 world action world') (undisturbed : Undisturbed world action) :
    world'.served shareId = world.served shareId := by
  refine (served_cases step shareId).resolve_right ?_
  rintro ⟨request, job, share, rfl, at_, found, -⟩
  obtain ⟨other, current, isOther, isCurrent, isGone⟩ := gone
  cases found.symm.trans isOther
  obtain ⟨completed, authorized, isAuthorized, same⟩ := sound.authorized request shareId job at_
  cases found.symm.trans isAuthorized
  rw [same] at isCurrent
  simp only [Undisturbed, at_] at undisturbed
  have unchanged := undisturbed current isCurrent
  rcases isOver_iff.mp isGone with state | state <;> rw [unchanged, completed] at state <;> cases state

/-- Nothing is shared yet, and an export has expired only when its time has passed. -/
structure Initial (world : ShareWorld) : Prop where
  shares : world.shares = .empty
  served : world.served = fun _ => 0
  request : world.request = fun _ => .idle
  admin : world.admin = fun _ => .idle
  expired : ∀ id job, world.exports.get? id = some job → job.state = .expired → job.expiresAt ≤ world.clock

theorem Initial.sound (initial : Initial world) : Sound world := by
  obtain ⟨shares, served, request, admin, expired⟩ := initial
  have none_ (id : Uuid) : world.shares.get? id = none := by rw [shares]; rfl
  refine ⟨fun id share found => ?_, fun id share found => ?_, fun id _ => by rw [served], fun id share found => ?_, expired, ?_, ?_⟩
  · cases (none_ id).symm.trans found
  · cases (none_ id).symm.trans found
  · cases (none_ id).symm.trans found
  · simp [admin]
  · simp [request]

theorem Sound.run {actions : List ShareAction} {before : ShareWorld} (sound : Sound before)
    (run : Run (ShareStep env uuid4) before actions world) : Sound world :=
  run.invariant (fun _ _ _ sound step => sound.step step) sound

/-- For every interleaving: the downloads served are those counted, at most as many as the limit allows, and
none of a share that was revoked, that has expired, or whose export has expired.  When every download is counted while
its export is in the state in which it was authorized, none either of a share whose export was cancelled. -/
theorem downloads_within_limit {start middle : ShareWorld} {actions later : List ShareAction} (initial : Initial start)
    (first : Run (ShareStep env uuid4) start actions middle) (second : Run (ShareStep env uuid4) middle later world)
    {shareId : Uuid} {share : ExportShareToken} (found : middle.shares.get? shareId = some share) :
    (∃ after, world.shares.get? shareId = some after ∧ after.maxDownloads = share.maxDownloads ∧
        (world.served shareId : Int) = after.downloadCount ∧
        ∀ limit, share.maxDownloads = some limit → (world.served shareId : Int) ≤ limit) ∧
      (share.revokedAt ≠ none ∨ share.expiresAt ≤ middle.clock ∨
          (∃ job, middle.exports.get? share.exportId = some job ∧ job.state = .expired) →
        world.served shareId = middle.served shareId) ∧
      (UndisturbedRun env uuid4 middle later world →
        (∃ job, middle.exports.get? share.exportId = some job ∧ job.state = .cancelled) →
          world.served shareId = middle.served shareId) := by
  have sound := initial.sound.run first
  refine ⟨?_, fun reason => ?_, fun undisturbed ⟨job, isJob, cancelled⟩ => ?_⟩
  · have after := sound.run second
    obtain ⟨row, isRow, moved⟩ : ∃ row, world.shares.get? shareId = some row ∧ row.maxDownloads = share.maxDownloads := by
      refine @Run.invariant _ _ _
        (fun world => ∃ row, world.shares.get? shareId = some row ∧ row.maxDownloads = share.maxDownloads)
        (fun world action world' ⟨row, isRow, same⟩ step => ?_) _ _ _ second ⟨share, found, rfl⟩
      obtain ⟨after, isAfter, moved⟩ := (step_kept step).shares shareId row isRow
      exact ⟨after, isAfter, moved.maxDownloads.trans same⟩
    refine ⟨row, isRow, moved, after.counted shareId row isRow, fun limit isLimit => ?_⟩
    rw [after.counted shareId row isRow]
    exact after.limited shareId row isRow limit (moved.trans isLimit)
  · have closed : Closed middle shareId := by
      rcases reason with revoked | late | ⟨job, isJob, expired⟩
      · exact ⟨share, found, .inl revoked⟩
      · exact ⟨share, found, .inr late⟩
      · have late := (sound.bounded shareId share found job isJob).trans (sound.expired _ job isJob expired)
        exact ⟨share, found, .inr late⟩
    exact (@Run.invariant _ _ _ (fun world => Closed world shareId ∧ world.served shareId = middle.served shareId)
      (fun _ _ _ kept step => ⟨kept.1.kept (step_kept step), (kept.1.served step).trans kept.2⟩) _ _ _ second
      ⟨closed, rfl⟩).2
  · have gone : Gone middle shareId := ⟨share, job, found, isJob, isOver_iff.mpr (.inl cancelled)⟩
    exact (@Run.invariant _ _ _ (fun world => Sound world ∧ Gone world shareId ∧ world.served shareId = middle.served shareId)
      (fun _ _ _ kept step => ⟨kept.1.step step.1, kept.2.1.kept (step_kept step.1),
        (kept.2.1.served kept.1 step.1 step.2).trans kept.2.2⟩) _ _ _ undisturbed ⟨sound, gone, rfl⟩).2.2

/-! ## An export that is cancelled while it is downloaded -/

def plainEnv : ShareEnv where
  tokenHash := fun token => token
  hashPassword := some
  verifyPassword := fun password hash => password = hash

def completedWorld : ShareWorld where
  exports := ⟨[{ id := 1, cameraId := 3, requestedStartAt := 0, requestedEndAt := 10, state := .completed, expiresAt := 1000 }],
    by decide⟩
  clock := 20

theorem completedWorld_initial : Initial completedWorld := by
  refine ⟨rfl, rfl, rfl, rfl, fun id job found expired => ?_⟩
  rw [List.mem_singleton.mp (Table.mem_of_get? found)] at expired
  cases expired

/-- A share for one download, and a request that is authorized before the export is cancelled. -/
theorem cancelled_while_downloading : ∃ first second middle world,
    Run (ShareStep plainEnv .counting) completedWorld first middle ∧ Run (ShareStep plainEnv .counting) middle second world ∧
      (∃ share job, middle.shares.get? 1 = some share ∧ middle.exports.get? share.exportId = some job ∧
        job.state = .cancelled) ∧ middle.served 1 = 0 ∧ world.served 1 = 1 :=
  ⟨_, _, _, _,
    .next (@ShareStep.create _ _ _ _ 1 9 "token" none 1 (some 1)
      (fun id => { id, exportId := 1, tokenHash := "token", expiresAt := 1000, maxDownloads := some 1, createdBy := 9 })
      rfl (fun _ => rfl) (fun _ => rfl)) <|
    .next (@ShareStep.authorize _ _ _ 0 "token" none _ rfl rfl) <|
    .next (@ShareStep.cancel _ _ _ 0 1 _ rfl rfl) <| .next (@ShareStep.commitCancel _ _ _ 0 _ rfl) <| .done _,
    .next (@ShareStep.consume _ _ _ 0 1 _ _ rfl rfl) <| .done _, ⟨_, _, rfl, rfl, rfl⟩, rfl, rfl⟩

theorem cancelled_export_served : ¬∀ (env : ShareEnv) (uuid4 : Supply Uuid) (start middle world : ShareWorld)
    (actions later : List ShareAction) (shareId : Uuid) (share : ExportShareToken), Initial start →
    Run (ShareStep env uuid4) start actions middle → Run (ShareStep env uuid4) middle later world →
    middle.shares.get? shareId = some share →
    (∃ job, middle.exports.get? share.exportId = some job ∧ ExportExecutionService.isOver job = true) →
    world.served shareId = middle.served shareId := by
  intro always
  obtain ⟨first, second, middle, world, before, after, ⟨share, job, found, isJob, cancelled⟩, none_, one⟩ :=
    cancelled_while_downloading
  have same := always _ _ _ _ _ _ _ 1 share completedWorld_initial before after found
    ⟨job, isJob, isOver_iff.mpr (.inl cancelled)⟩
  rw [none_, one] at same
  cases same

/-- The one download of a share, and the export cancelled after it. -/
theorem cancelled_after_download : ∃ first second middle world share,
    Run (ShareStep plainEnv .counting) completedWorld first middle ∧ Run (ShareStep plainEnv .counting) middle second world ∧
      middle.shares.get? 1 = some share ∧ share.maxDownloads = some 1 ∧ world.served 1 = 1 :=
  ⟨_, _, _, _, _,
    .next (@ShareStep.create _ _ _ _ 1 9 "token" none 1 (some 1)
      (fun id => { id, exportId := 1, tokenHash := "token", expiresAt := 1000, maxDownloads := some 1, createdBy := 9 })
      rfl (fun _ => rfl) (fun _ => rfl)) <|
    .next (@ShareStep.authorize _ _ _ 0 "token" none _ rfl rfl) <| .done _,
    .next (@ShareStep.consume _ _ _ 0 1 _ _ rfl rfl) <|
    .next (@ShareStep.cancel _ _ _ 0 1 _ rfl rfl) <| .next (@ShareStep.commitCancel _ _ _ 0 _ rfl) <| .done _, rfl, rfl, rfl⟩

theorem downloads_within_limit_once : ∃ world : ShareWorld, world.served 1 = 1 ∧
    ∃ after, world.shares.get? 1 = some after ∧ (world.served 1 : Int) = after.downloadCount ∧ (world.served 1 : Int) ≤ 1 := by
  obtain ⟨first, second, middle, world, share, before, later, found, limit, once⟩ := cancelled_after_download
  obtain ⟨⟨after, isAfter, -, counted, bounded⟩, -⟩ := downloads_within_limit completedWorld_initial before later found
  exact ⟨world, once, after, isAfter, counted, bounded 1 limit⟩

end ZeroNvr.ShareDownloads
