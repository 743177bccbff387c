import ZeroNvr.Core.Errors
import ZeroNvr.Lib.Outcome
import ZeroNvr.Models

/-! # Recording protections

A request is checked, which reads whether a recording in its range is already
being deleted, and then written.  Other transactions may commit between the two.
An update writes the columns that differ from the row it has read.
-/

namespace ZeroNvr

open Lib

structure ProtectionRequest where
  startedAt : Int
  endedAt : Int
  reason : String
  expiresAt : Option Int := none
  deriving DecidableEq

/-- A checked request that is not written yet. -/
inductive ProtectionChange where
  | insert (cameraId : Uuid) (request : ProtectionRequest)
  | update (previous : RecordingProtection) (request : ProtectionRequest)

namespace RecordingProtectionService

/-! ## The checks -/

/-- The request with its reason stripped. -/
def validated (request : ProtectionRequest) (now : Int) : Result ProtectionRequest :=
  let reason := strip request.reason
  if request.endedAt ≤ request.startedAt then
    .error (apiError 400 "recording_protection_range_invalid" "Protection end must be after start.")
  else if reason = "" then
    .error (apiError 400 "recording_protection_reason_required" "Protection reason is required.")
  else if 1024 < reason.length then
    .error (apiError 400 "recording_protection_reason_too_long" "Protection reason is too long.")
  else if request.expiresAt.any (· ≤ now) then
    .error (apiError 400 "recording_protection_expiry_invalid" "Protection expiry must be in the future.")
  else .ok { request with reason }

/-- A copy of a segment of the camera in the range is being deleted. -/
def deletionInProgress (db : Database) (cameraId : Uuid) (startedAt endedAt : Int) : Bool :=
  db.locations.rows.any fun location => location.state = .deleting ∧
    (db.segments.get? location.recordingSegmentId).any fun segment =>
      segment.cameraId = cameraId ∧ segment.startedAt < endedAt ∧ startedAt < segment.endedAt

def refuseDeletion (db : Database) (cameraId : Uuid) (request : ProtectionRequest) : Result Unit :=
  if deletionInProgress db cameraId request.startedAt request.endedAt then
    .error (apiError 409 "recording_deletion_in_progress" "A recording in this range is already being deleted.")
  else .ok ()

/-- `create` up to its insert. -/
def create (db : Database) (cameraId : Uuid) (request : ProtectionRequest) (now : Int) : Result ProtectionChange :=
  if (db.cameras.get? cameraId).isNone then
    .error (apiError 404 "camera_not_found" "Camera was not found.")
  else do
    let request ← validated request now
    refuseDeletion db cameraId request
    .ok (.insert cameraId request)

/-- `update` up to its flush. -/
def update (db : Database) (protectionId : Uuid) (request : ProtectionRequest) (now : Int) :
    Result ProtectionChange :=
  match db.protections.get? protectionId with
  | none => .error (apiError 404 "recording_protection_not_found" "Recording protection was not found.")
  | some protection => do
    let request ← validated request now
    refuseDeletion db protection.cameraId request
    .ok (.update protection request)

/-! ## The writes -/

def newProtection (cameraId : Uuid) (request : ProtectionRequest) (id : Uuid) : RecordingProtection :=
  { id, cameraId, startedAt := request.startedAt, endedAt := request.endedAt, reason := request.reason
    expiresAt := request.expiresAt }

theorem newProtection_key (cameraId : Uuid) (request : ProtectionRequest) (id : Uuid) :
    Keyed.key (newProtection cameraId request id) = id := rfl

/-- A column is written when the value differs from the one that was read. -/
def written {α : Type} [DecidableEq α] (read new current : α) : α := if new = read then current else new

def rewritten (previous : RecordingProtection) (request : ProtectionRequest) (current : RecordingProtection) :
    RecordingProtection :=
  { current with
    startedAt := written previous.startedAt request.startedAt current.startedAt
    endedAt := written previous.endedAt request.endedAt current.endedAt
    reason := written previous.reason request.reason current.reason
    expiresAt := written previous.expiresAt request.expiresAt current.expiresAt }

theorem rewritten_key (previous : RecordingProtection) (request : ProtectionRequest) (current : RecordingProtection) :
    Keyed.key (rewritten previous request current) = Keyed.key current := rfl

def insert (uuid4 : Supply Uuid) (db : Database) (cameraId : Uuid) (request : ProtectionRequest) : Database :=
  { db with protections := db.protections.create uuid4 (newProtection cameraId request)
                             (newProtection_key cameraId request) }

def rewrite (db : Database) (previous : RecordingProtection) (request : ProtectionRequest) : Database :=
  { db with protections := db.protections.modify previous.id (rewritten previous request)
                             (rewritten_key previous request) }

/-- The flush and the commit of a checked request. -/
def write (uuid4 : Supply Uuid) (db : Database) (change : ProtectionChange) : Result Database :=
  match change with
  | .insert cameraId request => .ok (insert uuid4 db cameraId request)
  | .update previous request =>
    match db.protections.get? previous.id with
    | none => .error .staleDataError
    | some current =>
      -- The check constraint: the columns of two updates may not fit together.
      if (rewritten previous request current).endedAt ≤ (rewritten previous request current).startedAt then
        .error .integrityError
      else .ok (rewrite db previous request)

def delete (db : Database) (protectionId : Uuid) : Database :=
  { db with protections := db.protections.remove protectionId }

theorem write_frame {uuid4 : Supply Uuid} {db db' : Database} {change : ProtectionChange}
    (isWritten : write uuid4 db change = .ok db') : db' = { db with protections := db'.protections } := by
  unfold write at isWritten
  split at isWritten
  · cases isWritten
    rfl
  split at isWritten
  · cases isWritten
  split at isWritten
  · cases isWritten
  · cases isWritten
    rfl

end RecordingProtectionService

end ZeroNvr
