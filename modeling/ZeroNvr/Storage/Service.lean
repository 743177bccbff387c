import ZeroNvr.Models
import ZeroNvr.Core.Errors

/-! # Storage targets

The selection of the archive target a segment is copied to.
-/

namespace ZeroNvr

/-- One location row is changed. -/
def Database.modifyLocation (db : Database) (id : Uuid) (f : RecordingLocation → RecordingLocation)
    (keeps : ∀ row, (f row).id = row.id := by intro _; rfl) : Database :=
  { db with locations := db.locations.modify id f keeps }

namespace StorageTargetService

def defaultArchiveTarget (db : Database) : Result StorageTarget :=
  let candidates := db.storageTargets.select fun target =>
    target.type = .rclone ∧ target.role = .archive ∧ target.enabled
  let defaults := candidates.filter fun item => Json.truthy (Dict.get item.config "default_archive")
  match defaults, candidates with
  | [target], _ => .ok target
  | _ :: _ :: _, _ => .error (apiError 409 "archive_target_ambiguous"
      "More than one default archive target is configured.")
  | [], [target] => .ok target
  | [], [] => .error (apiError 409 "archive_target_unconfigured"
      "No enabled rclone archive target is configured.")
  | [], _ :: _ :: _ => .error (apiError 409 "archive_target_ambiguous"
      "Multiple archive targets exist and none is selected as default.")

end StorageTargetService

end ZeroNvr
