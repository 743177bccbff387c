import ZeroNvr.Models
import ZeroNvr.Core.Errors

/-! # The capacity of local storage

`inspect` turns what `statvfs` reports into a level.  `statvfs` and the double
`used_bytes / total_bytes * 100.0` are parameters.
-/

namespace ZeroNvr

inductive StorageCapacityLevel where
  | normal | warning | high | critical
  deriving DecidableEq

def StorageCapacityLevel.text : StorageCapacityLevel → String
  | .normal => "normal"
  | .warning => "warning"
  | .high => "high"
  | .critical => "critical"

structure LocalStorageWatermarks where
  warningPercent : Int
  highPercent : Int
  criticalPercent : Int
  deriving DecidableEq

structure StatVfs where
  blocks : Int
  available : Int
  fragmentSize : Int

structure LocalStorageCapacity where
  totalBytes : Int
  freeBytes : Int
  usedBytes : Int
  usedPercent : ℚ
  level : StorageCapacityLevel
  watermarks : LocalStorageWatermarks

/-- What the capacity service takes from the machine; `statvfs` is `none` on an `OSError`. -/
structure CapacityEnv where
  statvfs : String → Option StatVfs
  percent : Int → Int → ℚ

namespace LocalStorageCapacityService

def warningKey : String := "warning_used_percent"
def highKey : String := "high_used_percent"
def criticalKey : String := "critical_used_percent"

/-- A whole number from the config, or the default. -/
def watermark (config : Dict) (key : String) (default : Int) : Result Int :=
  match Dict.get config key with
  | none => .ok default
  | some (.int raw) => .ok raw
  | some _ => .error (apiError 400 "storage_watermark_invalid"
      "Storage watermarks must be whole-number percentages.")

def watermarks (config : Dict) : Result LocalStorageWatermarks := do
  let warning ← watermark config warningKey 80
  let high ← watermark config highKey 85
  let critical ← watermark config criticalKey 95
  if 1 ≤ warning ∧ warning < high ∧ high < critical ∧ critical ≤ 99 then
    .ok { warningPercent := warning, highPercent := high, criticalPercent := critical }
  else .error (apiError 400 "storage_watermark_invalid"
    "Storage watermarks must satisfy 1 <= warning < high < critical <= 99.")

def levelOf (usedPercent : ℚ) (watermarks : LocalStorageWatermarks) : StorageCapacityLevel :=
  if watermarks.criticalPercent ≤ usedPercent then .critical
  else if watermarks.highPercent ≤ usedPercent then .high
  else if watermarks.warningPercent ≤ usedPercent then .warning
  else .normal

def inspect (env : CapacityEnv) (root : String) (config : Dict) : Result LocalStorageCapacity := do
  let watermarks ← watermarks config
  match env.statvfs root with
  | none => .error (apiError 409 "storage_target_path_unavailable"
      "Local storage target path is unavailable.")
  | some stats =>
    let totalBytes := stats.blocks * stats.fragmentSize
    let freeBytes := stats.available * stats.fragmentSize
    if totalBytes ≤ 0 then
      .error (apiError 409 "storage_capacity_unavailable" "Local storage capacity could not be determined.")
    else
      let usedBytes := max 0 (totalBytes - freeBytes)
      let usedPercent := min 100 (max 0 (env.percent usedBytes totalBytes))
      .ok { totalBytes, freeBytes, usedBytes, usedPercent, level := levelOf usedPercent watermarks, watermarks }

def normalizeConfig (config : Dict) : Result Dict := do
  let watermarks ← watermarks config
  .ok [(warningKey, .int watermarks.warningPercent), (highKey, .int watermarks.highPercent),
    (criticalKey, .int watermarks.criticalPercent)]

def ensureWriteCapacity (env : CapacityEnv) (root : String) (config : Dict) : Result LocalStorageCapacity := do
  let capacity ← inspect env root config
  if capacity.level = .critical then
    .error (apiError 507 "recording_storage_capacity_critical"
      "Recording storage is at the critical disk watermark.")
  else .ok capacity

end LocalStorageCapacityService

end ZeroNvr
