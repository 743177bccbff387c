import ZeroNvr.Lib.Sorting
import ZeroNvr.Lib.Table

/-! # Pruning the playback cache

`PlaybackCacheService._prune`: the files past the TTL go first, then the oldest ones
while the cache holds too many bytes.  How a path resolves and which files can be
unlinked are parameters.
-/

namespace ZeroNvr

open Lib

/-- A file of the cache directory. -/
structure CachedFile where
  path : String
  mtime : ℚ
  size : Nat
  deriving DecidableEq

instance : Keyed CachedFile String := ⟨CachedFile.path⟩

/-- What a call of `_prune` is given and finds. -/
structure PruneCall where
  resolve : String → String
  protectedPaths : List String
  /-- Whether `unlink` of the file succeeds. -/
  unlinks : CachedFile → Bool
  now : ℚ
  ttlSeconds : Int
  maxBytes : Nat

def totalSize (files : List CachedFile) : Nat := (files.map CachedFile.size).sum

/-- `(mtime, size, path)`, as tuples compare. -/
def CachedFile.sortKey (file : CachedFile) : ℚ ×ₗ ℕ ×ₗ String := toLex (file.mtime, toLex (file.size, file.path))

namespace PruneCall

variable (call : PruneCall)

def isProtected (file : CachedFile) : Bool := call.resolve file.path ∈ call.protectedPaths.map call.resolve

def isExpired (file : CachedFile) : Bool := (call.ttlSeconds : ℚ) < call.now - file.mtime

/-- The age pass: the files that are unlinked, and those that the size pass counts. -/
def expire : List CachedFile → List CachedFile × List CachedFile
  | [] => ([], [])
  | file :: files =>
    let (unlinked, counted) := expire files
    if !call.isProtected file && call.isExpired file then (if call.unlinks file then file :: unlinked else unlinked, counted)
    else (unlinked, file :: counted)

/-- The size pass: the files that are unlinked while too many bytes are left. -/
def evict : (total : Nat) → List CachedFile → List CachedFile
  | _, [] => []
  | total, file :: files =>
    if total ≤ call.maxBytes then []
    else if call.isProtected file then evict total files
    else if call.unlinks file then file :: evict (total - file.size) files
    else evict total files

/-- The files that a call unlinks, in order. -/
def prune (directory : Table CachedFile) : List CachedFile :=
  let (unlinked, files) := call.expire directory.rows
  let total := totalSize files
  if total ≤ call.maxBytes then unlinked
  else unlinked ++ call.evict total (files.insertionSort fun a b => a.sortKey ≤ b.sortKey)

end PruneCall

/-- The directory when some files are gone. -/
def without (directory : Table CachedFile) (unlinked : List CachedFile) : Table CachedFile :=
  directory.keep fun file => file ∉ unlinked

end ZeroNvr
