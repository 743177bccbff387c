import ZeroNvr.Lib.Outcome
import ZeroNvr.Lib.Run
import ZeroNvr.Storage.TargetAdmin

/-! # Routing of recordings to storage targets

Every way to store a target checks that no other enabled target of its role
claims the default flag, so at most one does in every reachable state.  Given
that, a switch of the recording target moves the cameras of the source and no
others: explicit policies are rewritten one by one, and cameras without one
follow the default flag.
-/

namespace ZeroNvr.StorageRouting

open Lib StorageTargetService

variable {paths : PathEnv} {env : TargetEnv} {uuid4 : Supply Uuid} {db db' : Database}

/-! ## The invariant -/

/-- An enabled local recording target that carries the default flag. -/
def RecordingDefault (target : StorageTarget) : Prop :=
  target.enabled = true ∧ target.type = .local ∧ target.role = .recording ∧
    Json.truthy (Dict.get target.config "default_recording") = true

/-- An enabled archive target that carries the default flag. -/
def ArchiveDefault (target : StorageTarget) : Prop :=
  target.enabled = true ∧ target.role = .archive ∧ Json.truthy (Dict.get target.config "default_archive") = true

/-- A configuration that `normalize_config` has let through: a local target has a path that resolves,
    and no archive flag. -/
def Normal (paths : PathEnv) (type : StorageType) (config : Dict) : Prop :=
  type = .local → Dict.get config "default_archive" = none ∧
    ∃ path, Dict.get config "path" = some (.str path) ∧ strip path ≠ "" ∧ (paths.resolveRoot path).isSome = true

/-- At most one target of the table satisfies the condition. -/
def AtMostOne (targets : Table StorageTarget) (p : StorageTarget → Prop) : Prop :=
  ∀ target ∈ targets, ∀ other ∈ targets, p target → p other → target = other

structure Routable (paths : PathEnv) (targets : Table StorageTarget) : Prop where
  recording : AtMostOne targets RecordingDefault
  archive : AtMostOne targets ArchiveDefault
  normal : ∀ target ∈ targets, Normal paths target.type target.config

/-- What `Path.resolve` returns is a path that resolves again. -/
def ResolvesAgain (paths : PathEnv) : Prop :=
  ∀ raw root, paths.resolveRoot raw = some root → strip root ≠ "" ∧ (paths.resolveRoot root).isSome = true

theorem normalizeConfig_normal (again : ResolvesAgain env.paths) {type : StorageType} {role : StorageRole}
    {config normalized : Dict} (done : normalizeConfig env type role config = .ok normalized) :
    Normal env.paths type normalized := by
  rintro rfl
  unfold normalizeConfig localConfig at done
  dsimp only at done
  split at done
  · cases done
  · split at done
    · split at done
      · cases done
      · split at done
        · cases done
        next path resolved =>
          split at done
          · cases done
          · rw [bind_eq_ok] at done
            obtain ⟨watermarks, isWatermarks, done⟩ := done
            unfold LocalStorageCapacityService.normalizeConfig at isWatermarks
            rw [bind_eq_ok] at isWatermarks
            obtain ⟨values, _, isWatermarks⟩ := isWatermarks
            cases isWatermarks
            cases done
            exact ⟨rfl, path, rfl, again _ _ resolved⟩
    · cases done

/-- The provider of the credentials is neither a flag nor a path. -/
theorem get_set_provider (config : Dict) (value : Json) {key : String} (differs : key ≠ "provider") :
    Dict.get (Dict.set config "provider" value) key = Dict.get config key := by
  have absent : Dict.get [("provider", value)] key = none := by
    rw [Dict.get, List.lookup_cons, beq_false_of_ne differs]
    rfl
  rw [Dict.set, Dict.get_merge, absent, Option.none_or]

/-- The two targets claim the same flags and are equally normal. -/
structure SameClaims (paths : PathEnv) (target other : StorageTarget) : Prop where
  id : other.id = target.id
  recording : RecordingDefault other ↔ RecordingDefault target
  archive : ArchiveDefault other ↔ ArchiveDefault target
  normal : Normal paths other.type other.config ↔ Normal paths target.type target.config

theorem SameClaims.refl (target : StorageTarget) : SameClaims paths target target :=
  ⟨rfl, Iff.rfl, Iff.rfl, Iff.rfl⟩

theorem sameClaims_provider (target : StorageTarget) (value : Json) :
    SameClaims paths target { target with config := Dict.set target.config "provider" value } := by
  refine ⟨rfl, ?_, ?_, ?_⟩
  · simp only [RecordingDefault, get_set_provider target.config value (show "default_recording" ≠ "provider" by decide)]
  · simp only [ArchiveDefault, get_set_provider target.config value (show "default_archive" ≠ "provider" by decide)]
  · simp only [Normal, get_set_provider target.config value (show "default_archive" ≠ "provider" by decide),
      get_set_provider target.config value (show "path" ≠ "provider" by decide)]

theorem newCredentials_sameClaims {target stored : StorageTarget} {rcloneConfig : Option String}
    {openlistWebdav : Option Dict}
    (done : newCredentials env target rcloneConfig openlistWebdav = .ok stored) :
    SameClaims paths target stored := by
  unfold newCredentials at done
  split at done
  · cases done
  · rw [bind_eq_ok] at done
    obtain ⟨text, _, done⟩ := done
    rw [bind_eq_ok] at done
    obtain ⟨_, _, done⟩ := done
    cases done
    exact sameClaims_provider target _
  · rw [bind_eq_ok] at done
    obtain ⟨_, _, done⟩ := done
    cases done
    exact .refl target
  · cases done

theorem replacement_sameClaims {changes : Dict} {openlistWebdav : Option Dict} {target : StorageTarget}
    {stored : StorageTarget × String}
    (done : StorageTargetService.replacement env changes openlistWebdav target = .ok stored) :
    SameClaims paths target stored.1 := by
  unfold StorageTargetService.replacement at done
  dsimp only at done
  split at done
  · cases done
  · rw [bind_eq_ok] at done
    obtain ⟨text, _, done⟩ := done
    cases done
    exact sameClaims_provider target _
  · cases done
    exact .refl target
  · cases done

theorem changedCredentials_sameClaims {changes : Dict} {openlistWebdav : Option Dict} {target stored : StorageTarget}
    (done : changedCredentials env changes openlistWebdav target = .ok stored) : SameClaims paths target stored := by
  unfold changedCredentials at done
  dsimp only at done
  split at done
  · cases done
  · split at done
    · cases done
    · split at done
      · rw [bind_eq_ok] at done
        obtain ⟨⟨replaced, text⟩, isReplaced, done⟩ := done
        dsimp only at done
        rw [bind_eq_ok] at done
        obtain ⟨_, _, done⟩ := done
        cases done
        exact replacement_sameClaims isReplaced
      · split at done
        · split at done
          · cases done
          · rw [bind_eq_ok] at done
            obtain ⟨_, _, done⟩ := done
            cases done
            exact .refl target
        · split at done
          · cases done
          · cases done
            exact .refl target

/-! ## One target at a time -/

theorem claimsRecording_iff {target : StorageTarget} :
    claimsDefault .local .recording "default_recording" target = true ↔ RecordingDefault target := by
  simp only [claimsDefault, decide_eq_true_eq, RecordingDefault]
  constructor
  · rintro ⟨isLocal, isRecording, enabled, flag⟩
    exact ⟨enabled, isLocal, isRecording, flag⟩
  · rintro ⟨enabled, isLocal, isRecording, flag⟩
    exact ⟨isLocal, isRecording, enabled, flag⟩

/-- A normal target with the archive flag is an rclone target. -/
theorem claimsArchive_iff {target : StorageTarget} (normal : Normal paths target.type target.config) :
    claimsDefault .rclone .archive "default_archive" target = true ↔ ArchiveDefault target := by
  simp only [claimsDefault, decide_eq_true_eq, ArchiveDefault]
  constructor
  · rintro ⟨_, isArchive, enabled, flag⟩
    exact ⟨enabled, isArchive, flag⟩
  · rintro ⟨enabled, isArchive, flag⟩
    refine ⟨?_, isArchive, enabled, flag⟩
    cases type : target.type with
    | rclone => rfl
    | «local» =>
      rw [(normal type).1] at flag
      cases flag

theorem ensureUnique_ok {targetId : Option Uuid} {target : StorageTarget} {type : StorageType} {role : StorageRole}
    {flagKey errorCode errorMessage : String}
    (checked : ensureDefaultTargetUnique db targetId target type role flagKey errorCode errorMessage = .ok ())
    (claims : claimsDefault type role flagKey target = true) :
    ∀ existing ∈ db.storageTargets, claimsDefault type role flagKey existing = true → some existing.id = targetId := by
  unfold ensureDefaultTargetUnique at checked
  rw [if_neg (not_not.mpr claims)] at checked
  split at checked
  · cases checked
  next noOther =>
    intro existing member existingClaims
    by_contra differs
    exact noOther (List.any_eq_true.mpr ⟨existing, member, decide_eq_true ⟨existingClaims, differs⟩⟩)

/-- What the two uniqueness checks say about the target that is going to be stored. -/
structure Claims (targets : Table StorageTarget) (targetId : Option Uuid) (target : StorageTarget) : Prop where
  recording : RecordingDefault target → ∀ existing ∈ targets, RecordingDefault existing → some existing.id = targetId
  archive : ArchiveDefault target → ∀ existing ∈ targets, ArchiveDefault existing → some existing.id = targetId

theorem claims_of_checked (routable : Routable paths db.storageTargets) {targetId : Option Uuid}
    {target : StorageTarget} (normal : Normal paths target.type target.config)
    (recording : ensureDefaultRecordingUnique db targetId target = .ok ())
    (archive : ensureDefaultArchiveUnique db targetId target = .ok ()) :
    Claims db.storageTargets targetId target := by
  refine ⟨fun isDefault existing member existingDefault => ?_, fun isDefault existing member existingDefault => ?_⟩
  · exact ensureUnique_ok recording (claimsRecording_iff.mpr isDefault) existing member
      (claimsRecording_iff.mpr existingDefault)
  · exact ensureUnique_ok archive ((claimsArchive_iff normal).mpr isDefault) existing member
      ((claimsArchive_iff (routable.normal existing member)).mpr existingDefault)

theorem SameClaims.claims {targets : Table StorageTarget} {targetId : Option Uuid} {target stored : StorageTarget}
    (same : SameClaims paths target stored) (claims : Claims targets targetId target) :
    Claims targets targetId stored :=
  ⟨fun isDefault => claims.recording (same.recording.mp isDefault),
    fun isDefault => claims.archive (same.archive.mp isDefault)⟩

theorem atMostOne_insert {targets grown : Table StorageTarget} {target : StorageTarget} {p : StorageTarget → Prop}
    (atMostOne : AtMostOne targets p) (alone : p target → ∀ existing ∈ targets, ¬ p existing)
    (inserted : targets.insert? target = some grown) : AtMostOne grown p := by
  intro one oneMember other otherMember oneHolds otherHolds
  rcases (Table.mem_insert? inserted).mp oneMember with oneOld | rfl <;>
    rcases (Table.mem_insert? inserted).mp otherMember with otherOld | rfl
  · exact atMostOne one oneOld other otherOld oneHolds otherHolds
  · exact absurd oneHolds (alone otherHolds one oneOld)
  · exact absurd otherHolds (alone oneHolds other otherOld)
  · rfl

theorem Routable.insert {target : StorageTarget} (routable : Routable paths db.storageTargets)
    (claims : Claims db.storageTargets none target) (normal : Normal paths target.type target.config)
    (inserted : insertTarget db target = .ok db') : Routable paths db'.storageTargets := by
  unfold insertTarget at inserted
  split at inserted
  next grown isGrown =>
    cases inserted
    refine ⟨atMostOne_insert routable.recording ?_ isGrown, atMostOne_insert routable.archive ?_ isGrown, ?_⟩
    · exact fun isDefault existing member existingDefault => by cases claims.recording isDefault existing member existingDefault
    · exact fun isDefault existing member existingDefault => by cases claims.archive isDefault existing member existingDefault
    · intro row member
      rcases (Table.mem_insert? isGrown).mp member with old | rfl
      · exact routable.normal row old
      · exact normal
  next => cases inserted

theorem mem_storeTarget {target row : StorageTarget} (member : row ∈ (storeTarget db target).storageTargets) :
    (row ∈ db.storageTargets ∧ row.id ≠ target.id) ∨ row = target := by
  have modified : row ∈ db.storageTargets.modify target.id (stored target) (stored_key target) ↔ _ := Table.mem_modify
  obtain ⟨old, oldMember, isRow⟩ := modified.mp member
  split at isRow
  next same =>
    refine .inr (isRow.symm.trans ?_)
    have sameId : old.id = target.id := same
    unfold stored
    rw [sameId]
  next differs =>
    subst isRow
    exact .inl ⟨oldMember, differs⟩

theorem mem_storeTarget_of_ne {target row : StorageTarget} (member : row ∈ db.storageTargets)
    (differs : row.id ≠ target.id) : row ∈ (storeTarget db target).storageTargets := by
  have modified : row ∈ db.storageTargets.modify target.id (stored target) (stored_key target) ↔ _ := Table.mem_modify
  exact modified.mpr ⟨row, member, if_neg differs⟩

theorem atMostOne_store {target : StorageTarget} {p : StorageTarget → Prop}
    (atMostOne : AtMostOne db.storageTargets p)
    (alone : p target → ∀ existing ∈ db.storageTargets, p existing → existing.id = target.id) :
    AtMostOne (storeTarget db target).storageTargets p := by
  intro one oneMember other otherMember oneHolds otherHolds
  rcases mem_storeTarget oneMember with ⟨oneOld, oneDiffers⟩ | rfl <;>
    rcases mem_storeTarget otherMember with ⟨otherOld, otherDiffers⟩ | rfl
  · exact atMostOne one oneOld other otherOld oneHolds otherHolds
  · exact absurd (alone otherHolds one oneOld oneHolds) oneDiffers
  · exact absurd (alone oneHolds other otherOld otherHolds) otherDiffers
  · rfl

theorem Routable.store {target : StorageTarget} (routable : Routable paths db.storageTargets)
    (claims : Claims db.storageTargets (some target.id) target) (normal : Normal paths target.type target.config) :
    Routable paths (storeTarget db target).storageTargets := by
  refine ⟨atMostOne_store routable.recording ?_, atMostOne_store routable.archive ?_, ?_⟩
  · exact fun isDefault existing member existingDefault =>
      Option.some.inj (claims.recording isDefault existing member existingDefault)
  · exact fun isDefault existing member existingDefault =>
      Option.some.inj (claims.archive isDefault existing member existingDefault)
  · intro row member
    rcases mem_storeTarget member with ⟨old, _⟩ | rfl
    · exact routable.normal row old
    · exact normal

/-! ## The operations keep the invariant -/

theorem create_routable (again : ResolvesAgain env.paths) (routable : Routable env.paths db.storageTargets)
    {type : StorageType} {role : StorageRole} {name : String} {enabled : Bool} {config : Dict}
    {rcloneConfig : Option String} {openlistWebdav : Option Dict}
    (done : create env uuid4 db type role name enabled config rcloneConfig openlistWebdav = .ok db') :
    Routable env.paths db'.storageTargets := by
  unfold create at done
  rw [bind_eq_ok] at done
  obtain ⟨normalized, isNormalized, done⟩ := done
  rw [bind_eq_ok] at done
  obtain ⟨_, _, done⟩ := done
  dsimp only at done
  rw [bind_eq_ok] at done
  obtain ⟨_, recording, done⟩ := done
  rw [bind_eq_ok] at done
  obtain ⟨_, archive, done⟩ := done
  have normal := normalizeConfig_normal again isNormalized
  have claims := claims_of_checked routable normal recording archive
  cases type with
  | rclone =>
    dsimp only at done
    rw [bind_eq_ok] at done
    obtain ⟨stored, isStored, done⟩ := done
    have same : SameClaims env.paths _ stored := newCredentials_sameClaims isStored
    exact routable.insert (same.claims claims) (same.normal.mpr normal) done
  | «local» =>
    dsimp only at done
    split at done
    · cases done
    · exact routable.insert claims normal done

theorem changedName_eq {changes : Dict} {target named : StorageTarget}
    (done : changedName db changes target = .ok named) :
    named.id = target.id ∧ named.type = target.type ∧ named.config = target.config := by
  unfold changedName at done
  dsimp only at done
  split at done
  · cases done
    exact ⟨rfl, rfl, rfl⟩
  · split at done
    · cases done
    · rw [bind_eq_ok] at done
      obtain ⟨_, _, done⟩ := done
      cases done
      exact ⟨rfl, rfl, rfl⟩
  · cases done

theorem changedEnabled_eq (changes : Dict) (target : StorageTarget) :
    (changedEnabled changes target).id = target.id ∧ (changedEnabled changes target).type = target.type ∧
      (changedEnabled changes target).config = target.config := by
  unfold changedEnabled
  split <;> exact ⟨rfl, rfl, rfl⟩

theorem changedConfig_normal (again : ResolvesAgain env.paths) {changes : Dict} {target configured : StorageTarget}
    (normal : Normal env.paths target.type target.config)
    (done : changedConfig env changes target = .ok configured) :
    configured.id = target.id ∧ Normal env.paths configured.type configured.config := by
  unfold changedConfig at done
  split at done
  · cases done
    exact ⟨rfl, normal⟩
  · rw [bind_eq_ok] at done
    obtain ⟨normalized, isNormalized, done⟩ := done
    split at done
    · cases done
    · cases done
      exact ⟨rfl, normalizeConfig_normal again isNormalized⟩
  · cases done

theorem get_eq_ok {targetId : Uuid} {target : StorageTarget} (found : StorageTargetService.get db targetId = .ok target) :
    target ∈ db.storageTargets ∧ target.id = targetId := by
  unfold StorageTargetService.get at found
  split at found
  next isFound =>
    cases found
    exact ⟨Table.mem_of_get? isFound, Table.key_of_get? isFound⟩
  next => cases found

theorem update_routable (again : ResolvesAgain env.paths) (routable : Routable env.paths db.storageTargets)
    {targetId : Uuid} {changes : Dict} (done : update env db targetId changes = .ok db') :
    Routable env.paths db'.storageTargets := by
  unfold update at done
  rw [bind_eq_ok] at done
  obtain ⟨target, isTarget, done⟩ := done
  rw [bind_eq_ok] at done
  obtain ⟨openlistWebdav, _, done⟩ := done
  rw [bind_eq_ok] at done
  obtain ⟨named, isNamed, done⟩ := done
  rw [bind_eq_ok] at done
  obtain ⟨configured, isConfigured, done⟩ := done
  rw [bind_eq_ok] at done
  obtain ⟨_, recording, done⟩ := done
  rw [bind_eq_ok] at done
  obtain ⟨_, archive, done⟩ := done
  rw [bind_eq_ok] at done
  obtain ⟨updated, isUpdated, done⟩ := done
  cases done
  obtain ⟨member, isId⟩ := get_eq_ok isTarget
  obtain ⟨namedId, namedType, namedConfig⟩ := changedName_eq isNamed
  obtain ⟨enabledId, enabledType, enabledConfig⟩ := changedEnabled_eq changes named
  have normal : Normal env.paths (changedEnabled changes named).type (changedEnabled changes named).config := by
    rw [enabledType, enabledConfig, namedType, namedConfig]
    exact routable.normal target member
  obtain ⟨configuredId, configuredNormal⟩ := changedConfig_normal again normal isConfigured
  have same : SameClaims env.paths configured updated := changedCredentials_sameClaims isUpdated
  have claims := same.claims (claims_of_checked routable configuredNormal recording archive)
  have updatedId : updated.id = targetId := by
    rw [same.id, configuredId, enabledId, namedId, isId]
  rw [← updatedId] at claims
  exact routable.store claims (same.normal.mpr configuredNormal)

theorem delete_routable (routable : Routable paths db.storageTargets) {targetId : Uuid}
    (done : delete env db targetId = .ok db') : Routable paths db'.storageTargets := by
  unfold delete at done
  rw [bind_eq_ok] at done
  obtain ⟨target, _, done⟩ := done
  split at done
  · cases done
  · rw [bind_eq_ok] at done
    obtain ⟨_, _, done⟩ := done
    cases done
    have kept : ∀ row ∈ db.storageTargets.remove target.id, row ∈ db.storageTargets :=
      fun row member => (Table.mem_remove.mp member).1
    exact ⟨fun one oneMember other otherMember => routable.recording one (kept one oneMember) other (kept other otherMember),
      fun one oneMember other otherMember => routable.archive one (kept one oneMember) other (kept other otherMember),
      fun row member => routable.normal row (kept row member)⟩

/-! ## Resolution -/

/-- The camera records to the target with the given id. -/
def ResolvesTo (paths : PathEnv) (db : Database) (cameraId id : Uuid) : Prop :=
  ∃ resolved, RecordingStorageResolver.localTargetForCamera paths db cameraId = .ok resolved ∧ resolved.target.id = id

/-- The target the camera's policy names. -/
def explicitTarget (db : Database) (cameraId : Uuid) : Option Uuid :=
  (db.recordingPolicies.get? cameraId).bind RecordingPolicy.storageTargetId

/-- The target is the only candidate for cameras whose policy names none. -/
def Implicit (db : Database) (target : StorageTarget) : Prop :=
  activeDefaults db = [target] ∨
    (activeDefaults db = [] ∧ db.storageTargets.select RecordingStorageResolver.isLocalRecording = [target])

structure Routes (db : Database) (cameraId : Uuid) (target : StorageTarget) : Prop where
  member : target ∈ db.storageTargets
  recording : RecordingStorageResolver.isLocalRecording target = true
  explicit : ∀ id, explicitTarget db cameraId = some id → target.id = id
  implicit : explicitTarget db cameraId = none → Implicit db target

theorem mem_activeDefaults {target : StorageTarget} :
    target ∈ activeDefaults db ↔ target ∈ db.storageTargets ∧ RecordingDefault target := by
  rw [activeDefaults, List.mem_filter, Table.mem_select, RecordingStorageResolver.isLocalRecording,
    decide_eq_true_eq, RecordingDefault]
  constructor
  · rintro ⟨⟨member, isLocal, isRecording, enabled⟩, flag⟩
    exact ⟨member, enabled, isLocal, isRecording, flag⟩
  · rintro ⟨member, enabled, isLocal, isRecording, flag⟩
    exact ⟨⟨member, isLocal, isRecording, enabled⟩, flag⟩

theorem selectTarget_eq_ok {cameraId : Uuid} {target : StorageTarget} :
    RecordingStorageResolver.selectTarget db cameraId = .ok target ↔
      (∃ id, explicitTarget db cameraId = some id ∧ db.storageTargets.get? id = some target) ∨
        (explicitTarget db cameraId = none ∧ Implicit db target) := by
  unfold RecordingStorageResolver.selectTarget
  rw [show (db.recordingPolicies.get? cameraId).bind RecordingPolicy.storageTargetId =
    explicitTarget db cameraId from rfl]
  cases named : explicitTarget db cameraId with
  | some id =>
    dsimp only
    cases found : db.storageTargets.get? id with
    | none => simp [found]
    | some other => simp [found]
  | none =>
    dsimp only
    rw [show (db.storageTargets.select RecordingStorageResolver.isLocalRecording).filter
      (fun item => Json.truthy (Dict.get item.config "default_recording")) = activeDefaults db from rfl]
    simp only [reduceCtorEq, false_and, exists_false, true_and, false_or, Implicit]
    cases defaults : activeDefaults db with
    | cons first rest =>
      cases rest with
      | nil => simp
      | cons second rest => simp
    | nil =>
      cases candidates : db.storageTargets.select RecordingStorageResolver.isLocalRecording with
      | nil => simp
      | cons first rest =>
        cases rest with
        | nil => simp
        | cons second rest => simp

theorem resolvesTo_iff (routable : Routable paths db.storageTargets) {cameraId id : Uuid} :
    ResolvesTo paths db cameraId id ↔ ∃ target, Routes db cameraId target ∧ target.id = id := by
  constructor
  · rintro ⟨resolved, isResolved, rfl⟩
    unfold RecordingStorageResolver.localTargetForCamera at isResolved
    rw [bind_eq_ok] at isResolved
    obtain ⟨target, selected, isResolved⟩ := isResolved
    split at isResolved
    · cases isResolved
    next recording =>
      have isTarget : resolved.target = target := by
        dsimp only at isResolved
        repeat' split at isResolved
        all_goals cases isResolved
        all_goals rfl
      refine ⟨target, ?_, by rw [isTarget]⟩
      rcases selectTarget_eq_ok.mp selected with ⟨named, isNamed, found⟩ | ⟨unnamed, implicit⟩
      · refine ⟨Table.mem_of_get? found, not_not.mp recording, fun other isOther => ?_, fun none => ?_⟩
        · rw [isNamed] at isOther
          cases isOther
          exact Table.key_of_get? found
        · rw [isNamed] at none
          cases none
      · refine ⟨?_, not_not.mp recording, fun other isOther => ?_, fun _ => implicit⟩
        · rcases implicit with isDefault | ⟨_, isCandidate⟩
          · exact (mem_activeDefaults.mp (by rw [isDefault]; exact List.mem_singleton_self _)).1
          · exact (Table.mem_select.mp (by rw [isCandidate]; exact List.mem_singleton_self _)).1
        · rw [unnamed] at isOther
          cases isOther
  · rintro ⟨target, routes, rfl⟩
    have selected : RecordingStorageResolver.selectTarget db cameraId = .ok target := by
      refine selectTarget_eq_ok.mpr ?_
      cases named : explicitTarget db cameraId with
      | some id =>
        refine .inl ⟨id, rfl, ?_⟩
        rw [← routes.explicit id named]
        exact Table.get?_of_mem routes.member
      | none => exact .inr ⟨rfl, routes.implicit named⟩
    have recording := routes.recording
    have isLocal : target.type = .local := by
      rw [RecordingStorageResolver.isLocalRecording, decide_eq_true_eq] at recording
      exact recording.1
    obtain ⟨_, path, isPath, notBlank, resolves⟩ := routable.normal target routes.member isLocal
    obtain ⟨root, isRoot⟩ := Option.isSome_iff_exists.mp resolves
    refine ⟨{ target, root }, ?_, rfl⟩
    unfold RecordingStorageResolver.localTargetForCamera
    rw [selected]
    dsimp only [bind, Except.bind]
    rw [if_neg (not_not.mpr recording), isPath]
    dsimp only
    rw [if_neg notBlank, isRoot]

/-! ## The switch -/

section Switch

variable {sourceId destinationId : Uuid} {source destination : StorageTarget}

/-- What a switch that returns has checked. -/
structure Switchable (db : Database) (sourceId destinationId : Uuid) (source destination : StorageTarget) : Prop where
  source_member : source ∈ db.storageTargets
  source_id : source.id = sourceId
  source_recording : isRecordingTarget source = true
  destination_member : destination ∈ db.storageTargets
  destination_id : destination.id = destinationId
  destination_recording : RecordingStorageResolver.isLocalRecording destination = true
  differ : sourceId ≠ destinationId

/-- The policies once every one that names the source names the destination. -/
def routed (db : Database) (sourceId destinationId : Uuid) : Database :=
  { db with recordingPolicies := db.recordingPolicies.mapRows (rebound sourceId destinationId) (rebound_key _ _) }

/-- The targets once the default flag has moved. -/
def moved (db : Database) (source destination : StorageTarget) : Database :=
  storeTarget (storeTarget (routed db source.id destination.id) (withDefaultRecording source false))
    (withDefaultRecording destination true)

theorem checkRoute_eq_ok {pathPair : String × String} (checked : checkRoute source destination = .ok pathPair) :
    source.id ≠ destination.id ∧ isRecordingTarget source = true ∧
      RecordingStorageResolver.isLocalRecording destination = true := by
  unfold checkRoute at checked
  split at checked
  · cases checked
  next differ =>
    split at checked
    · cases checked
    next isSource =>
      split at checked
      · cases checked
      next isDestination =>
        split at checked
        · cases checked
        next enabled =>
          refine ⟨differ, not_not.mp isSource, ?_⟩
          have kind := not_not.mp isDestination
          simp only [isRecordingTarget, decide_eq_true_eq] at kind
          rw [RecordingStorageResolver.isLocalRecording, decide_eq_true_eq]
          exact ⟨kind.1, kind.2, not_not.mp enabled⟩

/-- A switch rewrites the policies, and moves the default flag where the source carries it or no
    target does. -/
theorem switch_cases {result : RecordingTargetSwitchResult}
    (done : switchRecordingTarget env db sourceId destinationId = .ok (db', result)) :
    ∃ source destination, Switchable db sourceId destinationId source destination ∧
      ((source ∉ activeDefaults db ∧ db' = routed db sourceId destinationId) ∨
        ((source ∈ activeDefaults db ∨ activeDefaults db = []) ∧ db' = moved db source destination ∧
          ensureDefaultRecordingUnique db' (some destination.id) (withDefaultRecording destination true) = .ok ())) := by
  unfold switchRecordingTarget at done
  rw [bind_eq_ok] at done
  obtain ⟨source, isSource, done⟩ := done
  rw [bind_eq_ok] at done
  obtain ⟨destination, isDestination, done⟩ := done
  rw [bind_eq_ok] at done
  obtain ⟨⟨sourcePath, destinationPath⟩, checked, done⟩ := done
  dsimp only at done
  rw [bind_eq_ok] at done
  obtain ⟨_, _, done⟩ := done
  obtain ⟨sourceMember, rfl⟩ := get_eq_ok isSource
  obtain ⟨destinationMember, rfl⟩ := get_eq_ok isDestination
  obtain ⟨differ, sourceRecording, destinationRecording⟩ := checkRoute_eq_ok checked
  refine ⟨source, destination, ⟨sourceMember, rfl, sourceRecording, destinationMember, rfl, destinationRecording,
    differ⟩, ?_⟩
  have isDefault : ((activeDefaults db).any fun item => item.id = source.id) = true ↔ source ∈ activeDefaults db := by
    rw [List.any_eq_true]
    constructor
    · rintro ⟨item, member, same⟩
      have itemMember := (mem_activeDefaults.mp member).1
      rwa [Table.eq_of_key_eq itemMember sourceMember (of_decide_eq_true same)] at member
    · exact fun member => ⟨source, member, decide_eq_true rfl⟩
  split at done
  · cases done
  · split at done
    next moves =>
      rw [bind_eq_ok] at done
      obtain ⟨_, unique, done⟩ := done
      cases done
      refine .inr ⟨?_, rfl, unique⟩
      rw [Bool.or_eq_true, isDefault, Bool.and_eq_true, List.isEmpty_iff] at moves
      exact moves.imp_right And.left
    next stays =>
      cases done
      refine .inl ⟨fun isActive => stays ?_, rfl⟩
      rw [Bool.or_eq_true, isDefault]
      exact .inl isActive

theorem get_set_default (config : Dict) (flag : Bool) {key : String} (differs : key ≠ "default_recording") :
    Dict.get (Dict.set config "default_recording" (.bool flag)) key = Dict.get config key := by
  have absent : Dict.get [("default_recording", Json.bool flag)] key = none := by
    rw [Dict.get, List.lookup_cons, beq_false_of_ne differs]
    rfl
  rw [Dict.set, Dict.get_merge, absent, Option.none_or]

theorem withDefaultRecording_flag (target : StorageTarget) (flag : Bool) :
    Json.truthy (Dict.get (withDefaultRecording target flag).config "default_recording") = flag := by
  rw [withDefaultRecording, Dict.set, Dict.get_merge]
  rfl

theorem withDefaultRecording_normal {target : StorageTarget} {flag : Bool}
    (normal : Normal paths target.type target.config) :
    Normal paths (withDefaultRecording target flag).type (withDefaultRecording target flag).config := by
  simp only [Normal, withDefaultRecording,
    get_set_default target.config flag (show "default_archive" ≠ "default_recording" by decide),
    get_set_default target.config flag (show "path" ≠ "default_recording" by decide)]
  exact normal

theorem Switchable.destination_default (switchable : Switchable db sourceId destinationId source destination) :
    RecordingDefault (withDefaultRecording destination true) := by
  have recording := switchable.destination_recording
  rw [RecordingStorageResolver.isLocalRecording, decide_eq_true_eq] at recording
  exact ⟨recording.2.2, recording.1, recording.2.1, withDefaultRecording_flag destination true⟩

/-- A moved target table: the source without the flag, the destination with it, and the others as
    they were. -/
theorem mem_moved (switchable : Switchable db sourceId destinationId source destination) {row : StorageTarget}
    (member : row ∈ (moved db source destination).storageTargets) :
    (row ∈ db.storageTargets ∧ row.id ≠ sourceId ∧ row.id ≠ destinationId) ∨
      row = withDefaultRecording source false ∨ row = withDefaultRecording destination true := by
  rcases mem_storeTarget member with ⟨inner, notDestination⟩ | rfl
  · rcases mem_storeTarget inner with ⟨old, notSource⟩ | rfl
    · exact .inl ⟨old, fun same => notSource (same.trans switchable.source_id.symm),
        fun same => notDestination (same.trans switchable.destination_id.symm)⟩
    · exact .inr (.inl rfl)
  · exact .inr (.inr rfl)

theorem storeTarget_self {row target : StorageTarget} (member : row ∈ db.storageTargets) (same : row.id = target.id) :
    target ∈ (storeTarget db target).storageTargets := by
  have modified : target ∈ db.storageTargets.modify target.id (stored target) (stored_key target) ↔ _ :=
    Table.mem_modify
  refine modified.mpr ⟨row, member, ?_⟩
  have sameKey : Keyed.key row = target.id := same
  rw [if_pos sameKey]
  unfold stored
  rw [same]

theorem Switchable.destination_moved (switchable : Switchable db sourceId destinationId source destination) :
    withDefaultRecording destination true ∈ (moved db source destination).storageTargets := by
  have kept : destination ∈
      (storeTarget (routed db source.id destination.id) (withDefaultRecording source false)).storageTargets := by
    refine mem_storeTarget_of_ne switchable.destination_member fun same => switchable.differ ?_
    rw [← switchable.source_id, ← switchable.destination_id, same]
    rfl
  exact storeTarget_self kept rfl

theorem Switchable.kept_moved (switchable : Switchable db sourceId destinationId source destination)
    {row : StorageTarget} (member : row ∈ db.storageTargets) (notSource : row.id ≠ sourceId)
    (notDestination : row.id ≠ destinationId) : row ∈ (moved db source destination).storageTargets := by
  refine mem_storeTarget_of_ne (mem_storeTarget_of_ne member fun same => notSource ?_) fun same => notDestination ?_
  · rw [same, ← switchable.source_id]
    rfl
  · rw [same, ← switchable.destination_id]
    rfl

/-- After the flag has moved the destination is the one default. -/
theorem Switchable.moved_default (switchable : Switchable db sourceId destinationId source destination)
    (unique : ensureDefaultRecordingUnique (moved db source destination) (some destination.id)
      (withDefaultRecording destination true) = .ok ()) {target : StorageTarget}
    (member : target ∈ (moved db source destination).storageTargets) (isDefault : RecordingDefault target) :
    target = withDefaultRecording destination true := by
  have sameId := ensureUnique_ok unique (claimsRecording_iff.mpr switchable.destination_default) target member
    (claimsRecording_iff.mpr isDefault)
  exact Table.eq_of_key_eq member switchable.destination_moved (Option.some.inj sameId)

theorem Switchable.moved_routable (switchable : Switchable db sourceId destinationId source destination)
    (routable : Routable paths db.storageTargets)
    (unique : ensureDefaultRecordingUnique (moved db source destination) (some destination.id)
      (withDefaultRecording destination true) = .ok ()) :
    Routable paths (moved db source destination).storageTargets := by
  have notArchive : ∀ row, row = withDefaultRecording source false ∨ row = withDefaultRecording destination true →
      ¬ ArchiveDefault row := by
    rintro row (rfl | rfl) ⟨_, isArchive, _⟩
    · have recording := switchable.source_recording
      rw [isRecordingTarget, decide_eq_true_eq] at recording
      exact absurd (recording.2.symm.trans isArchive) (by decide)
    · have recording := switchable.destination_recording
      rw [RecordingStorageResolver.isLocalRecording, decide_eq_true_eq] at recording
      exact absurd (recording.2.1.symm.trans isArchive) (by decide)
  refine ⟨?_, ?_, ?_⟩
  · intro one oneMember other otherMember oneDefault otherDefault
    rw [switchable.moved_default unique oneMember oneDefault,
      switchable.moved_default unique otherMember otherDefault]
  · intro one oneMember other otherMember oneDefault otherDefault
    rcases mem_moved switchable oneMember with ⟨oneOld, _⟩ | isRecording
    · rcases mem_moved switchable otherMember with ⟨otherOld, _⟩ | isRecording
      · exact routable.archive one oneOld other otherOld oneDefault otherDefault
      · exact absurd otherDefault (notArchive other isRecording)
    · exact absurd oneDefault (notArchive one isRecording)
  · intro row member
    rcases mem_moved switchable member with ⟨old, _⟩ | rfl | rfl
    · exact routable.normal row old
    · exact withDefaultRecording_normal (routable.normal source switchable.source_member)
    · exact withDefaultRecording_normal (routable.normal destination switchable.destination_member)

theorem switch_routable (routable : Routable paths db.storageTargets) {result : RecordingTargetSwitchResult}
    (done : switchRecordingTarget env db sourceId destinationId = .ok (db', result)) :
    Routable paths db'.storageTargets := by
  obtain ⟨source, destination, switchable, ⟨_, rfl⟩ | ⟨_, rfl, unique⟩⟩ := switch_cases done
  · exact routable
  · exact switchable.moved_routable routable unique

/-! ## Where the cameras go -/

/-- The destination takes the place of the source. -/
def swap (sourceId destinationId id : Uuid) : Uuid := if id = sourceId then destinationId else id

theorem explicitTarget_routed (cameraId : Uuid) :
    explicitTarget (routed db sourceId destinationId) cameraId =
      (explicitTarget db cameraId).map (swap sourceId destinationId) := by
  unfold explicitTarget routed
  rw [Table.get?_mapRows]
  cases db.recordingPolicies.get? cameraId with
  | none => rfl
  | some policy =>
    rw [Option.map_some, Option.bind_some, Option.bind_some, rebound]
    cases named : policy.storageTargetId with
    | none => simp [named]
    | some id =>
      by_cases same : id = sourceId
      · simp [swap, same]
      · simp [swap, same, named]

theorem eq_singleton_of_nodup {items : List StorageTarget} {target : StorageTarget} (nodup : items.Nodup)
    (member : target ∈ items) (only : ∀ item ∈ items, item = target) : items = [target] := by
  cases items with
  | nil => cases member
  | cons first rest =>
    obtain rfl := only first List.mem_cons_self
    cases rest with
    | nil => rfl
    | cons second rest =>
      have isFirst := only second (List.mem_cons_of_mem _ List.mem_cons_self)
      rw [isFirst] at nodup
      exact absurd List.mem_cons_self (List.nodup_cons.mp nodup).1

theorem Switchable.moved_implicit (switchable : Switchable db sourceId destinationId source destination)
    (unique : ensureDefaultRecordingUnique (moved db source destination) (some destination.id)
      (withDefaultRecording destination true) = .ok ()) :
    Implicit (moved db source destination) (withDefaultRecording destination true) := by
  refine .inl (eq_singleton_of_nodup ?_ ?_ ?_)
  · exact ((moved db source destination).storageTargets.keysNodup.of_map).filter _ |>.filter _
  · exact mem_activeDefaults.mpr ⟨switchable.destination_moved, switchable.destination_default⟩
  · intro item member
    obtain ⟨inTable, isDefault⟩ := mem_activeDefaults.mp member
    exact switchable.moved_default unique inTable isDefault

/-- A camera that no policy routes follows the source only by the default flag. -/
theorem Switchable.implicit_cases (switchable : Switchable db sourceId destinationId source destination)
    {target : StorageTarget} (implicit : Implicit db target) :
    activeDefaults db = [target] ∨ (activeDefaults db = [] ∧ target = destination) := by
  rcases implicit with isDefault | ⟨noDefault, isCandidate⟩
  · exact .inl isDefault
  · refine .inr ⟨noDefault, ?_⟩
    have member := Table.mem_select.mpr ⟨switchable.destination_member, switchable.destination_recording⟩
    rw [isCandidate] at member
    exact (List.mem_singleton.mp member).symm

/-- A target that a camera without a named target records to is the source only by the default flag. -/
theorem Switchable.implicit_source (switchable : Switchable db sourceId destinationId source destination)
    {target : StorageTarget} (member : target ∈ db.storageTargets) (implicit : Implicit db target)
    (notDefault : source ∉ activeDefaults db) : target.id ≠ sourceId := by
  intro same
  have isSource : target = source :=
    Table.eq_of_key_eq member switchable.source_member (same.trans switchable.source_id.symm)
  rcases switchable.implicit_cases implicit with isDefault | ⟨_, isDestination⟩
  · exact notDefault (by rw [isDefault, isSource]; exact List.mem_singleton_self _)
  · exact switchable.differ (same.symm.trans (by rw [isDestination, switchable.destination_id]))

/-- A camera whose policy names a target records to the target the policy names after the switch. -/
theorem routes_named {cameraId : Uuid} {target : StorageTarget} (member : target ∈ db'.storageTargets)
    (recording : RecordingStorageResolver.isLocalRecording target = true)
    (named : explicitTarget db' cameraId = some target.id) : Routes db' cameraId target := by
  refine ⟨member, recording, fun other isOther => ?_, fun unnamed => ?_⟩
  · rw [named] at isOther
    exact Option.some.inj isOther
  · rw [named] at unnamed
    cases unnamed

theorem routes_unnamed {cameraId : Uuid} {target : StorageTarget} (member : target ∈ db'.storageTargets)
    (recording : RecordingStorageResolver.isLocalRecording target = true)
    (unnamed : explicitTarget db' cameraId = none) (implicit : Implicit db' target) : Routes db' cameraId target := by
  refine ⟨member, recording, fun other isOther => ?_, fun _ => implicit⟩
  rw [unnamed] at isOther
  cases isOther

/-- Without a move of the flag, a camera follows its policy. -/
theorem Switchable.routes_routed (switchable : Switchable db sourceId destinationId source destination)
    (notDefault : source ∉ activeDefaults db) {cameraId : Uuid} {target : StorageTarget}
    (routes : Routes db cameraId target) :
    ∃ next, Routes (routed db sourceId destinationId) cameraId next ∧
      next.id = swap sourceId destinationId target.id := by
  have rewritten := @explicitTarget_routed db sourceId destinationId cameraId
  cases named : explicitTarget db cameraId with
  | some id =>
    have isTarget := routes.explicit id named
    rw [named, Option.map_some, ← isTarget, swap] at rewritten
    by_cases same : target.id = sourceId
    · rw [if_pos same] at rewritten
      have isNamed : explicitTarget (routed db sourceId destinationId) cameraId = some destination.id := by
        rw [rewritten, switchable.destination_id]
      exact ⟨destination, routes_named switchable.destination_member switchable.destination_recording isNamed,
        by rw [swap, if_pos same, switchable.destination_id]⟩
    · rw [if_neg same] at rewritten
      exact ⟨target, routes_named routes.member routes.recording rewritten, by rw [swap, if_neg same]⟩
  | none =>
    rw [named, Option.map_none] at rewritten
    have implicit := routes.implicit named
    have notSource := switchable.implicit_source routes.member implicit notDefault
    exact ⟨target, routes_unnamed routes.member routes.recording rewritten implicit, by rw [swap, if_neg notSource]⟩

/-- With a move of the flag, the cameras without a policy of their own follow the flag. -/
theorem Switchable.routes_moved (switchable : Switchable db sourceId destinationId source destination)
    (defaults : source ∈ activeDefaults db ∨ activeDefaults db = [])
    (unique : ensureDefaultRecordingUnique (moved db source destination) (some destination.id)
      (withDefaultRecording destination true) = .ok ()) {cameraId : Uuid} {target : StorageTarget}
    (routes : Routes db cameraId target) :
    ∃ next, Routes (moved db source destination) cameraId next ∧
      next.id = swap sourceId destinationId target.id := by
  have rewritten : explicitTarget (moved db source destination) cameraId =
      (explicitTarget db cameraId).map (swap sourceId destinationId) := by
    rw [← explicitTarget_routed, ← switchable.source_id, ← switchable.destination_id]
    rfl
  have destinationRecording : RecordingStorageResolver.isLocalRecording (withDefaultRecording destination true) = true :=
    switchable.destination_recording
  have destinationId_eq : (withDefaultRecording destination true).id = destinationId := switchable.destination_id
  cases named : explicitTarget db cameraId with
  | some id =>
    have isTarget := routes.explicit id named
    rw [named, Option.map_some, ← isTarget, swap] at rewritten
    by_cases isSource : target.id = sourceId
    · rw [if_pos isSource, ← destinationId_eq] at rewritten
      exact ⟨withDefaultRecording destination true,
        routes_named switchable.destination_moved destinationRecording rewritten,
        by rw [swap, if_pos isSource, destinationId_eq]⟩
    · rw [if_neg isSource] at rewritten
      by_cases isDestination : target.id = destinationId
      · rw [isDestination, ← destinationId_eq] at rewritten
        exact ⟨withDefaultRecording destination true,
          routes_named switchable.destination_moved destinationRecording rewritten,
          by rw [swap, if_neg isSource, isDestination, destinationId_eq]⟩
      · exact ⟨target, routes_named (switchable.kept_moved routes.member isSource isDestination)
          routes.recording rewritten, by rw [swap, if_neg isSource]⟩
  | none =>
    rw [named, Option.map_none] at rewritten
    refine ⟨withDefaultRecording destination true, routes_unnamed switchable.destination_moved destinationRecording
      rewritten (switchable.moved_implicit unique), ?_⟩
    rw [destinationId_eq]
    rcases switchable.implicit_cases (routes.implicit named) with isDefault | ⟨_, rfl⟩
    · -- The default was the source, since the flag has moved.
      have isSource : source = target := by
        rcases defaults with sourceDefault | noDefault
        · rw [isDefault] at sourceDefault
          exact List.mem_singleton.mp sourceDefault
        · rw [noDefault] at isDefault
          cases isDefault
      rw [← isSource, swap, if_pos switchable.source_id]
    · rw [switchable.destination_id, swap, if_neg (Ne.symm switchable.differ)]

theorem switch_resolves (routable : Routable paths db.storageTargets) {result : RecordingTargetSwitchResult}
    (done : switchRecordingTarget env db sourceId destinationId = .ok (db', result)) {cameraId id : Uuid}
    (resolves : ResolvesTo paths db cameraId id) : ResolvesTo paths db' cameraId (swap sourceId destinationId id) := by
  obtain ⟨target, routes, rfl⟩ := (resolvesTo_iff routable).mp resolves
  refine (resolvesTo_iff (switch_routable routable done)).mpr ?_
  obtain ⟨source, destination, switchable, ⟨notDefault, rfl⟩ | ⟨defaults, rfl, unique⟩⟩ := switch_cases done
  · exact switchable.routes_routed notDefault routes
  · exact switchable.routes_moved defaults unique routes

end Switch

/-! ## Runs -/

inductive RoutingOp where
  | create (type : StorageType) (role : StorageRole) (name : String) (enabled : Bool) (config : Dict)
      (rcloneConfig : Option String) (openlistWebdav : Option Dict)
  | update (targetId : Uuid) (changes : Dict)
  | delete (targetId : Uuid)
  | switch (sourceId destinationId : Uuid)

/-- The database an operation commits. -/
def RoutingOp.apply (env : TargetEnv) (uuid4 : Supply Uuid) (db : Database) : RoutingOp → Result Database
  | .create type role name enabled config rcloneConfig openlistWebdav =>
    StorageTargetService.create env uuid4 db type role name enabled config rcloneConfig openlistWebdav
  | .update targetId changes => StorageTargetService.update env db targetId changes
  | .delete targetId => StorageTargetService.delete env db targetId
  | .switch sourceId destinationId => Prod.fst <$> switchRecordingTarget env db sourceId destinationId

/-- An operation commits, or is rolled back; in between, anything but the targets may change.
    Credentials, disks and secrets may differ from one operation to the next. -/
inductive RoutingStep (paths : PathEnv) (uuid4 : Supply Uuid) : Database → Option RoutingOp → Database → Prop
  | committed {env : TargetEnv} {op : RoutingOp} {db db' : Database} : env.paths = paths →
      op.apply env uuid4 db = .ok db' → RoutingStep paths uuid4 db (some op) db'
  | rejected {op : RoutingOp} {db : Database} : RoutingStep paths uuid4 db (some op) db
  | elsewhere {db db' : Database} : db'.storageTargets = db.storageTargets → RoutingStep paths uuid4 db none db'

theorem apply_routable (again : ResolvesAgain env.paths) (routable : Routable env.paths db.storageTargets)
    {op : RoutingOp} (done : op.apply env uuid4 db = .ok db') : Routable env.paths db'.storageTargets := by
  cases op with
  | create type role name enabled config rcloneConfig openlistWebdav => exact create_routable again routable done
  | update targetId changes => exact update_routable again routable done
  | delete targetId => exact delete_routable routable done
  | switch sourceId destinationId =>
    obtain ⟨⟨switched, result⟩, isSwitched, rfl⟩ := map_eq_ok.mp done
    exact switch_routable routable isSwitched

theorem step_routable (again : ResolvesAgain paths) {op : Option RoutingOp}
    (routable : Routable paths db.storageTargets) (step : RoutingStep paths uuid4 db op db') :
    Routable paths db'.storageTargets := by
  cases step with
  | committed samePaths done =>
    subst samePaths
    exact apply_routable again routable done
  | rejected => exact routable
  | elsewhere same =>
    rw [same]
    exact routable

theorem routable_empty : Routable paths Table.empty :=
  ⟨fun _ member => absurd member (Table.not_mem_empty _), fun _ member => absurd member (Table.not_mem_empty _),
    fun _ member => absurd member (Table.not_mem_empty _)⟩

theorem run_routable (again : ResolvesAgain paths) {start : Database} {ops : List (Option RoutingOp)}
    (empty : start.storageTargets = Table.empty) (run : Run (RoutingStep paths uuid4) start ops db) :
    Routable paths db.storageTargets := by
  have startRoutable : Routable paths start.storageTargets := by
    rw [empty]
    exact routable_empty
  exact run.invariant (fun _ _ _ routable step => step_routable again routable step) startRoutable

/-- At most one enabled target of a role carries the default flag in every reachable state, and a switch
    there moves the cameras of the source to the destination and no others. -/
theorem routing_invariants (again : ResolvesAgain paths) {start : Database} {ops : List (Option RoutingOp)}
    (empty : start.storageTargets = Table.empty) (run : Run (RoutingStep paths uuid4) start ops db) :
    AtMostOne db.storageTargets RecordingDefault ∧ AtMostOne db.storageTargets ArchiveDefault ∧
    ∀ env : TargetEnv, env.paths = paths → ∀ sourceId destinationId db' result,
      switchRecordingTarget env db sourceId destinationId = .ok (db', result) → ∀ cameraId,
        (ResolvesTo paths db cameraId sourceId → ResolvesTo paths db' cameraId destinationId) ∧
        ∀ otherId, otherId ≠ sourceId → ResolvesTo paths db cameraId otherId → ResolvesTo paths db' cameraId otherId := by
  have routable := run_routable again empty run
  refine ⟨routable.recording, routable.archive, ?_⟩
  rintro env rfl sourceId destinationId db' result switched cameraId
  refine ⟨fun resolves => ?_, fun otherId differs resolves => ?_⟩
  · have resolved := switch_resolves routable switched resolves
    rwa [swap, if_pos rfl] at resolved
  · have resolved := switch_resolves routable switched resolves
    rwa [swap, if_neg differs] at resolved

/-! Two disks: the first is the default, one camera names it and one follows the flag. -/

def diskPaths : PathEnv where
  resolveRoot raw := if raw ∈ ["/a", "/b"] then some raw else none
  isAbsolute _ := true
  relativeTo _ _ := none

def diskEnv : TargetEnv where
  paths := diskPaths
  capacity := { statvfs := fun _ => some { blocks := 100, available := 50, fragmentSize := 1 }, percent := fun _ _ => 50 }
  openlistRcloneConfig _ _ := .ok ""
  replaceRcloneSecret _ _ _ := .ok ()
  deleteRcloneSecret _ := .ok ()

theorem diskPaths_again : ResolvesAgain diskPaths := by
  intro raw root resolved
  have isDisk : raw ∈ ["/a", "/b"] ∧ raw = root := by
    simpa only [diskPaths, Option.ite_none_right_eq_some, Option.some.injEq] using resolved
  obtain ⟨member, rfl⟩ := isDisk
  rcases List.mem_cons.mp member with rfl | rest
  · exact ⟨by decide, rfl⟩
  · rcases List.mem_cons.mp rest with rfl | none
    · exact ⟨by decide, rfl⟩
    · cases none

def diskConfig (path : String) (isDefault : Bool) : Dict :=
  [("path", .str path), ("default_recording", .bool isDefault), ("warning_used_percent", .int 80),
    ("high_used_percent", .int 85), ("critical_used_percent", .int 95)]

def disk (id : Uuid) (path : String) (isDefault : Bool) : StorageTarget :=
  { id, type := .local, role := .recording, name := path, enabled := true, config := diskConfig path isDefault }

def oneDisk : Database := { storageTargets := ⟨[disk 1 "/a" true], by decide⟩ }

def twoDisks : Database := { storageTargets := ⟨[disk 1 "/a" true, disk 2 "/b" false], by decide⟩ }

def twoCameras : Table RecordingPolicy := ⟨[{ cameraId := 1, storageTargetId := some 1 }, { cameraId := 2 }], by decide⟩

def routedDisks : Database := { twoDisks with recordingPolicies := twoCameras }

def switchedDisks : Database :=
  { storageTargets := ⟨[withDefaultRecording (disk 1 "/a" true) false, withDefaultRecording (disk 2 "/b" false) true],
      by decide⟩
    recordingPolicies := ⟨[{ cameraId := 1, storageTargetId := some 2 }, { cameraId := 2 }], by decide⟩ }

def createDisk (path : String) (isDefault : Bool) : RoutingOp :=
  .create .local .recording path true [("path", .str path), ("default_recording", .bool isDefault)] none none

theorem diskRun : Run (RoutingStep diskPaths .counting) {}
    [some (createDisk "/a" true), some (createDisk "/b" false), none] routedDisks := by
  have first : RoutingStep diskPaths .counting {} (some (createDisk "/a" true)) oneDisk :=
    @RoutingStep.committed _ _ diskEnv _ _ _ rfl rfl
  have second : RoutingStep diskPaths .counting oneDisk (some (createDisk "/b" false)) twoDisks :=
    @RoutingStep.committed _ _ diskEnv _ _ _ rfl rfl
  have third : RoutingStep diskPaths .counting twoDisks none routedDisks := .elsewhere rfl
  exact .next first (.next second (.next third (.done _)))

/-- The camera that names the first disk and the one that follows the flag both move to the second. -/
theorem diskCameras_move :
    ResolvesTo diskPaths switchedDisks 1 2 ∧ ResolvesTo diskPaths switchedDisks 2 2 := by
  obtain ⟨_, _, switch⟩ := routing_invariants diskPaths_again rfl diskRun
  have switched : Prod.fst <$> switchRecordingTarget diskEnv routedDisks 1 2 = .ok switchedDisks := rfl
  obtain ⟨⟨_, result⟩, done, rfl⟩ := map_eq_ok.mp switched
  have moves := switch diskEnv rfl 1 2 _ result done
  exact ⟨(moves 1).1 ⟨⟨disk 1 "/a" true, "/a"⟩, rfl, rfl⟩, (moves 2).1 ⟨⟨disk 1 "/a" true, "/a"⟩, rfl, rfl⟩⟩

end ZeroNvr.StorageRouting
