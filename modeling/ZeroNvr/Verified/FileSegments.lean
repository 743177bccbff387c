import ZeroNvr.Verified.BoundaryGenerations

/-! # The segments of files

A catalog that is filled by record hooks holds one segment for each file.  A hook
of a new file adds its segment and may settle one other, the one before it in its
generation; a hook of a known file changes nothing.
-/

namespace ZeroNvr.FileSegments

open Lib IngestionTiming RecordingCatalogService

variable {env : CatalogEnv} {uuid4 : Supply Uuid} {db db' : Database} {stream filePath : String}

/-! ## The segment of a file -/

/-- The target a file of a stream belongs to, and its path there. -/
def objectOf (env : CatalogEnv) (db : Database) (stream filePath : String) : Option (Uuid × String) := do
  let profileId ← (profileIdFromStream env stream).toOption
  let profile ← db.streamProfiles.get? profileId
  let target ← (RecordingStorageResolver.localTargetForCamera env.paths db profile.cameraId).toOption
  let objectPath ← (RecordingStorageResolver.relativeObjectPath env.paths target.root filePath).toOption
  some (target.target.id, objectPath)

/-- The segment of an object on a target. -/
def segmentAt (db : Database) (object : Uuid × String) : Option RecordingSegment :=
  (db.locationAt object.1 object.2).bind fun location => db.segments.get? location.recordingSegmentId

/-- The segment the catalog holds for a file. -/
def catalogSegment (env : CatalogEnv) (db : Database) (stream filePath : String) : Option RecordingSegment :=
  (objectOf env db stream filePath).bind (segmentAt db)

/-- A file has one path; `relative_to` keeps what tells the paths under a root apart. -/
def OnePath (paths : PathEnv) : Prop :=
  ∀ root one other path, paths.relativeTo root one = some path → paths.relativeTo root other = some path → one = other

/-- Every copy is of a segment of its own. -/
structure Catalogued (db : Database) : Prop where
  referenced : ∀ location ∈ db.locations, (db.segments.get? location.recordingSegmentId).isSome = true
  owned : ∀ one ∈ db.locations, ∀ other ∈ db.locations, one.recordingSegmentId = other.recordingSegmentId → one = other

theorem relativeObjectPath_ok {paths : PathEnv} {root path : String}
    (isPath : RecordingStorageResolver.relativeObjectPath paths root filePath = .ok path) :
    paths.relativeTo root filePath = some path := by
  unfold RecordingStorageResolver.relativeObjectPath at isPath
  split at isPath
  · cases isPath
  split at isPath
  · cases isPath
  · cases isPath
  next relative _ isRelative =>
    cases isPath
    exact isRelative

theorem toOption_eq_some {ε α : Type} {outcome : Except ε α} {value : α} : outcome.toOption = some value ↔ outcome = .ok value := by
  cases outcome with
  | error refused => exact ⟨nofun, nofun⟩
  | ok value => simp [Except.toOption]

/-- The files of a stream are different objects. -/
theorem objectOf_injective (onePath : OnePath env.paths) {one other : String} {object : Uuid × String}
    (isOne : objectOf env db stream one = some object) (isOther : objectOf env db stream other = some object) : one = other := by
  unfold objectOf at isOne isOther
  simp only [Option.bind_eq_bind, Option.bind_eq_some_iff, toOption_eq_some, Option.some.injEq] at isOne isOther
  obtain ⟨profileId, isProfileId, profile, isProfile, target, isTarget, path, isPath, rfl⟩ := isOne
  obtain ⟨profileId', isProfileId', profile', isProfile', target', isTarget', path', isPath', same⟩ := isOther
  cases isProfileId.symm.trans isProfileId'
  cases isProfile.symm.trans isProfile'
  cases isTarget.symm.trans isTarget'
  cases same
  exact onePath target.root one other path (relativeObjectPath_ok isPath) (relativeObjectPath_ok isPath')

theorem segmentAt_spec {object : Uuid × String} {segment : RecordingSegment} (found : segmentAt db object = some segment) :
    db.segments.get? segment.id = some segment ∧
      ∃ location ∈ db.locations, (location.storageTargetId, location.objectPath) = object ∧
        location.recordingSegmentId = segment.id := by
  obtain ⟨location, isLocation, isSegment⟩ := Option.bind_eq_some_iff.mp found
  have isId : segment.id = location.recordingSegmentId := Table.key_of_get? isSegment
  obtain ⟨member, isObject⟩ := Table.mem_of_first? isLocation
  obtain ⟨sameTarget, samePath⟩ := of_decide_eq_true isObject
  exact ⟨isId ▸ isSegment, location, member, Prod.ext sameTarget samePath, isId.symm⟩

/-- Two files with one segment are the same. -/
theorem catalogSegment_injective (onePath : OnePath env.paths) (catalogued : Catalogued db) {one other : String}
    {segment another : RecordingSegment} (isOne : catalogSegment env db stream one = some segment)
    (isOther : catalogSegment env db stream other = some another) (sameId : segment.id = another.id) : one = other := by
  obtain ⟨object, isObject, found⟩ := Option.bind_eq_some_iff.mp isOne
  obtain ⟨object', isObject', found'⟩ := Option.bind_eq_some_iff.mp isOther
  obtain ⟨_, location, member, rfl, owner⟩ := segmentAt_spec found
  obtain ⟨_, location', member', rfl, owner'⟩ := segmentAt_spec found'
  cases catalogued.owned location member location' member' (owner.trans (sameId.trans owner'.symm))
  exact objectOf_injective onePath isObject isObject'

theorem get?_of_catalogSegment {segment : RecordingSegment} (found : catalogSegment env db stream filePath = some segment) :
    db.segments.get? segment.id = some segment := by
  obtain ⟨_, _, found⟩ := Option.bind_eq_some_iff.mp found
  exact (segmentAt_spec found).1

/-! ## A boundary -/

/-- The segment after a boundary of a profile that follows the given segment. -/
def settle (profileId : Uuid) (previousId : Option Uuid) (boundaryAt : Int) (segment : RecordingSegment) : RecordingSegment :=
  if previousId = some segment.id ∧ segment.streamProfileId = some profileId ∧ finalizable boundaryAt segment then
    segment.endingAt boundaryAt .nextSegmentBoundary
  else segment

theorem settle_id (profileId : Uuid) (previousId : Option Uuid) (boundaryAt : Int) (segment : RecordingSegment) :
    (settle profileId previousId boundaryAt segment).id = segment.id := by
  unfold settle
  split <;> rfl

theorem settle_streamProfileId (profileId : Uuid) (previousId : Option Uuid) (boundaryAt : Int) (segment : RecordingSegment) :
    (settle profileId previousId boundaryAt segment).streamProfileId = segment.streamProfileId := by
  unfold settle
  split <;> rfl

theorem settle_durationMs (profileId : Uuid) (previousId : Option Uuid) (boundaryAt : Int) (segment : RecordingSegment) :
    (settle profileId previousId boundaryAt segment).durationMs = segment.durationMs := by
  unfold settle
  split <;> rfl

/-- A segment that is still provisional was not settled. -/
theorem settle_of_provisional {profileId : Uuid} {previousId : Option Uuid} {boundaryAt : Int} {segment : RecordingSegment}
    (provisional : (settle profileId previousId boundaryAt segment).timingStatus = .provisional) :
    settle profileId previousId boundaryAt segment = segment := by
  unfold settle at provisional ⊢
  split
  next moves =>
    rw [if_pos moves] at provisional
    cases provisional
  next => rfl

/-- The catalog after the boundary of a new file. -/
def bounded (db : Database) (profileId : Uuid) (previousId : Option Uuid) (boundaryAt : Int) : Database :=
  match previousId with
  | some previousId => finalizePreviousFromBoundary db profileId previousId boundaryAt
  | none => db

theorem get?_bounded (profileId : Uuid) (previousId : Option Uuid) (boundaryAt : Int) (id : Uuid) :
    (bounded db profileId previousId boundaryAt).segments.get? id =
      (db.segments.get? id).map (settle profileId previousId boundaryAt) := by
  have unsettled (noMove : ∀ segment, db.segments.get? id = some segment →
      ¬(previousId = some segment.id ∧ segment.streamProfileId = some profileId ∧ finalizable boundaryAt segment)) :
      db.segments.get? id = (db.segments.get? id).map (settle profileId previousId boundaryAt) := by
    cases found : db.segments.get? id with
    | none => rfl
    | some segment => rw [Option.map_some, settle, if_neg (noMove segment found)]
  cases previousId with
  | none => exact unsettled fun _ _ moves => nomatch moves.1
  | some previousId =>
    rw [bounded, finalizePreviousFromBoundary]
    cases found : db.segments.get? previousId with
    | none =>
      refine unsettled fun segment isSegment moves => ?_
      have isId : segment.id = id := Table.key_of_get? isSegment
      rw [← isId, ← Option.some.inj moves.1, found] at isSegment
      cases isSegment
    | some previous =>
      have isPrevious : previous.id = previousId := Table.key_of_get? found
      dsimp only
      split
      next moves =>
        have modified : (db.modifySegment previous.id (RecordingSegment.endingAt boundaryAt .nextSegmentBoundary)).segments.get? id =
            if id = previous.id then (db.segments.get? id).map (RecordingSegment.endingAt boundaryAt .nextSegmentBoundary)
            else db.segments.get? id :=
          Table.get?_modify db.segments previous.id (RecordingSegment.endingAt boundaryAt .nextSegmentBoundary) (fun _ => rfl) id
        rw [modified]
        split
        next same =>
          rw [same, isPrevious, found, Option.map_some, Option.map_some, settle, if_pos ⟨congrArg some isPrevious.symm, moves⟩]
        next differs =>
          refine unsettled fun segment isSegment moved => differs ?_
          have isId : segment.id = id := Table.key_of_get? isSegment
          rw [← isId, ← Option.some.inj moved.1, isPrevious]
      next stays =>
        refine unsettled fun segment isSegment moved => stays ?_
        have isId : segment.id = id := Table.key_of_get? isSegment
        rw [← isId, ← Option.some.inj moved.1, found] at isSegment
        cases isSegment
        exact moved.2

/-! ## A new file -/

/-- Only segments and copies differ. -/
def SameSetup (db db' : Database) : Prop := db' = { db with segments := db'.segments, locations := db'.locations }

theorem SameSetup.objectOf (same : SameSetup db db') : objectOf env db' stream filePath = objectOf env db stream filePath := by
  rw [same]
  rfl

theorem bounded_setup (profileId : Uuid) (previousId : Option Uuid) (boundaryAt : Int) :
    ∃ segments, bounded db profileId previousId boundaryAt = { db with segments } := by
  unfold bounded finalizePreviousFromBoundary
  split
  · split
    · exact ⟨db.segments, rfl⟩
    · split
      · exact ⟨_, rfl⟩
      · exact ⟨db.segments, rfl⟩
  · exact ⟨db.segments, rfl⟩

/-- A recording is a new segment and a new copy of it, under a path that was free. -/
theorem insertRecording_spec {segment : RecordingSegment} {targetId : Uuid} {objectPath : String}
    {verifiedAt lastAttemptAt : Option Int}
    (inserted : db.insertRecording uuid4 segment targetId objectPath verifiedAt lastAttemptAt = .ok db') :
    SameSetup db db' ∧ db.segments.insert? segment = some db'.segments ∧
      ∃ location : RecordingLocation, location.recordingSegmentId = segment.id ∧ location.storageTargetId = targetId ∧
        location.objectPath = objectPath ∧ db.locationAt targetId objectPath = none ∧
        db.locations.insert? location = some db'.locations := by
  have grownSegments := BoundaryGenerations.insertRecording_segments inserted
  unfold Database.insertRecording at inserted
  obtain ⟨stored, isStored, inserted⟩ := bind_eq_ok.mp inserted
  unfold Database.insertSegment at isStored
  split at isStored
  · cases isStored
  split at isStored
  · cases isStored
  split at isStored
  next segments grown =>
    cases isStored
    unfold Database.insertLocation at inserted
    split at inserted
    · cases inserted
    next free =>
      split at inserted
      · cases inserted
      split at inserted
      next locations grownLocations =>
        cases inserted
        exact ⟨rfl, grownSegments, _, rfl, rfl, rfl, Option.not_isSome_iff_eq_none.mp free, grownLocations⟩
      next => cases inserted
  next => cases isStored

/-- What a hook of a new file leaves. -/
structure FileAdded (env : CatalogEnv) (db db' : Database) (stream filePath : String) (profileId : Uuid)
    (previousId : Option Uuid) (boundaryAt : Int) (segment : RecordingSegment) : Prop where
  catalogued : Catalogued db'
  setup : SameSetup db db'
  absent : catalogSegment env db stream filePath = none
  added : catalogSegment env db' stream filePath = some segment
  isNew : db.segments.get? segment.id = none
  others : ∀ other ≠ filePath,
    catalogSegment env db' stream other = (catalogSegment env db stream other).map (settle profileId previousId boundaryAt)
  segments : ∀ id, db'.segments.get? id = if segment.id = id then some segment
    else (db.segments.get? id).map (settle profileId previousId boundaryAt)

theorem ingestNew_added (onePath : OnePath env.paths) (catalogued : Catalogued db) {evidence : FinalizedRecordingEvidence}
    {profile : CameraStreamProfile} {object : Uuid × String} {previousId : Option Uuid} {result : CatalogIngestResult}
    (isObject : objectOf env db stream filePath = some object)
    (ingested : ingestNew env uuid4 db evidence profile object.1 object.2 previousId = .ok (db', result)) :
    ∃ reasons id, result.segment = some (newSegment env profile evidence reasons id) ∧
      FileAdded env db db' stream filePath profile.id previousId (env.fromTimestamp evidence.startTimeEpoch)
        (newSegment env profile evidence reasons id) := by
  unfold ingestNew at ingested
  dsimp only at ingested
  obtain ⟨reasons, _, ingested⟩ := bind_eq_ok.mp ingested
  obtain ⟨stored, isStored, ingested⟩ := bind_eq_ok.mp ingested
  have isStored : (bounded db profile.id previousId (env.fromTimestamp evidence.startTimeEpoch)).insertRecording uuid4
      (newSegment env profile evidence reasons
        ((bounded db profile.id previousId (env.fromTimestamp evidence.startTimeEpoch)).segments.newKey uuid4))
      object.1 object.2 none none = .ok stored := isStored
  obtain ⟨rfl, rfl⟩ := Prod.mk.inj (Except.ok.inj ingested)
  refine ⟨reasons, _, rfl, ?_⟩
  have settled := @get?_bounded db profile.id previousId (env.fromTimestamp evidence.startTimeEpoch)
  obtain ⟨segments, isBounded⟩ := @bounded_setup db profile.id previousId (env.fromTimestamp evidence.startTimeEpoch)
  rw [isBounded] at isStored settled
  change FileAdded env db stored stream filePath profile.id previousId (env.fromTimestamp evidence.startTimeEpoch)
    (newSegment env profile evidence reasons
      ((bounded db profile.id previousId (env.fromTimestamp evidence.startTimeEpoch)).segments.newKey uuid4))
  rw [isBounded]
  generalize newSegment env profile evidence reasons (Table.newKey segments uuid4) = segment at *
  obtain ⟨setup, grown, location, isOwner, isTarget, isPath, free, stores⟩ := insertRecording_spec isStored
  dsimp only at settled free stores
  have lookup (id : Uuid) : stored.segments.get? id = if segment.id = id then some segment else segments.get? id :=
    Table.get?_insert? grown id
  have unknown : segments.get? segment.id = none := Table.get?_eq_none_iff.mpr (Table.insert?_fresh grown)
  have isNew : db.segments.get? segment.id = none := by
    rw [settled, Option.map_eq_none_iff] at unknown
    exact unknown
  have kept (id : Uuid) (isRow : (db.segments.get? id).isSome = true) : (stored.segments.get? id).isSome = true := by
    rw [lookup]
    split
    · rfl
    · rw [settled, Option.isSome_map]
      exact isRow
  have locations (other : Uuid × String) : stored.locationAt other.1 other.2 =
      (db.locationAt other.1 other.2).or (if (object.1, object.2) = other then some location else none) := by
    refine (Table.first?_insert? stores _).trans (congrArg _ ?_)
    simp only [decide_eq_true_eq, isTarget, isPath, Prod.ext_iff]
  have setup : SameSetup db stored := setup
  have free : db.locationAt object.1 object.2 = none := free
  refine ⟨⟨fun other member => ?_, fun one isOne other isOther sameOwner => ?_⟩, setup, ?_, ?_, isNew, fun other differs => ?_, fun id => ?_⟩
  · rcases (Table.mem_insert? stores).mp member with old | rfl
    · exact kept _ (catalogued.referenced other old)
    · rw [isOwner, lookup, if_pos rfl]
      rfl
  · have notNew {old : RecordingLocation} (member : old ∈ db.locations) : old.recordingSegmentId ≠ location.recordingSegmentId := by
      intro same
      have isRow := catalogued.referenced old member
      rw [same, isOwner, isNew] at isRow
      cases isRow
    rcases (Table.mem_insert? stores).mp isOne with oldOne | rfl <;>
      rcases (Table.mem_insert? stores).mp isOther with oldOther | rfl
    · exact catalogued.owned one oldOne other oldOther sameOwner
    · exact absurd sameOwner (notNew oldOne)
    · exact absurd sameOwner.symm (notNew oldOther)
    · rfl
  · rw [catalogSegment, isObject, Option.bind_some, segmentAt, free, Option.bind_none]
  · rw [catalogSegment, setup.objectOf, isObject, Option.bind_some, segmentAt, locations, free, if_pos rfl, Option.none_or,
      Option.bind_some, isOwner, lookup, if_pos rfl]
  · rw [catalogSegment, catalogSegment, setup.objectOf]
    cases isOther : objectOf env db stream other with
    | none => rfl
    | some object' =>
      have notObject : (object.1, object.2) ≠ object' := by
        rintro rfl
        exact differs (objectOf_injective onePath isOther isObject)
      rw [Option.bind_some, Option.bind_some, segmentAt, segmentAt, locations, if_neg notObject, Option.or_none]
      cases found : db.locationAt object'.1 object'.2 with
      | none => rfl
      | some old =>
        have isRow := catalogued.referenced old (Table.mem_of_first? found).1
        have notNew : segment.id ≠ old.recordingSegmentId := by
          intro same
          rw [← same, isNew] at isRow
          cases isRow
        rw [Option.bind_some, Option.bind_some, lookup, if_neg notNew, settled]
  · rw [lookup, settled]

/-- A hook that ends with a segment has found that of its file, or added it. -/
theorem ingestFinalized_segment (onePath : OnePath env.paths) (catalogued : Catalogued db)
    {evidence : FinalizedRecordingEvidence} {previousId : Option Uuid} {result : CatalogIngestResult}
    {segment : RecordingSegment} (ingested : ingestFinalized env uuid4 db evidence previousId = .ok (db', result))
    (isSegment : result.segment = some segment) :
    (db' = db ∧ catalogSegment env db evidence.stream evidence.filePath = some segment) ∨
      ∃ profile reasons id, profileIdFromStream env evidence.stream = .ok profile.id ∧
        db.streamProfiles.get? profile.id = some profile ∧ segment = newSegment env profile evidence reasons id ∧
        FileAdded env db db' evidence.stream evidence.filePath profile.id previousId
          (env.fromTimestamp evidence.startTimeEpoch) segment := by
  unfold ingestFinalized at ingested
  split at ingested
  · cases ingested
    cases isSegment
  split at ingested
  · cases ingested
  split at ingested
  · cases ingested
  obtain ⟨profileId, isProfileId, ingested⟩ := bind_eq_ok.mp ingested
  split at ingested
  · cases ingested
  next profile isProfile =>
  obtain ⟨target, isTarget, ingested⟩ := bind_eq_ok.mp ingested
  split at ingested
  · split at ingested
    · cases ingested
      cases isSegment
    · cases ingested
  next objectPath isPath =>
  have isObject : objectOf env db evidence.stream evidence.filePath = some (target.target.id, objectPath) := by
    simp [objectOf, isProfileId, isProfile, isTarget, isPath, Except.toOption]
  split at ingested
  next location isLocation =>
    obtain ⟨found, isKnown, ingested⟩ := bind_eq_ok.mp ingested
    cases ingested
    unfold known at isKnown
    split at isKnown
    · cases isKnown
    next existing isExisting =>
    split at isKnown
    · cases isKnown
    cases isKnown
    cases isSegment
    refine .inl ⟨rfl, ?_⟩
    rw [catalogSegment, isObject, Option.bind_some, segmentAt, isLocation, Option.bind_some, isExisting]
  next =>
    obtain ⟨reasons, id, isNew, added⟩ := ingestNew_added onePath catalogued isObject ingested
    cases isSegment.symm.trans isNew
    have isId : profile.id = profileId := Table.key_of_get? isProfile
    exact .inr ⟨profile, reasons, id, isId ▸ isProfileId, isId ▸ isProfile, rfl, added⟩

end ZeroNvr.FileSegments
