import ZeroNvr.Cameras.OnvifCapabilityRefresh

/-! # What a capability refresh verifies and applies

`apply` asks for the verification of no source that `verificationProfiles` left out.
After it, every stored profile is settled: it carries the mark of a profile that is
gone, or what its probe says.  A refresh of settled profiles changes nothing.
-/

namespace ZeroNvr.OnvifCapabilityRefreshService

open JsonText (Value sortKeys sortFields plain plainFields)
open Lib
open Pagination (Timestamp)
open SecretStore (readJson record jsonBytes loadsObject)

/-! ## The secrets of a profile -/

section
variable {cipher : Fernet} {store : SecretStore cipher} {draws : Draws cipher} {now : Timestamp} {verified : List String}

/-- The source of a profile depends on the records that it owns. -/
theorem streamUri_congr {secrets secrets' : Table SecretRecord} {profile : StreamProfileRow}
    (same : ∀ record : SecretRecord, record.ownerId = profile.id.int → (record ∈ secrets' ↔ record ∈ secrets)) :
    streamUri store secrets' profile = streamUri store secrets profile := by
  rw [streamUri, streamUri]
  cases profile.streamUriRef with
  | none => rfl
  | some ref =>
    dsimp only
    have sameRecord : ∀ found, record secrets' ref uriKind ownerType profile.id = .ok found ↔
        record secrets ref uriKind ownerType profile.id = .ok found := by
      intro found
      rw [record_eq_ok_iff, record_eq_ok_iff]
      constructor
      · rintro ⟨member, facts⟩
        exact ⟨(same found facts.2.2.2).mp member, facts⟩
      · rintro ⟨member, facts⟩
        exact ⟨(same found facts.2.2.2).mpr member, facts⟩
    cases before : record secrets ref uriKind ownerType profile.id with
    | ok found =>
      rw [readJson, readJson, before, (sameRecord found).mpr before]
    | error e =>
      cases after : record secrets' ref uriKind ownerType profile.id with
      | ok found =>
        rw [(sameRecord found).mp after] at before
        cases before
      | error e' => rw [readJson, readJson, before, after]; rfl

/-- A profile with the same id and reference has the same source. -/
theorem streamUri_of_same {secrets : Table SecretRecord} {profile row : StreamProfileRow} (sameId : row.id = profile.id)
    (sameRef : row.streamUriRef = profile.streamUriRef) : streamUri store secrets row = streamUri store secrets profile := by
  rw [streamUri, streamUri, sameId, sameRef]

theorem createUri_ok {secrets grown : Table SecretRecord} {profile : StreamProfileRow} {uri : String}
    (created : createUri store draws secrets profile uri = .ok grown) :
    secrets.insert? (store.jsonRecord (draws.draw profile.adapterProfileKey) (draws.secretRef profile.adapterProfileKey)
      uriKind ownerType profile.id (.obj [("uri", .str uri)])) = some grown := by
  rw [createUri] at created
  split at created
  · cases created
  · next inserted =>
    cases created
    exact inserted

theorem createUri_others {secrets grown : Table SecretRecord} {profile : StreamProfileRow} {uri : String}
    (created : createUri store draws secrets profile uri = .ok grown) {record : SecretRecord}
    (isOther : record.ownerId ≠ profile.id.int) : record ∈ grown ↔ record ∈ secrets := by
  rw [Table.mem_insert? (createUri_ok created)]
  refine or_iff_left ?_
  rintro rfl
  exact isOther rfl

/-- What is written as the source of a profile is read as its source. -/
theorem streamUri_of_mem (lawful : ∀ key draw plaintext, cipher.decrypt key (cipher.encrypt key draw plaintext) =
      some plaintext) {secrets : Table SecretRecord} {profile : StreamProfileRow} {ref : UUID} {draw : cipher.Draw}
    {uri : String} (nonempty : uri ≠ "") (isRef : profile.streamUriRef = some ref)
    (member : store.jsonRecord draw ref uriKind ownerType profile.id (.obj [("uri", .str uri)]) ∈ secrets) :
    streamUri store secrets profile = some uri := by
  have found : record secrets ref uriKind ownerType profile.id = .ok _ :=
    record_eq_ok_iff.mpr ⟨member, rfl, rfl, rfl, rfl⟩
  have inOrder : sortKeys (.obj [("uri", .str uri)]) = .obj [("uri", .str uri)] := by
    simp [sortKeys, sortFields]
  have isPlain : plain (.obj [("uri", .str uri)]) = true := by simp [plain, plainFields]
  have read : store.readJson secrets ref uriKind ownerType profile.id = .ok [("uri", .str uri)] := by
    rw [readJson, found]
    change (store.plaintextOf _ >>= loadsObject) = _
    rw [SecretStore.plaintextOf_jsonRecord store lawful]
    exact SecretStore.loadsObject_jsonBytes inOrder isPlain
  have value : Value.field? [("uri", Value.str uri)] "uri" = some (.str uri) := rfl
  rw [streamUri, isRef]
  simp only [read, value, if_neg nonempty]

theorem delete_cases (secrets : Table SecretRecord) (ref ownerId : UUID) (kind owner : String) :
    (∃ key, SecretStore.delete secrets ref kind owner ownerId = .error (.keyError key)) ∨
    ∃ found, record secrets ref kind owner ownerId = .ok found ∧
      SecretStore.delete secrets ref kind owner ownerId = .ok (secrets.remove found.id) := by
  rw [SecretStore.delete]
  cases read : record secrets ref kind owner ownerId with
  | ok found => exact .inr ⟨found, rfl, rfl⟩
  | error e =>
    rw [record] at read
    split at read
    · cases read
      exact .inl ⟨_, rfl⟩
    · split at read
      · cases read
        exact .inl ⟨_, rfl⟩
      · cases read

/-- What a new source of a profile leaves. -/
theorem replaceStreamUri_ok (lawful : ∀ key draw plaintext, cipher.decrypt key (cipher.encrypt key draw plaintext) =
      some plaintext) {profiles profiles' : Table StreamProfileRow} {secrets secrets' : Table SecretRecord}
    {profile : StreamProfileRow} {uri : String} (nonempty : uri ≠ "")
    (replaced : replaceStreamUri store draws profiles secrets profile uri = .ok (profiles', secrets')) :
    ∃ row : StreamProfileRow, row = { profile with streamUriRef := row.streamUriRef } ∧ profiles' = profiles.put row ∧
      streamUri store secrets' row = some uri ∧
      ∀ record : SecretRecord, record.ownerId ≠ profile.id.int → (record ∈ secrets' ↔ record ∈ secrets) := by
  rw [replaceStreamUri, bind_eq_ok] at replaced
  obtain ⟨grown, created, replaced⟩ := replaced
  have inserted := createUri_ok created
  have isRecord := (Table.mem_insert? inserted).mpr (.inr rfl)
  have others : ∀ record : SecretRecord, record.ownerId ≠ profile.id.int → (record ∈ grown ↔ record ∈ secrets) :=
    fun record isOther => createUri_others created isOther
  refine ⟨{ profile with streamUriRef := some (draws.secretRef profile.adapterProfileKey) }, rfl, ?_⟩
  dsimp only at replaced
  split at replaced
  · cases replaced
    exact ⟨rfl, streamUri_of_mem lawful nonempty rfl isRecord, others⟩
  · next old _ =>
    split at replaced
    · cases replaced
      exact ⟨rfl, streamUri_of_mem lawful nonempty rfl isRecord, others⟩
    · cases replaced
    · next left deleted =>
      split at replaced
      · cases replaced
      · next unreferenced =>
        cases replaced
        rcases delete_cases grown old profile.id uriKind ownerType with ⟨key, raised⟩ | ⟨found, read, removed⟩
        · rw [raised] at deleted
          cases deleted
        · rw [removed] at deleted
          cases deleted
          obtain ⟨_, sameId, _, _, sameOwner⟩ := record_eq_ok_iff.mp read
          -- the profile itself refers to the new record
          have isNew : draws.secretRef profile.adapterProfileKey ≠ old := by
            rintro rfl
            refine unreferenced (List.any_eq_true.mpr ⟨_, Table.mem_put.mpr (.inl rfl), ?_⟩)
            exact decide_eq_true rfl
          refine ⟨rfl, streamUri_of_mem lawful nonempty rfl (Table.mem_remove.mpr ⟨isRecord, fun same => ?_⟩), ?_⟩
          · exact isNew (UUID.eq_of_int (same.trans sameId))
          · intro record isOther
            rw [Table.mem_remove, others record isOther]
            refine and_iff_left_of_imp fun member same => ?_
            have stored := (others record isOther).mpr member
            have isFound := Table.eq_of_key_eq stored (record_eq_ok_iff.mp read).1 same
            exact isOther (isFound ▸ sameOwner)

/-! ## A stored profile -/

/-- A profile carries the mark of one that is gone, or what its probe says. -/
def Settled (store : SecretStore cipher) (secrets : Table SecretRecord) (camera : Camera) (probe? : Option OnvifProfileProbe)
    (row : StreamProfileRow) : Prop :=
  match currentSource camera probe? with
  | .error _ => hasDrift row = true
  | .ok (probe, uri) => hasDrift row = false ∧ row.fields = probe.fields ∧ streamUri store secrets row = some uri

theorem Settled.of_streamUri {secrets secrets' : Table SecretRecord} {camera : Camera} {probe? : Option OnvifProfileProbe}
    {row : StreamProfileRow} (settled : Settled store secrets camera probe? row)
    (same : streamUri store secrets' row = streamUri store secrets row) : Settled store secrets' camera probe? row := by
  rw [Settled] at settled ⊢
  split
  · next missing =>
    rw [missing] at settled
    exact settled
  · next found =>
    rw [found] at settled
    rw [same]
    exact settled

theorem source_nonempty {probe : OnvifProfileProbe} {uri : String} (isSource : probe.source = some uri) : uri ≠ "" := by
  rw [OnvifProfileProbe.source] at isSource
  split at isSource
  · cases isSource
  · split at isSource
    · cases isSource
    · next usable =>
      cases isSource
      exact fun isEmpty => usable (.inr isEmpty)

theorem currentSource_ok {camera : Camera} {probe? : Option OnvifProfileProbe} {probe : OnvifProfileProbe} {uri : String}
    (found : currentSource camera probe? = .ok (probe, uri)) :
    probe? = some probe ∧ probe.channelKey = camera.channelKey ∧ probe.source = some uri := by
  cases probe? with
  | none => cases found
  | some given =>
    rw [currentSource] at found
    split at found
    · cases found
    · next sameChannel =>
      split at found
      · cases found
      · next isSource =>
        cases found
        exact ⟨rfl, not_not.mp sameChannel, isSource⟩

theorem hasDrift_driftMetadata (profile : StreamProfileRow) (reason detectedAt status : String) :
    hasDrift { profile with status, metadata := driftMetadata profile reason detectedAt } = true := by
  simp [hasDrift, driftMetadata]

theorem hasDrift_refreshedProfile (token : String) (profile : StreamProfileRow) (probe : OnvifProfileProbe) :
    hasDrift (refreshedProfile now verified token profile probe) = false := by
  simp [hasDrift, refreshedProfile, clearDriftMetadata]

/-- What the pass for a stored profile makes of it. -/
structure Refreshes (store : SecretStore cipher) (verified : List String) (probes : OrderedDict String OnvifProfileProbe)
    (state state' : Refreshing) (token : String) (camera : Camera) (profile row : StreamProfileRow) : Prop where
  written : state'.profiles = state.profiles.put row
  sameId : row.id = profile.id
  sameCamera : row.cameraId = profile.cameraId
  sameKey : row.adapterProfileKey = profile.adapterProfileKey
  settled : Settled store state'.secrets camera (probes.get? token) row
  others : ∀ record : SecretRecord, record.ownerId ≠ profile.id.int → (record ∈ state'.secrets ↔ record ∈ state.secrets)
  unverified : token ∉ verified → row.streamUriRef = profile.streamUriRef ∧ state'.secrets = state.secrets

theorem refreshProfile_ok (lawful : ∀ key draw plaintext, cipher.decrypt key (cipher.encrypt key draw plaintext) =
      some plaintext) {boundIds : List UUID} {probes : OrderedDict String OnvifProfileProbe} {state state' : Refreshing}
    {token : String} {camera : Camera} {profile : StreamProfileRow}
    (refreshed : refreshProfile store draws now verified boundIds probes state (token, camera, profile) = .ok state') :
    ∃ row, Refreshes store verified probes state state' token camera profile row := by
  rw [refreshProfile] at refreshed
  split at refreshed
  · next reason missing =>
    cases refreshed
    refine ⟨_, rfl, rfl, rfl, rfl, ?_, fun _ _ => Iff.rfl, fun _ => ⟨rfl, rfl⟩⟩
    rw [Settled, missing]
    exact hasDrift_driftMetadata profile _ _ _
  · next probe uri found =>
    have nonempty := source_nonempty (currentSource_ok found).2.2
    dsimp only at refreshed
    split at refreshed
    · cases refreshed
    · next allowed =>
      split at refreshed
      · next same =>
        cases refreshed
        refine ⟨_, rfl, rfl, rfl, rfl, ?_, fun _ _ => Iff.rfl, fun _ => ⟨rfl, rfl⟩⟩
        rw [Settled, found]
        refine ⟨hasDrift_refreshedProfile token profile probe, rfl, ?_⟩
        have sameUri : streamUri store state.secrets (refreshedProfile now verified token profile probe) =
            streamUri store state.secrets profile := streamUri_of_same rfl rfl
        rw [sameUri]
        simpa using same
      · next differs =>
        rw [bind_eq_ok] at refreshed
        obtain ⟨⟨profiles, secrets⟩, replaced, rest⟩ := refreshed
        cases rest
        obtain ⟨row, sameRow, written, isUri, others⟩ := replaceStreamUri_ok lawful nonempty replaced
        have sameFields : row.fields = probe.fields := by rw [sameRow]; rfl
        have sameMetadata : row.metadata = clearDriftMetadata profile := by rw [sameRow]; rfl
        refine ⟨row, written, by rw [sameRow]; rfl, by rw [sameRow]; rfl, by rw [sameRow]; rfl, ?_, others, fun notVerified => ?_⟩
        · rw [Settled, found]
          refine ⟨?_, sameFields, isUri⟩
          simp [hasDrift, sameMetadata, clearDriftMetadata]
        · refine absurd ⟨?_, notVerified⟩ allowed
          simpa using .inr (by simpa using differs)

/-! ## The stored profiles -/

theorem mem_storedProfiles {profiles : Table StreamProfileRow} {cameras : List Camera} {camera : Camera}
    {profile : StreamProfileRow} : (camera, profile) ∈ storedProfiles profiles cameras ↔
      camera ∈ cameras ∧ profile ∈ profiles ∧ profile.cameraId = camera.id := by
  rw [storedProfiles, List.mem_flatMap]
  constructor
  · rintro ⟨other, inCameras, member⟩
    obtain ⟨row, selected, same⟩ := List.mem_map.mp member
    cases same
    obtain ⟨inProfiles, isCamera⟩ := Table.mem_select.mp selected
    exact ⟨inCameras, inProfiles, of_decide_eq_true isCamera⟩
  · rintro ⟨inCameras, inProfiles, isCamera⟩
    exact ⟨camera, inCameras, List.mem_map.mpr ⟨profile, Table.mem_select.mpr ⟨inProfiles, decide_eq_true isCamera⟩, rfl⟩⟩

theorem existing_some {profiles : Table StreamProfileRow} {cameras : List Camera} {token : String} {camera : Camera}
    {profile : StreamProfileRow} (found : (existing profiles cameras).get? token = some (camera, profile)) :
    camera ∈ cameras ∧ profile ∈ profiles ∧ profile.cameraId = camera.id ∧ profile.adapterProfileKey = token := by
  obtain ⟨held, member, same⟩ := List.mem_map.mp (OrderedDict.mem_of_get?_ofPairs found)
  cases same
  obtain ⟨inCameras, inProfiles, isCamera⟩ := mem_storedProfiles.mp member
  exact ⟨inCameras, inProfiles, isCamera, rfl⟩

theorem existing_none {profiles : Table StreamProfileRow} {cameras : List Camera} {token : String}
    (absent : (existing profiles cameras).get? token = none) {camera : Camera} {profile : StreamProfileRow}
    (inCameras : camera ∈ cameras) (inProfiles : profile ∈ profiles) (isCamera : profile.cameraId = camera.id) :
    profile.adapterProfileKey ≠ token :=
  OrderedDict.get?_ofPairs_eq_none absent
    (List.mem_map.mpr ⟨(camera, profile), mem_storedProfiles.mpr ⟨inCameras, inProfiles, isCamera⟩, rfl⟩)

/-- The entries of a dictionary in the order of their keys, which are those of the dictionary. -/
theorem mem_sorted {α : Type} {dict : OrderedDict String α} {entry : String × α} :
    entry ∈ dict.entries.insertionSort (fun a b => a.1 ≤ b.1) ↔ dict.get? entry.1 = some entry.2 := by
  rw [List.mem_insertionSort, OrderedDict.get?_eq_some_iff]

theorem nodup_sorted {α : Type} (dict : OrderedDict String α) :
    ((dict.entries.insertionSort fun a b => a.1 ≤ b.1).map Prod.fst).Nodup :=
  ((List.perm_insertionSort _ dict.entries).map _).nodup_iff.mpr dict.keysNodup

/-! ## The first loop -/

/-- The rows that were stored, once the entries before `rest` are refreshed; `refresh` is what has become of a row. -/
structure Carried (store : SecretStore cipher) (verified : List String) (probes : OrderedDict String OnvifProfileProbe)
    (start : Topology) (entries rest : List (String × Camera × StreamProfileRow))
    (refresh : StreamProfileRow → StreamProfileRow) (secrets : Table SecretRecord) : Prop where
  sameId : ∀ row ∈ start.profiles, (refresh row).id = row.id
  sameCamera : ∀ row ∈ start.profiles, (refresh row).cameraId = row.cameraId
  sameKey : ∀ row ∈ start.profiles, (refresh row).adapterProfileKey = row.adapterProfileKey
  waiting : ∀ entry ∈ rest, streamUri store secrets entry.2.2 = streamUri store start.secrets entry.2.2
  settled : ∀ entry ∈ entries, entry ∈ rest ∨ Settled store secrets entry.2.1 (probes.get? entry.1) (refresh entry.2.2)
  unverified : ∀ row ∈ start.profiles, row.adapterProfileKey ∉ verified →
    (refresh row).streamUriRef = row.streamUriRef ∧ streamUri store secrets (refresh row) = streamUri store start.secrets row

/-- Records of other owners do not matter. -/
theorem Carried.of_secrets {probes : OrderedDict String OnvifProfileProbe} {start : Topology}
    {entries : List (String × Camera × StreamProfileRow)} {refresh : StreamProfileRow → StreamProfileRow}
    {secrets secrets' : Table SecretRecord} (carried : Carried store verified probes start entries [] refresh secrets)
    (stored : ∀ entry ∈ entries, entry.2.2 ∈ start.profiles)
    (same : ∀ row ∈ start.profiles, streamUri store secrets' (refresh row) = streamUri store secrets (refresh row)) :
    Carried store verified probes start entries [] refresh secrets' where
  sameId := carried.sameId
  sameCamera := carried.sameCamera
  sameKey := carried.sameKey
  waiting := fun entry member => absurd member List.not_mem_nil
  settled := fun entry member => .inr
    (((carried.settled entry member).resolve_left List.not_mem_nil).of_streamUri (same _ (stored entry member)))
  unverified := fun row member notVerified => by
    rw [same row member]
    exact carried.unverified row member notVerified

/-- The state between two passes of the first loop. -/
structure Progress (store : SecretStore cipher) (verified : List String) (probes : OrderedDict String OnvifProfileProbe)
    (start : Topology) (entries rest : List (String × Camera × StreamProfileRow))
    (refresh : StreamProfileRow → StreamProfileRow) (state : Refreshing) : Prop where
  isRest : rest <:+ entries
  rows : state.profiles.rows = start.profiles.rows.map refresh
  carried : Carried store verified probes start entries rest refresh state.secrets

/-- The entries of `existing` name stored profiles by their keys, each once. -/
structure Entries (start : Topology) (entries : List (String × Camera × StreamProfileRow)) : Prop where
  stored : ∀ entry ∈ entries, entry.2.2 ∈ start.profiles
  key : ∀ entry ∈ entries, entry.2.2.adapterProfileKey = entry.1
  nodup : (entries.map Prod.fst).Nodup

theorem entries_existing (topology : Topology) (deviceId : Uuid) : Entries topology
    ((existing topology.profiles (cameras topology deviceId)).entries.insertionSort fun a b => a.1 ≤ b.1) where
  stored := fun _ member => (existing_some (mem_sorted.mp member)).2.1
  key := fun _ member => (existing_some (mem_sorted.mp member)).2.2.2
  nodup := nodup_sorted _

/-- Entries with different tokens are about different profiles. -/
theorem Entries.ne_id {start : Topology} {entries : List (String × Camera × StreamProfileRow)} (isEntries : Entries start entries)
    {entry other : String × Camera × StreamProfileRow} (member : entry ∈ entries) (otherMember : other ∈ entries)
    (differs : other.1 ≠ entry.1) : other.2.2.id ≠ entry.2.2.id := by
  intro same
  have sameRow := Table.eq_of_key_eq (isEntries.stored other otherMember) (isEntries.stored entry member) same
  rw [← isEntries.key other otherMember, ← isEntries.key entry member, sameRow] at differs
  exact differs rfl

theorem Progress.step (lawful : ∀ key draw plaintext, cipher.decrypt key (cipher.encrypt key draw plaintext) =
      some plaintext) {boundIds : List UUID} {probes : OrderedDict String OnvifProfileProbe} {start : Topology}
    {entries rest : List (String × Camera × StreamProfileRow)} (isEntries : Entries start entries)
    {entry : String × Camera × StreamProfileRow} {refresh : StreamProfileRow → StreamProfileRow} {state state' : Refreshing}
    (progress : Progress store verified probes start entries (entry :: rest) refresh state)
    (refreshed : refreshProfile store draws now verified boundIds probes state entry = .ok state') :
    ∃ refresh', Progress store verified probes start entries rest refresh' state' := by
  obtain ⟨token, camera, profile⟩ := entry
  obtain ⟨row, step⟩ := refreshProfile_ok lawful refreshed
  have member : (token, camera, profile) ∈ entries := progress.isRest.subset List.mem_cons_self
  have isStored : profile ∈ start.profiles := isEntries.stored _ member
  have isKey : profile.adapterProfileKey = token := isEntries.key _ member
  have carried := progress.carried
  have nodup : ((token, camera, profile) :: rest).map Prod.fst |>.Nodup :=
    isEntries.nodup.sublist (progress.isRest.sublist.map _)
  -- the sources of the other profiles
  have elsewhere : ∀ other : StreamProfileRow, other.id ≠ profile.id →
      streamUri store state'.secrets other = streamUri store state.secrets other := fun other differs =>
    streamUri_congr fun record isOwner => step.others record fun same => differs (UUID.eq_of_int (isOwner.symm.trans same))
  have inRest : ∀ other ∈ rest, other.2.2.id ≠ profile.id := fun other isLater =>
    isEntries.ne_id member (progress.isRest.subset (List.mem_cons_of_mem _ isLater)) fun same =>
      (List.nodup_cons.mp nodup).1 (List.mem_map.mpr ⟨other, isLater, same⟩)
  refine ⟨fun old => if old.id = profile.id then row else refresh old, (List.suffix_cons _ _).trans progress.isRest, ?_, ?_⟩
  · have inTable : row.id ∈ state.profiles.rows.map StreamProfileRow.id := by
      rw [progress.rows, List.map_map]
      exact List.mem_map.mpr ⟨profile, isStored, (carried.sameId profile isStored).trans step.sameId.symm⟩
    rw [step.written, Table.rows_put_of_mem inTable, progress.rows, List.map_map]
    refine List.map_congr_left fun old inStart => ?_
    have sameId : (refresh old).id = old.id := carried.sameId old inStart
    change (if (refresh old).id = row.id then row else refresh old) = _
    rw [sameId, step.sameId]
  · constructor
    · intro old inStart
      by_cases same : old.id = profile.id
      · rw [if_pos same, step.sameId, same]
      · rw [if_neg same, carried.sameId old inStart]
    · intro old inStart
      by_cases same : old.id = profile.id
      · rw [if_pos same, step.sameCamera, Table.eq_of_key_eq inStart isStored same]
      · rw [if_neg same, carried.sameCamera old inStart]
    · intro old inStart
      by_cases same : old.id = profile.id
      · rw [if_pos same, step.sameKey, Table.eq_of_key_eq inStart isStored same]
      · rw [if_neg same, carried.sameKey old inStart]
    · intro other isLater
      rw [elsewhere _ (inRest other isLater)]
      exact carried.waiting other (List.mem_cons_of_mem _ isLater)
    · intro other isEntry
      rcases carried.settled other isEntry with isWaiting | settled
      · rcases List.mem_cons.mp isWaiting with rfl | isLater
        · refine .inr ?_
          rw [if_pos rfl]
          exact step.settled
        · exact .inl isLater
      · by_cases same : other.1 = token
        · have sameEntry : other = (token, camera, profile) := List.inj_on_of_nodup_map isEntries.nodup isEntry member same
          refine .inr ?_
          rw [sameEntry, if_pos rfl]
          exact step.settled
        · have differs := isEntries.ne_id member isEntry same
          refine .inr ?_
          rw [if_neg differs]
          refine settled.of_streamUri (elsewhere _ ?_)
          rwa [carried.sameId _ (isEntries.stored other isEntry)]
    · intro old inStart notVerified
      by_cases same : old.id = profile.id
      · obtain rfl := Table.eq_of_key_eq inStart isStored same
        obtain ⟨sameRef, sameSecrets⟩ := step.unverified (isKey ▸ notVerified)
        rw [if_pos same, sameSecrets, streamUri_of_same step.sameId sameRef]
        exact ⟨sameRef, carried.waiting _ List.mem_cons_self⟩
      · rw [if_neg same, elsewhere _ (by rwa [carried.sameId old inStart])]
        exact carried.unverified old inStart notVerified

/-- Before the first pass. -/
theorem Progress.start (verified : List String) (probes : OrderedDict String OnvifProfileProbe) (start : Topology)
    (entries : List (String × Camera × StreamProfileRow)) :
    Progress store verified probes start entries entries id { profiles := start.profiles, secrets := start.secrets } where
  isRest := List.suffix_rfl
  rows := (List.map_id _).symm
  carried :=
    { sameId := fun _ _ => rfl
      sameCamera := fun _ _ => rfl
      sameKey := fun _ _ => rfl
      waiting := fun _ _ => rfl
      settled := fun _ member => .inl member
      unverified := fun _ _ _ => ⟨rfl, rfl⟩ }

/-! ## The second loop -/

theorem probes_some {inspection : OnvifInspection} {token : String} {probe : OnvifProfileProbe}
    (found : inspection.probes.get? token = some probe) : probe ∈ inspection.profiles ∧ probe.token = token := by
  obtain ⟨given, member, same⟩ := List.mem_map.mp (OrderedDict.mem_of_get?_ofPairs found)
  cases same
  exact ⟨member, rfl⟩

theorem exists_probe {inspection : OnvifInspection} {probe : OnvifProfileProbe} (member : probe ∈ inspection.profiles) :
    ∃ kept, inspection.probes.get? probe.token = some kept :=
  OrderedDict.exists_get?_ofPairs (List.mem_map.mpr ⟨probe, member, rfl⟩)

theorem byChannel_some {cameras : List Camera} {channel : String} {camera : Camera}
    (found : (byChannel cameras).get? channel = some camera) : camera ∈ cameras ∧ camera.channelKey = channel := by
  obtain ⟨given, member, same⟩ := List.mem_map.mp (OrderedDict.mem_of_get?_ofPairs found)
  cases same
  exact ⟨member, rfl⟩

theorem exists_byChannel {cameras : List Camera} {camera : Camera} (member : camera ∈ cameras) :
    ∃ found, (byChannel cameras).get? camera.channelKey = some found :=
  OrderedDict.exists_get?_ofPairs (List.mem_map.mpr ⟨camera, member, rfl⟩)

theorem newSource_some {channels : OrderedDict String Camera} {probe : OnvifProfileProbe} {camera : Camera} {uri : String} :
    newSource channels probe = some (camera, uri) ↔
      channels.get? probe.channelKey = some camera ∧ probe.source = some uri := by
  rw [newSource]
  split
  · next found isSource => simp [found, isSource]
  · next missing =>
    refine iff_of_false (by simp) ?_
    rintro ⟨found, isSource⟩
    exact missing camera uri found isSource

/-- A profile that the second loop has created. -/
structure Created (store : SecretStore cipher) (verified : List String) (topology : Topology) (deviceId : Uuid)
    (inspection : OnvifInspection) (secrets : Table SecretRecord) (row : StreamProfileRow) : Prop where
  verified : row.adapterProfileKey ∈ verified
  absent : (existing topology.profiles (cameras topology deviceId)).get? row.adapterProfileKey = none
  source : ∃ probe camera uri, inspection.probes.get? row.adapterProfileKey = some probe ∧
    newSource (byChannel (cameras topology deviceId)) probe = some (camera, uri) ∧ row.cameraId = camera.id ∧
    Settled store secrets camera (some probe) row

theorem addProfile_ok {held : OrderedDict String (Camera × StreamProfileRow)} {channels : OrderedDict String Camera}
    {state state' : Refreshing} {token : String} {probe : OnvifProfileProbe}
    (added : addProfile store draws now verified held channels state (token, probe) = .ok state') :
    ((held.get? token).isSome ∧ state' = state) ∨
    (held.get? token = none ∧ newSource channels probe = none ∧ state'.profiles = state.profiles ∧
      state'.secrets = state.secrets) ∨
    ∃ camera uri, held.get? token = none ∧ newSource channels probe = some (camera, uri) ∧ token ∈ verified ∧
      state.profiles.insert? (newProfile draws now camera probe) = some state'.profiles ∧
      createUri store draws state.secrets (newProfile draws now camera probe) uri = .ok state'.secrets := by
  rw [addProfile] at added
  split at added
  · next isHeld =>
    cases added
    exact .inl ⟨isHeld, rfl⟩
  · next notHeld =>
    have absent : held.get? token = none := Option.not_isSome_iff_eq_none.mp notHeld
    dsimp only at added
    split at added
    · next unmapped =>
      cases added
      exact .inr (.inl ⟨absent, unmapped, rfl, rfl⟩)
    · next camera uri isSource =>
      split at added
      · cases added
      · next isVerified =>
        split at added
        · cases added
        · next profiles inserted =>
          rw [bind_eq_ok] at added
          obtain ⟨secrets, created, rest⟩ := added
          cases rest
          exact .inr (.inr ⟨camera, uri, absent, isSource, not_not.mp isVerified, inserted, created⟩)

/-- The state between two passes of the second loop. -/
structure Grown (store : SecretStore cipher) (verified : List String) (topology : Topology) (deviceId : Uuid)
    (inspection : OnvifInspection) (entries : List (String × Camera × StreamProfileRow))
    (rest : List (String × OnvifProfileProbe)) (refresh : StreamProfileRow → StreamProfileRow)
    (created : List StreamProfileRow) (state : Refreshing) : Prop where
  rows : state.profiles.rows = topology.profiles.rows.map refresh ++ created
  carried : Carried store verified inspection.probes topology entries [] refresh state.secrets
  isCreated : ∀ row ∈ created, Created store verified topology deviceId inspection state.secrets row
  complete : ∀ token probe, inspection.probes.get? token = some probe → (token, probe) ∈ rest ∨
    ((existing topology.profiles (cameras topology deviceId)).get? token).isSome ∨
    newSource (byChannel (cameras topology deviceId)) probe = none ∨ ∃ row ∈ created, row.adapterProfileKey = token

theorem settled_newProfile (lawful : ∀ key draw plaintext, cipher.decrypt key (cipher.encrypt key draw plaintext) =
      some plaintext) {cameras : List Camera} {camera : Camera} {probe : OnvifProfileProbe} {uri : String}
    {secrets grown : Table SecretRecord} (isSource : newSource (byChannel cameras) probe = some (camera, uri))
    (created : createUri store draws secrets (newProfile draws now camera probe) uri = .ok grown) :
    Settled store grown camera (some probe) (newProfile draws now camera probe) := by
  obtain ⟨found, isUri⟩ := newSource_some.mp isSource
  have sameChannel : probe.channelKey = camera.channelKey := (byChannel_some found).2.symm
  have current : currentSource camera (some probe) = .ok (probe, uri) := by
    rw [currentSource, if_neg (not_not.mpr sameChannel), isUri]
  have isRecord := (Table.mem_insert? (createUri_ok created)).mpr (.inr rfl)
  rw [Settled, current]
  exact ⟨rfl, rfl, streamUri_of_mem lawful (source_nonempty isUri) rfl isRecord⟩

theorem Grown.step (lawful : ∀ key draw plaintext, cipher.decrypt key (cipher.encrypt key draw plaintext) =
      some plaintext) {topology : Topology} {deviceId : Uuid} {inspection : OnvifInspection}
    {entries : List (String × Camera × StreamProfileRow)} (isEntries : Entries topology entries)
    {entry : String × OnvifProfileProbe} {rest : List (String × OnvifProfileProbe)}
    {refresh : StreamProfileRow → StreamProfileRow} {created : List StreamProfileRow} {state state' : Refreshing}
    (isProbe : inspection.probes.get? entry.1 = some entry.2)
    (grown : Grown store verified topology deviceId inspection entries (entry :: rest) refresh created state)
    (added : addProfile store draws now verified (existing topology.profiles (cameras topology deviceId))
      (byChannel (cameras topology deviceId)) state entry = .ok state') :
    ∃ created', Grown store verified topology deviceId inspection entries rest refresh created' state' := by
  obtain ⟨token, probe⟩ := entry
  rcases addProfile_ok added with ⟨isHeld, rfl⟩ | ⟨absent, unmapped, sameProfiles, sameSecrets⟩ |
    ⟨camera, uri, absent, isSource, isVerified, inserted, created_⟩
  · refine ⟨created, grown.rows, grown.carried, grown.isCreated, fun other given found => ?_⟩
    rcases grown.complete other given found with waits | known
    · rcases List.mem_cons.mp waits with same | isLater
      · cases same
        exact .inr (.inl isHeld)
      · exact .inl isLater
    · exact .inr known
  · refine ⟨created, sameProfiles ▸ grown.rows, sameSecrets ▸ grown.carried, sameSecrets ▸ grown.isCreated,
      fun other given found => ?_⟩
    rcases grown.complete other given found with waits | known
    · rcases List.mem_cons.mp waits with same | isLater
      · cases same
        exact .inr (.inr (.inl unmapped))
      · exact .inl isLater
    · exact .inr known
  · have isToken : probe.token = token := (probes_some isProbe).2
    have fresh := Table.insert?_fresh inserted
    -- the new record is owned by the new profile
    have elsewhere : ∀ row ∈ state.profiles, streamUri store state'.secrets row = streamUri store state.secrets row :=
      fun row member => streamUri_congr fun record isOwner => createUri_others created_ fun same =>
        fresh row member (UUID.eq_of_int (isOwner.symm.trans same))
    have wasRow : ∀ row ∈ topology.profiles, refresh row ∈ state.profiles := fun row member => by
      rw [Table.mem_def, grown.rows]
      exact List.mem_append_left _ (List.mem_map.mpr ⟨row, member, rfl⟩)
    have wasCreated : ∀ row ∈ created, row ∈ state.profiles := fun row member => by
      rw [Table.mem_def, grown.rows]
      exact List.mem_append_right _ member
    have rows : state'.profiles.rows = state.profiles.rows ++ [newProfile draws now camera probe] := by
      simp only [Table.insert?] at inserted
      split at inserted
      · rw [← Option.some.inj inserted]
      · cases inserted
    refine ⟨created ++ [newProfile draws now camera probe], ?_, ?_, ?_, ?_⟩
    · rw [rows, grown.rows, List.append_assoc]
    · exact grown.carried.of_secrets isEntries.stored fun row member => elsewhere _ (wasRow row member)
    · intro row member
      rcases List.mem_append.mp member with isOld | isNew
      · have old := grown.isCreated row isOld
        obtain ⟨given, camera, uri, found, source, sameCamera, settled⟩ := old.source
        exact ⟨old.verified, old.absent, given, camera, uri, found, source, sameCamera,
          settled.of_streamUri (elsewhere row (wasCreated row isOld))⟩
      · obtain rfl := List.mem_singleton.mp isNew
        have isKey : (newProfile draws now camera probe).adapterProfileKey = token := isToken
        refine ⟨isKey ▸ isVerified, by rw [isKey]; exact absent, probe, camera, uri, by rw [isKey]; exact isProbe, isSource, rfl, ?_⟩
        exact settled_newProfile lawful isSource created_
    · intro other given found
      rcases grown.complete other given found with waits | isHeld | unmapped | ⟨row, member, isKey⟩
      · rcases List.mem_cons.mp waits with same | isLater
        · cases same
          exact .inr (.inr (.inr ⟨_, List.mem_append_right _ (List.mem_singleton.mpr rfl), isToken⟩))
        · exact .inl isLater
      · exact .inr (.inl isHeld)
      · exact .inr (.inr (.inl unmapped))
      · exact .inr (.inr (.inr ⟨row, List.mem_append_left _ member, isKey⟩))

/-- The rows that a refresh leaves: the stored ones as they have become, and the created ones. -/
theorem refreshProfiles_ok (lawful : ∀ key draw plaintext, cipher.decrypt key (cipher.encrypt key draw plaintext) =
      some plaintext) {topology : Topology} {deviceId : Uuid} {inspection : OnvifInspection} {state : Refreshing}
    (refreshed : refreshProfiles store draws now verified topology deviceId inspection = .ok state) :
    ∃ refresh created, Grown store verified topology deviceId inspection
      ((existing topology.profiles (cameras topology deviceId)).entries.insertionSort fun a b => a.1 ≤ b.1) []
      refresh created state := by
  have isEntries := entries_existing topology deviceId
  rw [refreshProfiles, bind_eq_ok] at refreshed
  obtain ⟨middle, first, second⟩ := refreshed
  obtain ⟨refresh, progress⟩ := @foldlM_invariant_rest _ _ _ _
    (fun rest state => ∃ refresh, Progress store verified inspection.probes topology _ rest refresh state) _
    (fun entry rest b b' ⟨refresh, progress⟩ step => progress.step lawful isEntries step)
    _ _ ⟨id, Progress.start verified inspection.probes topology _⟩ first
  have start : Grown store verified topology deviceId inspection _
      (inspection.probes.entries.insertionSort fun a b => a.1 ≤ b.1) refresh [] middle :=
    { rows := by rw [progress.rows, List.append_nil]
      carried := progress.carried
      isCreated := fun _ member => absurd member List.not_mem_nil
      complete := fun token probe found => .inl (mem_sorted.mpr found) }
  obtain ⟨created, _, grown⟩ := @foldlM_invariant_rest _ _ _ _
    (fun rest state => ∃ created, (∀ entry ∈ rest, inspection.probes.get? entry.1 = some entry.2) ∧
      Grown store verified topology deviceId inspection _ rest refresh created state) _
    (fun entry rest b b' ⟨created, areProbes, grown⟩ step => by
      obtain ⟨created', grown'⟩ := grown.step lawful isEntries (areProbes entry List.mem_cons_self) step
      exact ⟨created', fun other member => areProbes other (List.mem_cons_of_mem _ member), grown'⟩)
    _ _ ⟨[], fun _ member => mem_sorted.mp member, start⟩ second
  exact ⟨refresh, created, grown⟩

/-! ## The topology afterwards -/

theorem bumpRevisions_rows (cameras : Table Camera) (cameraIds : List Uuid) : ∃ bump : Camera → Camera,
    (∀ camera, (bump camera).id = camera.id ∧ (bump camera).deviceId = camera.deviceId ∧
      (bump camera).channelKey = camera.channelKey) ∧
    (bumpRevisions cameras cameraIds).rows = cameras.rows.map bump := by
  induction cameraIds generalizing cameras with
  | nil => exact ⟨id, fun _ => ⟨rfl, rfl, rfl⟩, (List.map_id _).symm⟩
  | cons cameraId cameraIds ih =>
    obtain ⟨bump, same, rows⟩ := ih (cameras.modify cameraId fun camera =>
      { camera with configRevision := camera.configRevision + 1 })
    refine ⟨fun camera => bump (if camera.id = cameraId then { camera with configRevision := camera.configRevision + 1 }
      else camera), fun camera => ?_, ?_⟩
    · dsimp only
      split
      · exact same _
      · exact same _
    · rw [bumpRevisions, List.foldl_cons]
      rw [bumpRevisions] at rows
      rw [rows, Table.modify, Table.mapRows, List.map_map]
      rfl

/-- The cameras of a device when their revisions have changed. -/
theorem cameras_map {topology after : Topology} {deviceId : Uuid} {bump : Camera → Camera}
    (same : ∀ camera, (bump camera).id = camera.id ∧ (bump camera).deviceId = camera.deviceId ∧
      (bump camera).channelKey = camera.channelKey)
    (rows : after.cameras.rows = topology.cameras.rows.map bump) :
    cameras after deviceId = (cameras topology deviceId).map bump := by
  rw [cameras, cameras, Table.select, Table.select, rows, List.filter_map]
  have sameDevice : ((fun camera : Camera => decide (camera.deviceId = some deviceId)) ∘ bump) =
      fun camera => decide (camera.deviceId = some deviceId) := by
    funext camera
    simp [(same camera).2.1]
  rw [sameDevice]
  refine (List.map_insertionSort _ _ _ _ fun a _ b _ => ?_).symm
  simp only [(same a).1, (same a).2.2, (same b).1, (same b).2.2]

theorem existing_get? (profiles : Table StreamProfileRow) (cameras : List Camera) (token : String) :
    (existing profiles cameras).get? token =
      (cameras.flatMap fun camera => (profiles.rows.filter fun profile =>
        profile.cameraId = camera.id ∧ profile.adapterProfileKey = token).map fun profile => (camera, profile)).getLast? := by
  have filtered : (storedProfiles profiles cameras).filter (fun held => held.2.adapterProfileKey = token) =
      cameras.flatMap fun camera => (profiles.rows.filter fun profile =>
        profile.cameraId = camera.id ∧ profile.adapterProfileKey = token).map fun profile => (camera, profile) := by
    rw [storedProfiles, List.filter_flatMap]
    refine List.flatMap_congr fun camera _ => ?_
    rw [List.filter_map, Table.select, List.filter_filter]
    congr 1
    refine List.filter_congr fun profile _ => ?_
    rw [Bool.decide_and, Bool.and_comm]
    rfl
  rw [existing, OrderedDict.get?_ofPairs, List.filter_map, List.getLast?_map, Option.map_map, ← filtered]
  exact Option.map_id_fun' ▸ rfl

theorem apply_ok {topology after : Topology} {deviceId : Uuid} {inspection : OnvifInspection} {outcome : RefreshOutcome}
    (applied : apply store draws now verified topology deviceId inspection = .ok (after, outcome)) :
    ∃ device state, topology.devices.get? deviceId = some device ∧ device.adapterType = "onvif" ∧
      cameras topology deviceId ≠ [] ∧ refreshProfiles store draws now verified topology deviceId inspection = .ok state ∧
      after =
        { topology with
          devices := topology.devices.put (refreshedDevice device inspection now)
          cameras := bumpRevisions topology.cameras (state.restarts.entries.map Prod.fst)
          profiles := state.profiles
          secrets := state.secrets } := by
  rw [apply] at applied
  split at applied
  · cases applied
  · next device found =>
    split at applied
    · cases applied
    · next isOnvif =>
      split at applied
      · cases applied
      · split at applied
        · cases applied
        · next nonempty =>
          rw [bind_eq_ok] at applied
          obtain ⟨_, _, applied⟩ := applied
          rw [bind_eq_ok] at applied
          obtain ⟨state, refreshed, rest⟩ := applied
          cases rest
          refine ⟨device, state, found, not_not.mp isOnvif, fun isEmpty => ?_, refreshed, rfl⟩
          rw [isEmpty] at nonempty
          exact nonempty rfl

/-- How the profiles of a device are found afterwards. -/
structure Settles (store : SecretStore cipher) (topology : Topology) (deviceId : Uuid) (inspection : OnvifInspection)
    (after : Topology) : Prop where
  channels : ∀ channel, ((byChannel (cameras after deviceId)).get? channel).isSome ↔
    ((byChannel (cameras topology deviceId)).get? channel).isSome
  held : ∀ token camera profile, (existing topology.profiles (cameras topology deviceId)).get? token = some (camera, profile) →
    ∃ camera' profile', (existing after.profiles (cameras after deviceId)).get? token = some (camera', profile') ∧
      camera'.channelKey = camera.channelKey ∧
      Settled store after.secrets camera' (inspection.probes.get? token) profile'
  created : ∀ token camera' profile', (existing topology.profiles (cameras topology deviceId)).get? token = none →
    (existing after.profiles (cameras after deviceId)).get? token = some (camera', profile') →
    ∃ probe camera uri, inspection.probes.get? token = some probe ∧
      newSource (byChannel (cameras topology deviceId)) probe = some (camera, uri) ∧ camera'.channelKey = camera.channelKey ∧
      Settled store after.secrets camera' (some probe) profile'
  complete : ∀ token probe, inspection.probes.get? token = some probe →
    (existing after.profiles (cameras after deviceId)).get? token = none →
    newSource (byChannel (cameras topology deviceId)) probe = none

/-- Only the channel of the camera matters. -/
theorem Settled.of_channel {secrets : Table SecretRecord} {camera camera' : Camera} {probe? : Option OnvifProfileProbe}
    {row : StreamProfileRow} (same : camera'.channelKey = camera.channelKey)
    (settled : Settled store secrets camera probe? row) : Settled store secrets camera' probe? row := by
  have sameSource : currentSource camera' probe? = currentSource camera probe? := by
    cases probe? with
    | none => rfl
    | some probe => rw [currentSource, currentSource, same]
  rw [Settled, sameSource]
  exact settled

theorem byChannel_map {cameras : List Camera} {bump : Camera → Camera}
    (same : ∀ camera, (bump camera).channelKey = camera.channelKey) (channel : String) :
    ((byChannel (cameras.map bump)).get? channel).isSome ↔ ((byChannel cameras).get? channel).isSome := by
  constructor
  · intro isSome
    obtain ⟨camera', found⟩ := Option.isSome_iff_exists.mp isSome
    obtain ⟨member, rfl⟩ := byChannel_some found
    obtain ⟨camera, inCameras, rfl⟩ := List.mem_map.mp member
    obtain ⟨kept, isKept⟩ := exists_byChannel inCameras
    rw [same, isKept]
    rfl
  · intro isSome
    obtain ⟨camera, found⟩ := Option.isSome_iff_exists.mp isSome
    obtain ⟨member, rfl⟩ := byChannel_some found
    obtain ⟨kept, isKept⟩ := exists_byChannel (List.mem_map.mpr ⟨camera, member, rfl⟩ : bump camera ∈ cameras.map bump)
    rw [same] at isKept
    rw [isKept]
    rfl

/-- A profile that was found is found afterwards, as it has become. -/
theorem existing_of_held {profiles profiles' : Table StreamProfileRow} {cameras : List Camera} {bump : Camera → Camera}
    {refresh : StreamProfileRow → StreamProfileRow} {created : List StreamProfileRow} {token : String} {camera : Camera}
    {profile : StreamProfileRow} (same : ∀ camera, (bump camera).id = camera.id)
    (rows : profiles'.rows = profiles.rows.map refresh ++ created)
    (sameCamera : ∀ row ∈ profiles, (refresh row).cameraId = row.cameraId)
    (sameKey : ∀ row ∈ profiles, (refresh row).adapterProfileKey = row.adapterProfileKey)
    (isNew : ∀ row ∈ created, row.adapterProfileKey ≠ token)
    (found : (existing profiles cameras).get? token = some (camera, profile)) :
    (existing profiles' (cameras.map bump)).get? token = some (bump camera, refresh profile) := by
  have each (here : Camera) : (profiles'.rows.filter fun row => row.cameraId = (bump here).id ∧ row.adapterProfileKey = token) =
      (profiles.rows.filter fun row => row.cameraId = here.id ∧ row.adapterProfileKey = token).map refresh := by
    have noneCreated : (created.filter fun row => row.cameraId = here.id ∧ row.adapterProfileKey = token) = [] := by
      rw [List.filter_eq_nil_iff]
      exact fun row member given => isNew row member (of_decide_eq_true given).2
    rw [rows, same, List.filter_append, noneCreated, List.append_nil, List.filter_map]
    congr 1
    refine List.filter_congr fun row member => ?_
    simp only [Function.comp_apply, sameCamera row member, sameKey row member]
  rw [existing_get?] at found ⊢
  have mapped : ((cameras.map bump).flatMap fun here => (profiles'.rows.filter fun row =>
        row.cameraId = here.id ∧ row.adapterProfileKey = token).map fun row => (here, row)) =
      (cameras.flatMap fun here => (profiles.rows.filter fun row =>
        row.cameraId = here.id ∧ row.adapterProfileKey = token).map fun row => (here, row)).map
          fun held => (bump held.1, refresh held.2) := by
    rw [List.flatMap_map, List.map_flatMap]
    refine List.flatMap_congr fun here _ => ?_
    rw [each, List.map_map, List.map_map]
    rfl
  rw [mapped, List.getLast?_map, found]
  rfl

theorem settles_of_apply (lawful : ∀ key draw plaintext, cipher.decrypt key (cipher.encrypt key draw plaintext) =
      some plaintext) {topology after : Topology} {deviceId : Uuid} {inspection : OnvifInspection} {outcome : RefreshOutcome}
    (applied : apply store draws now verified topology deviceId inspection = .ok (after, outcome)) :
    Settles store topology deviceId inspection after := by
  obtain ⟨device, state, _, _, _, refreshed, rfl⟩ := apply_ok applied
  obtain ⟨refresh, created, grown⟩ := refreshProfiles_ok lawful refreshed
  obtain ⟨bump, same, rows⟩ := bumpRevisions_rows topology.cameras (state.restarts.entries.map Prod.fst)
  have sameCameras : cameras
      { topology with
        devices := topology.devices.put (refreshedDevice device inspection now)
        cameras := bumpRevisions topology.cameras (state.restarts.entries.map Prod.fst)
        profiles := state.profiles
        secrets := state.secrets } deviceId = (cameras topology deviceId).map bump := cameras_map same rows
  have carried := grown.carried
  constructor
  · intro channel
    rw [sameCameras]
    exact byChannel_map (fun camera => (same camera).2.2) channel
  · intro token camera profile found
    refine ⟨bump camera, refresh profile, ?_, (same camera).2.2, ?_⟩
    · rw [sameCameras]
      refine existing_of_held (fun camera => (same camera).1) grown.rows carried.sameCamera carried.sameKey ?_ found
      rintro row member rfl
      rw [(grown.isCreated row member).absent] at found
      cases found
    · have settled := (carried.settled (token, camera, profile) (mem_sorted.mpr found)).resolve_left List.not_mem_nil
      exact settled.of_channel (same camera).2.2
  · intro token camera' profile' absent found
    rw [sameCameras] at found
    obtain ⟨inCameras, inProfiles, isCamera, isKey⟩ := existing_some found
    obtain ⟨camera, inOld, rfl⟩ := List.mem_map.mp inCameras
    have inRows : profile' ∈ topology.profiles.rows.map refresh ++ created := grown.rows ▸ inProfiles
    rcases List.mem_append.mp inRows with isOld | isNew
    · obtain ⟨row, member, rfl⟩ := List.mem_map.mp isOld
      rw [carried.sameCamera row member, (same camera).1] at isCamera
      rw [carried.sameKey row member] at isKey
      exact absurd isKey (existing_none absent inOld member isCamera)
    · obtain ⟨probe, target, uri, isProbe, isSource, sameCamera, settled⟩ := (grown.isCreated profile' isNew).source
      have inTable : ∀ given ∈ cameras topology deviceId, given ∈ topology.cameras := fun given member =>
        (Table.mem_select.mp ((List.mem_insertionSort _).mp member)).1
      have isTarget : camera = target := by
        refine Table.eq_of_key_eq (inTable camera inOld) (inTable target ?_) ?_
        · exact (byChannel_some (newSource_some.mp isSource).1).1
        · change camera.id = target.id
          rw [← (same camera).1, ← isCamera, sameCamera]
      subst isTarget
      rw [isKey] at isProbe
      exact ⟨probe, camera, uri, isProbe, isSource, (same camera).2.2, settled.of_channel (same camera).2.2⟩
  · intro token probe isProbe absent
    rw [sameCameras] at absent
    rcases grown.complete token probe isProbe with inNil | isHeld | unmapped | ⟨row, member, isKey⟩
    · cases inNil
    · obtain ⟨⟨camera, profile⟩, found⟩ := Option.isSome_iff_exists.mp isHeld
      have foundAfter := existing_of_held (fun camera => (same camera).1) grown.rows carried.sameCamera carried.sameKey
        (fun row member isKey => by
          have missing := (grown.isCreated row member).absent
          rw [isKey, found] at missing
          cases missing) found
      rw [foundAfter] at absent
      cases absent
    · exact unmapped
    · obtain ⟨given, target, uri, _, isSource, sameCamera, _⟩ := (grown.isCreated row member).source
      have inCameras := (byChannel_some (newSource_some.mp isSource).1).1
      have inProfiles : row ∈ state.profiles := by
        rw [Table.mem_def, grown.rows]
        exact List.mem_append_right _ member
      exact absurd isKey (existing_none absent (List.mem_map.mpr ⟨target, inCameras, rfl⟩) inProfiles
        (sameCamera.trans (same target).1.symm))

/-! ## What is asked to be verified -/

/-- `needsVerification` on the stored topology. -/
def needs (store : SecretStore cipher) (topology : Topology) (deviceId : Uuid) (probe : OnvifProfileProbe) : Bool :=
  needsVerification store topology.secrets (byChannel (cameras topology deviceId))
    (existing topology.profiles (cameras topology deviceId)) probe

/-- The dictionary `verify`. -/
def verify (store : SecretStore cipher) (topology : Topology) (deviceId : Uuid) (inspection : OnvifInspection) :
    OrderedDict String OnvifProfileProbe :=
  .ofPairs ((inspection.profiles.filter (needs store topology deviceId)).map fun probe => (probe.token, probe))

theorem verificationProfiles_eq (topology : Topology) (deviceId : Uuid) (inspection : OnvifInspection) :
    verificationProfiles store topology deviceId inspection =
      ((verify store topology deviceId inspection).entries.insertionSort fun a b => a.1 ≤ b.1).map Prod.snd := by
  rw [verificationProfiles, verify, OrderedDict.ofPairs, List.foldl_map, List.foldl_filter]
  rfl

/-- The tokens that are asked for are those of the probes that need it. -/
theorem mem_verification {topology : Topology} {deviceId : Uuid} {inspection : OnvifInspection} {token : String} :
    token ∈ (verificationProfiles store topology deviceId inspection).map OnvifProfileProbe.token ↔
      ∃ probe ∈ inspection.profiles, needs store topology deviceId probe = true ∧ probe.token = token := by
  rw [verificationProfiles_eq, List.map_map, List.mem_map]
  constructor
  · rintro ⟨entry, member, isToken⟩
    obtain ⟨probe, inNeeded, same⟩ := List.mem_map.mp (OrderedDict.mem_of_get?_ofPairs (mem_sorted.mp member))
    obtain ⟨inProfiles, needed⟩ := List.mem_filter.mp inNeeded
    have isProbe : entry.2 = probe := (Prod.ext_iff.mp same).2.symm
    exact ⟨probe, inProfiles, needed, isProbe ▸ isToken⟩
  · rintro ⟨probe, inProfiles, needed, rfl⟩
    obtain ⟨kept, found⟩ := OrderedDict.exists_get?_ofPairs
      (List.mem_map.mpr ⟨probe, List.mem_filter.mpr ⟨inProfiles, needed⟩, rfl⟩ :
        (probe.token, probe) ∈ (inspection.profiles.filter (needs store topology deviceId)).map fun probe => (probe.token, probe))
    obtain ⟨given, _, same⟩ := List.mem_map.mp (OrderedDict.mem_of_get?_ofPairs found)
    have sameToken : given.token = probe.token := by injection same
    have isKept : given = kept := by injection same
    exact ⟨(probe.token, kept), mem_sorted.mpr found, isKept ▸ sameToken⟩

theorem verificationProfiles_eq_nil_iff {topology : Topology} {deviceId : Uuid} {inspection : OnvifInspection} :
    verificationProfiles store topology deviceId inspection = [] ↔
      ∀ probe ∈ inspection.profiles, needs store topology deviceId probe = false := by
  constructor
  · intro isNil probe member
    by_contra needed
    have isAsked := mem_verification.mpr ⟨probe, member, by simpa using needed, rfl⟩
    rw [isNil] at isAsked
    cases isAsked
  · intro noneNeeded
    cases asked : verificationProfiles store topology deviceId inspection with
    | nil => rfl
    | cons first rest =>
      have isAsked : first.token ∈ (verificationProfiles store topology deviceId inspection).map OnvifProfileProbe.token := by
        rw [asked]
        exact List.mem_cons_self
      obtain ⟨probe, member, needed, _⟩ := mem_verification.mp isAsked
      rw [noneNeeded probe member] at needed
      cases needed

/-! ## When a second verification asks for nothing -/

/-- A probe that `apply` would take its source from, were it the last one of its token. -/
def Applicable (topology : Topology) (deviceId : Uuid) (probe : OnvifProfileProbe) : Prop :=
  probe.source.isSome = true ∧
  match (existing topology.profiles (cameras topology deviceId)).get? probe.token with
  | some (camera, _) => probe.channelKey = camera.channelKey
  | none => ((byChannel (cameras topology deviceId)).get? probe.channelKey).isSome = true

/-- The probes of a token that could be applied agree with the last one, which is. -/
def Consistent (topology : Topology) (deviceId : Uuid) (inspection : OnvifInspection) : Prop :=
  ∀ probe ∈ inspection.profiles, Applicable topology deviceId probe →
    ∃ last, inspection.probes.get? probe.token = some last ∧ Applicable topology deviceId last ∧
      (probe.channelKey = last.channelKey → probe.source = last.source)

/-- When a probe of a profile that is held needs verification. -/
theorem needs_held {topology : Topology} {deviceId : Uuid} {probe : OnvifProfileProbe} {camera : Camera}
    {profile : StreamProfileRow}
    (found : (existing topology.profiles (cameras topology deviceId)).get? probe.token = some (camera, profile)) :
    needs store topology deviceId probe = true ↔ ∃ uri, probe.source = some uri ∧ probe.channelKey = camera.channelKey ∧
      (hasDrift profile = true ∨ streamUri store topology.secrets profile ≠ some uri) := by
  rw [needs, needsVerification, found]
  cases probe.source with
  | none => simp
  | some uri => simp

theorem needs_absent {topology : Topology} {deviceId : Uuid} {probe : OnvifProfileProbe}
    (absent : (existing topology.profiles (cameras topology deviceId)).get? probe.token = none) :
    needs store topology deviceId probe = true ↔
      probe.source.isSome ∧ ((byChannel (cameras topology deviceId)).get? probe.channelKey).isSome := by
  rw [needs, needsVerification, absent]
  cases probe.source with
  | none => simp
  | some uri => simp

theorem applicable_held {topology : Topology} {deviceId : Uuid} {probe : OnvifProfileProbe} {camera : Camera}
    {profile : StreamProfileRow}
    (found : (existing topology.profiles (cameras topology deviceId)).get? probe.token = some (camera, profile)) :
    Applicable topology deviceId probe ↔ probe.source.isSome ∧ probe.channelKey = camera.channelKey := by
  rw [Applicable, found]

theorem applicable_absent {topology : Topology} {deviceId : Uuid} {probe : OnvifProfileProbe}
    (absent : (existing topology.profiles (cameras topology deviceId)).get? probe.token = none) :
    Applicable topology deviceId probe ↔
      probe.source.isSome ∧ ((byChannel (cameras topology deviceId)).get? probe.channelKey).isSome := by
  rw [Applicable, absent]

theorem newSource_isSome {channels : OrderedDict String Camera} {probe : OnvifProfileProbe} :
    (newSource channels probe).isSome ↔ probe.source.isSome ∧ (channels.get? probe.channelKey).isSome := by
  rw [newSource]
  cases channels.get? probe.channelKey <;> cases probe.source <;> simp

/-- A settled profile whose probe has a source carries it, without a mark. -/
theorem settled_source {secrets : Table SecretRecord} {camera : Camera} {probe : OnvifProfileProbe} {row : StreamProfileRow}
    {uri : String} (settled : Settled store secrets camera (some probe) row) (isSource : probe.source = some uri)
    (sameChannel : probe.channelKey = camera.channelKey) :
    hasDrift row = false ∧ row.fields = probe.fields ∧ streamUri store secrets row = some uri := by
  have current : currentSource camera (some probe) = .ok (probe, uri) := by
    rw [currentSource, if_neg (not_not.mpr sameChannel), isSource]
  rw [Settled, current] at settled
  exact settled

/-- A settled profile without a mark has a probe with its source. -/
theorem source_of_settled {secrets : Table SecretRecord} {camera : Camera} {probe? : Option OnvifProfileProbe}
    {row : StreamProfileRow} (settled : Settled store secrets camera probe? row) (noDrift : hasDrift row = false) :
    ∃ probe, probe? = some probe ∧ probe.channelKey = camera.channelKey ∧ probe.source.isSome ∧
      streamUri store secrets row = probe.source := by
  rw [Settled] at settled
  split at settled
  · rw [noDrift] at settled
    cases settled
  · next probe uri found =>
    obtain ⟨isProbe, sameChannel, isSource⟩ := currentSource_ok found
    exact ⟨probe, isProbe, sameChannel, by rw [isSource]; rfl, by rw [isSource]; exact settled.2.2⟩

theorem verification_settled_iff {topology after : Topology} {deviceId : Uuid} {inspection : OnvifInspection}
    (settles : Settles store topology deviceId inspection after) :
    verificationProfiles store after deviceId inspection = [] ↔ Consistent topology deviceId inspection := by
  rw [verificationProfiles_eq_nil_iff]
  constructor
  · intro noneNeeded probe member applicable
    obtain ⟨last, isLast⟩ := exists_probe member
    have notNeeded := noneNeeded probe member
    refine ⟨last, isLast, ?_⟩
    have sameToken := (probes_some isLast).2
    cases found : (existing topology.profiles (cameras topology deviceId)).get? probe.token with
    | some held =>
      obtain ⟨camera, profile⟩ := held
      obtain ⟨camera', profile', foundAfter, sameChannel, settled⟩ := settles.held _ _ _ found
      obtain ⟨isSome, isChannel⟩ := (applicable_held found).mp applicable
      obtain ⟨uri, isSource⟩ := Option.isSome_iff_exists.mp isSome
      have quiet : ¬(hasDrift profile' = true ∨ streamUri store after.secrets profile' ≠ some uri) := fun loud => by
        rw [(needs_held foundAfter).mpr ⟨uri, isSource, isChannel.trans sameChannel.symm, loud⟩] at notNeeded
        cases notNeeded
      obtain ⟨noDrift, sameUri⟩ := not_or.mp quiet
      obtain ⟨given, isGiven, givenChannel, givenSource, stored⟩ := source_of_settled settled (by simpa using noDrift)
      obtain rfl := Option.some.inj (isLast.symm.trans isGiven)
      refine ⟨(applicable_held (sameToken ▸ found)).mpr ⟨givenSource, givenChannel.trans sameChannel⟩, fun _ => ?_⟩
      rw [isSource, ← stored, not_not.mp sameUri]
    | none =>
      have isPlaced := (applicable_absent found).mp applicable
      cases foundAfter : (existing after.profiles (cameras after deviceId)).get? probe.token with
      | none =>
        rw [(needs_absent foundAfter).mpr ⟨isPlaced.1, (settles.channels _).mpr isPlaced.2⟩] at notNeeded
        cases notNeeded
      | some held =>
        obtain ⟨camera', profile'⟩ := held
        obtain ⟨given, camera, uri, isGiven, newSource, sameChannel, settled⟩ := settles.created _ _ _ found foundAfter
        obtain rfl := Option.some.inj (isLast.symm.trans isGiven)
        obtain ⟨onChannel, isUri⟩ := newSource_some.mp newSource
        have ofLast : last.channelKey = camera'.channelKey := (byChannel_some onChannel).2.symm.trans sameChannel.symm
        refine ⟨(applicable_absent (sameToken ▸ found)).mpr ⟨by rw [isUri]; rfl, by rw [onChannel]; rfl⟩, fun same => ?_⟩
        obtain ⟨_, _, stored⟩ := settled_source settled isUri ofLast
        obtain ⟨own, isSource⟩ := Option.isSome_iff_exists.mp isPlaced.1
        rw [isUri, isSource]
        by_contra differs
        have needed := (needs_held foundAfter).mpr ⟨own, isSource, same.trans ofLast, .inr (by
          rw [stored]
          exact fun equal => differs equal.symm)⟩
        rw [needed] at notNeeded
        cases notNeeded
  · intro consistent probe member
    by_contra needed
    have isNeeded : needs store after deviceId probe = true := by simpa using needed
    cases found : (existing topology.profiles (cameras topology deviceId)).get? probe.token with
    | some held =>
      obtain ⟨camera, profile⟩ := held
      obtain ⟨camera', profile', foundAfter, sameChannel, settled⟩ := settles.held _ _ _ found
      obtain ⟨uri, isSource, isChannel, loud⟩ := (needs_held foundAfter).mp isNeeded
      obtain ⟨last, isLast, isApplicable, agree⟩ := consistent probe member
        ((applicable_held found).mpr ⟨by rw [isSource]; rfl, isChannel.trans sameChannel⟩)
      have lastChannel := ((applicable_held ((probes_some isLast).2 ▸ found)).mp isApplicable).2.trans sameChannel.symm
      rw [isLast] at settled
      obtain ⟨noDrift, _, stored⟩ := settled_source settled
        ((agree (isChannel.trans lastChannel.symm)).symm.trans isSource) lastChannel
      rcases loud with drift | differs
      · rw [noDrift] at drift
        cases drift
      · exact differs stored
    | none =>
      cases foundAfter : (existing after.profiles (cameras after deviceId)).get? probe.token with
      | none =>
        obtain ⟨isSome, onChannel⟩ := (needs_absent foundAfter).mp isNeeded
        obtain ⟨last, isLast, isApplicable, _⟩ := consistent probe member
          ((applicable_absent found).mpr ⟨isSome, (settles.channels _).mp onChannel⟩)
        have isPlaced := newSource_isSome.mpr ((applicable_absent ((probes_some isLast).2 ▸ found)).mp isApplicable)
        rw [settles.complete _ last isLast foundAfter] at isPlaced
        cases isPlaced
      | some held =>
        obtain ⟨camera', profile'⟩ := held
        obtain ⟨uri, isSource, isChannel, loud⟩ := (needs_held foundAfter).mp isNeeded
        obtain ⟨given, camera, givenUri, isGiven, newSource, sameChannel, settled⟩ := settles.created _ _ _ found foundAfter
        obtain ⟨onChannel, isUri⟩ := newSource_some.mp newSource
        have ofGiven : given.channelKey = camera'.channelKey := (byChannel_some onChannel).2.symm.trans sameChannel.symm
        have isPlaced : ((byChannel (cameras topology deviceId)).get? probe.channelKey).isSome := by
          rw [isChannel, ← ofGiven, onChannel]
          rfl
        obtain ⟨last, isLast, _, agree⟩ := consistent probe member
          ((applicable_absent found).mpr ⟨by rw [isSource]; rfl, isPlaced⟩)
        obtain rfl := Option.some.inj (isLast.symm.trans isGiven)
        have sameSource := agree (isChannel.trans ofGiven.symm)
        obtain ⟨noDrift, _, stored⟩ := settled_source settled (sameSource.symm.trans isSource) ofGiven
        rcases loud with drift | differs
        · rw [noDrift] at drift
          cases drift
        · exact differs stored

/-! ## A second refresh -/

/-- A refresh reports no profile, adds no row and asks for no restart. -/
structure Unchanged (before after : Topology) (outcome : RefreshOutcome) : Prop where
  changed : outcome.diff.profilesChanged = []
  recovered : outcome.diff.profilesRecovered = []
  restarts : outcome.restartProfilesByCamera.entries = []
  devices : after.devices.rows.map DeviceRow.id = before.devices.rows.map DeviceRow.id
  cameras : after.cameras = before.cameras
  profiles : after.profiles.rows.map StreamProfileRow.id = before.profiles.rows.map StreamProfileRow.id
  bindings : after.bindings = before.bindings
  secrets : after.secrets = before.secrets

theorem map_key_put {ρ κ : Type} [Keyed ρ κ] [DecidableEq κ] {table : Table ρ} {new : ρ}
    (member : Keyed.key new ∈ table.rows.map Keyed.key) :
    (table.put new).rows.map Keyed.key = table.rows.map Keyed.key := by
  rw [Table.rows_put_of_mem member, List.map_map]
  refine List.map_congr_left fun row _ => ?_
  by_cases same : Keyed.key row = Keyed.key new
  · rw [Function.comp_apply, if_pos same, same]
  · rw [Function.comp_apply, if_neg same]

theorem refreshProfile_settled {boundIds : List UUID} {probes : OrderedDict String OnvifProfileProbe} {state : Refreshing}
    {token : String} {camera : Camera} {profile : StreamProfileRow}
    (settled : Settled store state.secrets camera (probes.get? token) profile)
    (stored : profile.id ∈ state.profiles.rows.map StreamProfileRow.id) :
    ∃ profiles missing, refreshProfile store draws now verified boundIds probes state (token, camera, profile) =
        .ok { state with profiles, missing } ∧
      profiles.rows.map StreamProfileRow.id = state.profiles.rows.map StreamProfileRow.id := by
  rw [Settled] at settled
  rw [refreshProfile]
  cases found : currentSource camera (probes.get? token) with
  | error reason => exact ⟨_, _, rfl, map_key_put stored⟩
  | ok source =>
    rw [found] at settled
    obtain ⟨noDrift, sameFields, sameUri⟩ := settled
    simp only [noDrift, sameFields, sameUri, ne_eq, not_true_eq_false, decide_false, Bool.or_self, Bool.false_eq_true,
      false_and, if_false, not_false_eq_true, if_true]
    exact ⟨_, _, rfl, map_key_put stored⟩

theorem addProfile_settled {held : OrderedDict String (Camera × StreamProfileRow)} {channels : OrderedDict String Camera}
    {state : Refreshing} {token : String} {probe : OnvifProfileProbe}
    (complete : held.get? token = none → newSource channels probe = none) :
    ∃ added unmappedAdded, addProfile store draws now verified held channels state (token, probe) =
      .ok { state with added, unmappedAdded } := by
  rw [addProfile]
  cases found : held.get? token with
  | some known => exact ⟨state.added, state.unmappedAdded, rfl⟩
  | none =>
    rw [complete found]
    exact ⟨_, _, rfl⟩

theorem Settles.settled {topology after : Topology} {deviceId : Uuid} {inspection : OnvifInspection}
    (settles : Settles store topology deviceId inspection after) {token : String} {camera' : Camera}
    {profile' : StreamProfileRow}
    (foundAfter : (existing after.profiles (cameras after deviceId)).get? token = some (camera', profile')) :
    Settled store after.secrets camera' (inspection.probes.get? token) profile' := by
  cases found : (existing topology.profiles (cameras topology deviceId)).get? token with
  | some held =>
    obtain ⟨camera, profile, here, _, settled⟩ := settles.held _ held.1 held.2 found
    cases foundAfter.symm.trans here
    exact settled
  | none =>
    obtain ⟨probe, _, _, isProbe, _, _, settled⟩ := settles.created _ _ _ found foundAfter
    rw [isProbe]
    exact settled

theorem refreshProfiles_settled {topology after : Topology} {deviceId : Uuid} {inspection : OnvifInspection}
    (settles : Settles store topology deviceId inspection after) :
    ∃ state, refreshProfiles store draws now verified after deviceId inspection = .ok state ∧
      state.secrets = after.secrets ∧ state.changed = [] ∧ state.recovered = [] ∧ state.restarts.entries = [] ∧
      state.profiles.rows.map StreamProfileRow.id = after.profiles.rows.map StreamProfileRow.id := by
  let Same (state : Refreshing) : Prop := state.secrets = after.secrets ∧ state.changed = [] ∧ state.recovered = [] ∧
    state.restarts.entries = [] ∧ state.profiles.rows.map StreamProfileRow.id = after.profiles.rows.map StreamProfileRow.id
  have first := @foldlM_ok _ _ _ (refreshProfile store draws now verified
      ((cameras after deviceId).flatMap fun camera =>
        (after.bindings.select fun binding => binding.cameraId = camera.id).map StreamBindingRow.streamProfileId)
      inspection.probes) Same
    ((existing after.profiles (cameras after deviceId)).entries.insertionSort fun a b => a.1 ≤ b.1)
    (fun state entry member ⟨sameSecrets, noneChanged, noneRecovered, noRestart, sameIds⟩ => by
      obtain ⟨token, camera, profile⟩ := entry
      have found := mem_sorted.mp member
      have settled := settles.settled found
      rw [← sameSecrets] at settled
      have stored : profile.id ∈ state.profiles.rows.map StreamProfileRow.id := by
        rw [sameIds]
        exact List.mem_map.mpr ⟨profile, (existing_some found).2.1, rfl⟩
      obtain ⟨profiles, missing, done, ids⟩ := refreshProfile_settled settled stored
      exact ⟨_, done, sameSecrets, noneChanged, noneRecovered, noRestart, ids.trans sameIds⟩)
  obtain ⟨middle, firstDone, sameMiddle⟩ := @first { profiles := after.profiles, secrets := after.secrets }
    ⟨rfl, rfl, rfl, rfl, rfl⟩
  have second := @foldlM_ok _ _ _ (addProfile store draws now verified (existing after.profiles (cameras after deviceId))
      (byChannel (cameras after deviceId))) Same
    (inspection.probes.entries.insertionSort fun a b => a.1 ≤ b.1)
    (fun state entry member same => by
      obtain ⟨token, probe⟩ := entry
      have isProbe := mem_sorted.mp member
      obtain ⟨added, unmappedAdded, done⟩ := @addProfile_settled _ store draws now verified
        (existing after.profiles (cameras after deviceId)) (byChannel (cameras after deviceId)) state token probe
        fun absent => by
          have unmapped := settles.complete token probe isProbe absent
          rw [← Option.not_isSome_iff_eq_none, newSource_isSome] at unmapped ⊢
          exact fun ⟨isSome, onChannel⟩ => unmapped ⟨isSome, (settles.channels _).mp onChannel⟩
      exact ⟨_, done, same⟩)
  obtain ⟨state, secondDone, sameState⟩ := second sameMiddle
  refine ⟨state, ?_, sameState⟩
  rw [refreshProfiles, bind_eq_ok]
  exact ⟨middle, firstDone, secondDone⟩

theorem identityChanged_refreshedDevice (device : DeviceRow) (inspection : OnvifInspection) (now : Timestamp) :
    identityChanged (refreshedDevice device inspection now) inspection = false := by
  rw [identityChanged, refreshedDevice]
  cases inspection.device.hardwareId with
  | none => cases device.hardwareId <;> rfl
  | some reported =>
    by_cases isEmpty : reported = ""
    · subst isEmpty
      cases device.hardwareId <;> simp
    · simp [isEmpty]

theorem onvifServices_refreshedDevice (device : DeviceRow) (inspection : OnvifInspection) (now : Timestamp) :
    ∃ services, onvifServices (refreshedDevice device inspection now) = .ok services := by
  have stored : (refreshedDevice device inspection now).capabilities.get? "onvif_services" =
      some (.arr ((sortedSet inspection.capabilities).map .str)) := by
    simp [refreshedDevice, buildOnvifCapabilitySnapshot, OrderedDict.get?_ofPairs]
  rw [onvifServices, stored]
  exact ⟨_, rfl⟩

theorem apply_of_refreshed {topology : Topology} {deviceId : Uuid} {inspection : OnvifInspection} {device : DeviceRow}
    {state : Refreshing} {services : List String} (found : topology.devices.get? deviceId = some device)
    (isOnvif : device.adapterType = "onvif") (sameIdentity : identityChanged device inspection = false)
    (nonempty : cameras topology deviceId ≠ []) (readable : onvifServices device = .ok services)
    (refreshed : refreshProfiles store draws now verified topology deviceId inspection = .ok state) :
    ∃ final outcome, apply store draws now verified topology deviceId inspection = .ok (final, outcome) ∧
      outcome.diff.profilesChanged = state.changed ∧ outcome.diff.profilesRecovered = state.recovered ∧
      outcome.restartProfilesByCamera = state.restarts ∧
      final =
        { topology with
          devices := topology.devices.put (refreshedDevice device inspection now)
          cameras := bumpRevisions topology.cameras (state.restarts.entries.map Prod.fst)
          profiles := state.profiles
          secrets := state.secrets } := by
  have notEmpty : (cameras topology deviceId).isEmpty = false := List.isEmpty_eq_false_iff.mpr nonempty
  apply Exists.intro
  apply Exists.intro
  refine ⟨?_, ?_, ?_, ?_, ?_⟩
  · rw [apply, found]
    dsimp only
    rw [if_neg (not_not.mpr isOnvif), sameIdentity, if_neg Bool.false_ne_true, notEmpty, if_neg Bool.false_ne_true,
      readable]
    change (refreshProfiles store draws now verified topology deviceId inspection >>= _) = _
    rw [refreshed]
    exact rfl
  · rfl
  · rfl
  · rfl
  · rfl

/-- A refresh of what a refresh left is successful, with whatever was verified, and changes nothing. -/
theorem apply_again (lawful : ∀ key draw plaintext, cipher.decrypt key (cipher.encrypt key draw plaintext) =
      some plaintext) {topology after : Topology} {deviceId : Uuid} {inspection : OnvifInspection} {outcome : RefreshOutcome}
    (applied : apply store draws now verified topology deviceId inspection = .ok (after, outcome))
    (draws' : Draws cipher) (now' : Timestamp) (verified' : List String) :
    ∃ final again, apply store draws' now' verified' after deviceId inspection = .ok (final, again) ∧
      Unchanged after final again := by
  have settles := settles_of_apply lawful applied
  obtain ⟨device, first, found, isOnvif, nonempty, _, isAfter⟩ := apply_ok applied
  obtain ⟨state, refreshed, sameSecrets, noneChanged, noneRecovered, noRestart, sameIds⟩ :=
    @refreshProfiles_settled _ store draws' now' verified' _ _ _ _ settles
  have isId : device.id = deviceId := Table.key_of_get? found
  have foundAfter : after.devices.get? deviceId = some (refreshedDevice device inspection now) := by
    rw [isAfter]
    refine (Table.get?_put deviceId).trans (if_pos ?_)
    exact isId.symm
  obtain ⟨services, readable⟩ := onvifServices_refreshedDevice device inspection now
  have camerasLeft : cameras after deviceId ≠ [] := by
    obtain ⟨bump, same, rows⟩ := bumpRevisions_rows topology.cameras (first.restarts.entries.map Prod.fst)
    have mapped : cameras after deviceId = (cameras topology deviceId).map bump :=
      cameras_map same (by rw [isAfter]; exact rows)
    rw [mapped]
    simpa using nonempty
  obtain ⟨final, again, done, isChanged, isRecovered, isRestarts, isFinal⟩ := apply_of_refreshed foundAfter isOnvif
    (identityChanged_refreshedDevice device inspection now) camerasLeft readable refreshed
  refine ⟨final, again, done, isChanged.trans noneChanged, isRecovered.trans noneRecovered, ?_, ?_, ?_, ?_, ?_, ?_⟩
  · rw [isRestarts, noRestart]
  · rw [isFinal]
    exact map_key_put (List.mem_map.mpr ⟨_, Table.mem_of_get? foundAfter, rfl⟩)
  · rw [isFinal]
    dsimp only
    rw [noRestart]
    rfl
  · rw [isFinal]
    exact sameIds
  · rw [isFinal]
  · rw [isFinal]
    exact sameSecrets

/-! ## No verification is missing -/

/-- The error of a source that was not verified. -/
def RequiresVerification : PyError → Prop
  | .api error => error.code = "onvif_profile_verification_required"
  | _ => False

theorem not_required {statusCode : Nat} {code message : String} (differs : code ≠ "onvif_profile_verification_required") :
    ¬RequiresVerification (apiError statusCode code message) := differs

/-- A fold that fails has a pass that fails. -/
theorem foldlM_error_rest {ε α β : Type} {step : β → α → Except ε β} {Inv : List α → β → Prop} {e : ε} (items : List α)
    (preserved : ∀ item rest b b', Inv (item :: rest) b → step b item = .ok b' → Inv rest b') {b : β}
    (start : Inv items b) (failed : items.foldlM step b = .error e) :
    ∃ item rest b', item ∈ items ∧ Inv (item :: rest) b' ∧ step b' item = .error e := by
  induction items generalizing b with
  | nil => cases failed
  | cons item items ih =>
    rw [List.foldlM_cons] at failed
    cases first : step b item with
    | error e' =>
      rw [first] at failed
      cases failed
      exact ⟨item, items, b, List.mem_cons_self, start, first⟩
    | ok b' =>
      rw [first] at failed
      obtain ⟨other, rest, last, member, inv, stepFails⟩ := ih (preserved item items b b' start first) failed
      exact ⟨other, rest, last, List.mem_cons_of_mem _ member, inv, stepFails⟩

theorem replaceStreamUri_error {profiles : Table StreamProfileRow} {secrets : Table SecretRecord} {profile : StreamProfileRow}
    {uri : String} {e : PyError} (failed : replaceStreamUri store draws profiles secrets profile uri = .error e) :
    e = .integrityError := by
  rw [replaceStreamUri] at failed
  cases created : createUri store draws secrets profile uri with
  | error e' =>
    rw [created] at failed
    cases failed
    rw [createUri] at created
    split at created
    · cases created
      rfl
    · cases created
  | ok grown =>
    rw [created] at failed
    dsimp only [bind, Except.bind] at failed
    split at failed
    · cases failed
    · next old _ =>
      split at failed
      · cases failed
      · next e' notKey deleted =>
        rcases delete_cases grown old profile.id uriKind ownerType with ⟨key, raised⟩ | ⟨found, _, removed⟩
        · rw [raised] at deleted
          cases deleted
          exact (notKey key rfl).elim
        · rw [removed] at deleted
          cases deleted
      · split at failed
        · cases failed
          rfl
        · cases failed

theorem refreshProfile_error {boundIds : List UUID} {probes : OrderedDict String OnvifProfileProbe} {state : Refreshing}
    {token : String} {camera : Camera} {profile : StreamProfileRow} {e : PyError}
    (failed : refreshProfile store draws now verified boundIds probes state (token, camera, profile) = .error e)
    (required : RequiresVerification e) :
    ∃ probe uri, currentSource camera (probes.get? token) = .ok (probe, uri) ∧
      (hasDrift profile = true ∨ streamUri store state.secrets profile ≠ some uri) ∧ token ∉ verified := by
  rw [refreshProfile] at failed
  split at failed
  · cases failed
  · next probe uri found =>
    dsimp only at failed
    split at failed
    · next loud => exact ⟨probe, uri, found, by simpa using loud.1, loud.2⟩
    · split at failed
      · cases failed
      · cases replaced : replaceStreamUri store draws state.profiles state.secrets
          (refreshedProfile now verified token profile probe) uri with
        | error e' =>
          rw [replaced] at failed
          cases failed
          rw [replaceStreamUri_error replaced] at required
          exact required.elim
        | ok result =>
          rw [replaced] at failed
          cases failed

theorem addProfile_error {held : OrderedDict String (Camera × StreamProfileRow)} {channels : OrderedDict String Camera}
    {state : Refreshing} {token : String} {probe : OnvifProfileProbe} {e : PyError}
    (failed : addProfile store draws now verified held channels state (token, probe) = .error e)
    (required : RequiresVerification e) :
    held.get? token = none ∧ (newSource channels probe).isSome ∧ token ∉ verified := by
  rw [addProfile] at failed
  split at failed
  · cases failed
  · next notHeld =>
    dsimp only at failed
    split at failed
    · cases failed
    · next camera uri isSource =>
      split at failed
      · next notVerified => exact ⟨Option.not_isSome_iff_eq_none.mp notHeld, by rw [isSource]; rfl, notVerified⟩
      · split at failed
        · cases failed
          exact required.elim
        · next profiles inserted =>
          cases created : createUri store draws state.secrets (newProfile draws now camera probe) uri with
          | error e' =>
            rw [created] at failed
            cases failed
            rw [createUri] at created
            split at created
            · cases created
              exact required.elim
            · cases created
          | ok secrets =>
            rw [created] at failed
            cases failed

/-- The two loops do not ask for a source that `verificationProfiles` left out. -/
theorem refreshProfiles_verified (lawful : ∀ key draw plaintext, cipher.decrypt key (cipher.encrypt key draw plaintext) =
      some plaintext) {topology : Topology} {deviceId : Uuid} {inspection : OnvifInspection} {e : PyError}
    (failed : refreshProfiles store draws now
      ((verificationProfiles store topology deviceId inspection).map OnvifProfileProbe.token) topology deviceId inspection =
        .error e) : ¬RequiresVerification e := by
  intro required
  have isEntries := entries_existing topology deviceId
  rw [refreshProfiles] at failed
  cases first : ((existing topology.profiles (cameras topology deviceId)).entries.insertionSort
      fun a b => a.1 ≤ b.1).foldlM (refreshProfile store draws now
        ((verificationProfiles store topology deviceId inspection).map OnvifProfileProbe.token)
        ((cameras topology deviceId).flatMap fun camera =>
          (topology.bindings.select fun binding => binding.cameraId = camera.id).map StreamBindingRow.streamProfileId)
        inspection.probes) { profiles := topology.profiles, secrets := topology.secrets } with
  | error e' =>
    have sameError : e' = e := by
      have failed' := failed
      rw [first] at failed'
      cases failed'
      rfl
    subst sameError
    obtain ⟨⟨token, camera, profile⟩, rest, state, member, ⟨refresh, progress⟩, stepFails⟩ := @foldlM_error_rest _ _ _ _
      (fun rest state => ∃ refresh, Progress store
        ((verificationProfiles store topology deviceId inspection).map OnvifProfileProbe.token) inspection.probes topology _
        rest refresh state) _ _ (fun entry rest b b' ⟨refresh, progress⟩ step => progress.step lawful isEntries step)
      _ ⟨id, Progress.start _ inspection.probes topology _⟩ first
    obtain ⟨probe, uri, found, loud, notVerified⟩ := refreshProfile_error stepFails required
    obtain ⟨isProbe, isChannel, isSource⟩ := currentSource_ok found
    obtain ⟨inProfiles, isToken⟩ := probes_some isProbe
    have held := mem_sorted.mp member
    have sameUri := progress.carried.waiting _ List.mem_cons_self
    refine notVerified (mem_verification.mpr ⟨probe, inProfiles, ?_, isToken⟩)
    refine (needs_held (isToken ▸ held)).mpr ⟨uri, isSource, isChannel, loud.imp_right fun differs => ?_⟩
    exact sameUri ▸ differs
  | ok middle =>
    have second : (inspection.probes.entries.insertionSort fun a b => a.1 ≤ b.1).foldlM
        (addProfile store draws now ((verificationProfiles store topology deviceId inspection).map OnvifProfileProbe.token)
          (existing topology.profiles (cameras topology deviceId)) (byChannel (cameras topology deviceId))) middle =
        .error e := by
      have failed' := failed
      rw [first] at failed'
      exact failed'
    obtain ⟨⟨token, probe⟩, _, state, member, _, stepFails⟩ := @foldlM_error_rest _ _ _ _
      (fun _ _ => True) _ _ (fun _ _ _ _ _ _ => trivial) _ trivial second
    obtain ⟨absent, isSome, notVerified⟩ := addProfile_error stepFails required
    obtain ⟨inProfiles, isToken⟩ := probes_some (mem_sorted.mp member)
    refine notVerified (mem_verification.mpr ⟨probe, inProfiles, ?_, isToken⟩)
    exact (needs_absent (isToken ▸ absent)).mpr (newSource_isSome.mp isSome)

theorem apply_verified (lawful : ∀ key draw plaintext, cipher.decrypt key (cipher.encrypt key draw plaintext) =
      some plaintext) {topology : Topology} {deviceId : Uuid} {inspection : OnvifInspection} {e : PyError}
    (failed : apply store draws now ((verificationProfiles store topology deviceId inspection).map OnvifProfileProbe.token)
      topology deviceId inspection = .error e) : ¬RequiresVerification e := by
  rw [apply] at failed
  split at failed
  · cases failed
    exact not_required (by decide)
  · next device found =>
    split at failed
    · cases failed
      exact not_required (by decide)
    · split at failed
      · cases failed
        exact not_required (by decide)
      · split at failed
        · cases failed
          exact not_required (by decide)
        · cases services : onvifServices device with
          | error e' =>
            rw [services] at failed
            cases failed
            rw [onvifServices] at services
            split at services
            any_goals cases services
            exact id
          | ok previous =>
            rw [services] at failed
            cases refreshed : refreshProfiles store draws now
                ((verificationProfiles store topology deviceId inspection).map OnvifProfileProbe.token) topology deviceId
                inspection with
            | error e' =>
              have sameError : e' = e := by
                have failed' := failed
                dsimp only [bind, Except.bind] at failed'
                rw [refreshed] at failed'
                cases failed'
                rfl
              exact sameError ▸ refreshProfiles_verified lawful refreshed
            | ok state =>
              dsimp only [bind, Except.bind] at failed
              rw [refreshed] at failed
              cases failed

/-! ## What is kept -/

/-- Only verified sources are replaced or new, and nothing is removed. -/
structure Kept (store : SecretStore cipher) (verified : List String) (before after : Topology) : Prop where
  cameras : after.cameras.rows.map Camera.id = before.cameras.rows.map Camera.id
  bindings : after.bindings = before.bindings
  profiles : ∀ profile ∈ before.profiles, ∃ refreshed ∈ after.profiles, refreshed.id = profile.id ∧
    refreshed.cameraId = profile.cameraId ∧ refreshed.adapterProfileKey = profile.adapterProfileKey ∧
    (profile.adapterProfileKey ∉ verified → refreshed.streamUriRef = profile.streamUriRef ∧
      streamUri store after.secrets refreshed = streamUri store before.secrets profile)
  created : ∀ profile ∈ after.profiles,
    (∃ old ∈ before.profiles, old.id = profile.id) ∨ profile.adapterProfileKey ∈ verified

theorem apply_kept (lawful : ∀ key draw plaintext, cipher.decrypt key (cipher.encrypt key draw plaintext) =
      some plaintext) {topology after : Topology} {deviceId : Uuid} {inspection : OnvifInspection} {outcome : RefreshOutcome}
    (applied : apply store draws now verified topology deviceId inspection = .ok (after, outcome)) :
    Kept store verified topology after := by
  obtain ⟨device, state, _, _, _, refreshed, rfl⟩ := apply_ok applied
  obtain ⟨refresh, created, grown⟩ := refreshProfiles_ok lawful refreshed
  have carried := grown.carried
  constructor
  · obtain ⟨bump, same, rows⟩ := bumpRevisions_rows topology.cameras (state.restarts.entries.map Prod.fst)
    rw [rows, List.map_map]
    exact List.map_congr_left fun camera _ => (same camera).1
  · rfl
  · intro profile member
    refine ⟨refresh profile, ?_, carried.sameId _ member, carried.sameCamera _ member, carried.sameKey _ member,
      carried.unverified _ member⟩
    rw [Table.mem_def, grown.rows]
    exact List.mem_append_left _ (List.mem_map.mpr ⟨profile, member, rfl⟩)
  · intro profile member
    rw [Table.mem_def, grown.rows] at member
    rcases List.mem_append.mp member with isOld | isNew
    · obtain ⟨old, inStart, rfl⟩ := List.mem_map.mp isOld
      exact .inl ⟨old, inStart, (carried.sameId old inStart).symm⟩
    · exact .inr (grown.isCreated profile isNew).verified

/-! ## The refresh of a device -/

/-- A second verification asks for nothing and a second refresh changes nothing. -/
def Idempotent (store : SecretStore cipher) (after : Topology) (deviceId : Uuid) (inspection : OnvifInspection) : Prop :=
  verificationProfiles store after deviceId inspection = [] ∧
  ∀ (draws : Draws cipher) (now : Timestamp) (verified : List String),
    ∃ final again, apply store draws now verified after deviceId inspection = .ok (final, again) ∧ Unchanged after final again

/-- A refresh is idempotent when the probes of each token agree. -/
theorem idempotent_iff (lawful : ∀ key draw plaintext, cipher.decrypt key (cipher.encrypt key draw plaintext) =
      some plaintext) {topology after : Topology} {deviceId : Uuid} {inspection : OnvifInspection} {outcome : RefreshOutcome}
    (applied : apply store draws now verified topology deviceId inspection = .ok (after, outcome)) :
    Idempotent store after deviceId inspection ↔ Consistent topology deviceId inspection := by
  rw [← verification_settled_iff (settles_of_apply lawful applied)]
  exact and_iff_left fun draws' now' verified' => apply_again lawful applied draws' now' verified'

end

/-- With the tokens of `verificationProfiles`, `apply` never asks for another verification.  Whatever was
    verified, nothing else is replaced or created, and nothing is removed.  A refresh that was
    successful is idempotent exactly when the probes of each token agree with the last one. -/
theorem capability_refresh {cipher : Fernet} (lawful : ∀ key draw plaintext, cipher.decrypt key (cipher.encrypt key draw plaintext) =
      some plaintext) (store : SecretStore cipher) (topology : Topology) (deviceId : Uuid) (inspection : OnvifInspection) :
    (∀ draws now e, apply store draws now
      ((verificationProfiles store topology deviceId inspection).map OnvifProfileProbe.token) topology deviceId inspection =
        .error e → ¬RequiresVerification e) ∧
    (∀ draws now verified after outcome, apply store draws now verified topology deviceId inspection = .ok (after, outcome) →
      Kept store verified topology after) ∧
    ∀ draws now after outcome, apply store draws now
      ((verificationProfiles store topology deviceId inspection).map OnvifProfileProbe.token) topology deviceId inspection =
        .ok (after, outcome) →
      (Idempotent store after deviceId inspection ↔ Consistent topology deviceId inspection) := by
  refine ⟨?_, ?_, ?_⟩
  · intro draws now e failed
    exact apply_verified lawful failed
  · intro draws now verified after outcome applied
    exact apply_kept lawful applied
  · intro draws now after outcome applied
    exact idempotent_iff lawful applied

/-! ### A device that reports a token twice -/

def clearCipher : Fernet := { Key := Unit, Draw := Unit, encrypt := fun _ _ plaintext => plaintext, decrypt := fun _ => some }

def clearStore : SecretStore clearCipher := { primaryKeyId := "k", primary := (), previous := [] }

def firstDraws : Draws clearCipher :=
  { profileId := fun _ => ⟨7, by decide⟩, secretRef := fun _ => ⟨8, by decide⟩, draw := fun _ => () }

def newYear : Timestamp := ⟨0, by decide⟩

/-- One camera without profiles. -/
def bareTopology : Topology :=
  { devices := ⟨[{ id := 1, adapterType := "onvif" }], by decide⟩
    cameras := ⟨[{ id := 2, deviceId := some 1, channelKey := "default" }], by decide⟩
    profiles := .empty
    bindings := .empty
    secrets := .empty }

def bareProbe (uri : String) : OnvifProfileProbe :=
  { token := "P"
    fields :=
      { videoSource := none, name := "main", codec := none, width := none, height := none, fps := none, bitrateKbps := none,
        gopSeconds := none, audioCodec := none, hasAudio := false }
    streamUriAvailable := true
    streamUri := some uri }

def bareInspection (uris : List String) : OnvifInspection :=
  { device := { manufacturer := none, model := none, serialNumber := none, hardwareId := none }
    capabilities := []
    profiles := uris.map bareProbe }

/-- A token with two sources: the refresh is successful, and a second verification asks for it again. -/
theorem repeated_token_verified_again : ∃ after outcome,
    apply clearStore firstDraws newYear
      ((verificationProfiles clearStore bareTopology 1 (bareInspection ["a", "b"])).map OnvifProfileProbe.token) bareTopology 1
      (bareInspection ["a", "b"]) = .ok (after, outcome) ∧
    verificationProfiles clearStore after 1 (bareInspection ["a", "b"]) ≠ [] := by
  have isOk : (apply clearStore firstDraws newYear
      ((verificationProfiles clearStore bareTopology 1 (bareInspection ["a", "b"])).map OnvifProfileProbe.token) bareTopology 1
      (bareInspection ["a", "b"])).toOption.isSome = true := by decide +kernel
  obtain ⟨⟨after, outcome⟩, isSome⟩ := Option.isSome_iff_exists.mp isOk
  have applied : apply clearStore firstDraws newYear
      ((verificationProfiles clearStore bareTopology 1 (bareInspection ["a", "b"])).map OnvifProfileProbe.token) bareTopology 1
      (bareInspection ["a", "b"]) = .ok (after, outcome) := by
    cases result : apply clearStore firstDraws newYear
      ((verificationProfiles clearStore bareTopology 1 (bareInspection ["a", "b"])).map OnvifProfileProbe.token) bareTopology 1
      (bareInspection ["a", "b"]) with
    | error e =>
      rw [result] at isSome
      cases isSome
    | ok value =>
      rw [result] at isSome
      cases isSome
      rfl
  refine ⟨after, outcome, applied, fun isNil => ?_⟩
  have consistent := (verification_settled_iff (settles_of_apply (fun _ _ _ => rfl) applied)).mp isNil
  have first : bareProbe "a" ∈ (bareInspection ["a", "b"]).profiles := List.mem_cons_self
  have absent : (existing bareTopology.profiles (cameras bareTopology 1)).get? (bareProbe "a").token = none := by decide +kernel
  obtain ⟨last, isLast, _, agree⟩ := consistent _ first
    ((applicable_absent absent).mpr ⟨by decide +kernel, by decide +kernel⟩)
  have kept : (bareInspection ["a", "b"]).probes.get? (bareProbe "a").token = some (bareProbe "b") := by decide +kernel
  cases Option.some.inj (isLast.symm.trans kept)
  exact absurd (agree rfl) (by decide +kernel)

/-- A device with one profile: it is verified, created and quiet afterwards. -/
theorem single_token_idempotent : ∃ after outcome,
    apply clearStore firstDraws newYear
      ((verificationProfiles clearStore bareTopology 1 (bareInspection ["a"])).map OnvifProfileProbe.token) bareTopology 1
      (bareInspection ["a"]) = .ok (after, outcome) ∧
    Kept clearStore ((verificationProfiles clearStore bareTopology 1 (bareInspection ["a"])).map OnvifProfileProbe.token)
      bareTopology after ∧
    Idempotent clearStore after 1 (bareInspection ["a"]) := by
  have all := capability_refresh (fun _ _ _ => rfl) clearStore bareTopology 1 (bareInspection ["a"])
  cases result : apply clearStore firstDraws newYear
      ((verificationProfiles clearStore bareTopology 1 (bareInspection ["a"])).map OnvifProfileProbe.token) bareTopology 1
      (bareInspection ["a"]) with
  | error e =>
    have isOk : (apply clearStore firstDraws newYear
      ((verificationProfiles clearStore bareTopology 1 (bareInspection ["a"])).map OnvifProfileProbe.token) bareTopology 1
      (bareInspection ["a"])).toOption.isSome = true := by decide +kernel
    rw [result] at isOk
    cases isOk
  | ok value =>
    obtain ⟨after, outcome⟩ := value
    refine ⟨after, outcome, rfl, all.2.1 _ _ _ _ _ result, (all.2.2 _ _ _ _ result).mpr ?_⟩
    intro probe member _
    obtain rfl := List.mem_singleton.mp member
    have kept : (bareInspection ["a"]).probes.get? (bareProbe "a").token = some (bareProbe "a") := by decide +kernel
    exact ⟨_, kept, ‹_›, fun _ => rfl⟩

end ZeroNvr.OnvifCapabilityRefreshService
