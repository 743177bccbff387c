import ZeroNvr.Core.Pagination
import ZeroNvr.Core.SecretJson
import ZeroNvr.Lib.OrderedDict
import ZeroNvr.Models

/-! # Refreshing the ONVIF capabilities of a device

What an inspection of a device says is written over what is stored of it.  The
sources that `verificationProfiles` names are verified in between; `apply` keeps
the profiles that the device has no longer, with a mark.
-/

namespace ZeroNvr.OnvifCapabilityRefreshService

open Calendar (ofWall)
open JsonText (Value)
open Lib
open Pagination (Timestamp)

/-! ## The inspection -/

/-- What `_profile_fields` and `_probe_fields` compare. -/
structure ProfileFields where
  videoSource : Option String
  name : String
  codec : Option String
  width : Option Int
  height : Option Int
  fps : Option ℚ
  bitrateKbps : Option Int
  gopSeconds : Option ℚ
  audioCodec : Option String
  hasAudio : Bool
  deriving DecidableEq

structure OnvifProfileProbe where
  token : String
  fields : ProfileFields
  streamUriAvailable : Bool
  streamUri : Option String
  deriving DecidableEq

structure OnvifDeviceInfo where
  manufacturer : Option String
  model : Option String
  serialNumber : Option String
  hardwareId : Option String

structure OnvifCapabilityProbe where
  supportsSnapshot : Option Bool := none
  supportsAudio : Option Bool := none
  supportsTimeRead : Option Bool := none
  supportsTimeWrite : Option Bool := none
  supportsNtpConfig : Option Bool := none

structure OnvifInspection where
  device : OnvifDeviceInfo
  capabilities : List String
  profiles : List OnvifProfileProbe
  capabilityProbe : OnvifCapabilityProbe := {}

/-- `probe.video_source_token or "default"`. -/
def OnvifProfileProbe.channelKey (probe : OnvifProfileProbe) : String :=
  match probe.fields.videoSource with
  | none => "default"
  | some token => if token = "" then "default" else token

/-- The URI of a probe that is usable. -/
def OnvifProfileProbe.source (probe : OnvifProfileProbe) : Option String :=
  match probe.streamUri with
  | none => none
  | some uri => if ¬probe.streamUriAvailable ∨ uri = "" then none else some uri

/-- The probes by their tokens. -/
def OnvifInspection.probes (inspection : OnvifInspection) : OrderedDict String OnvifProfileProbe :=
  .ofPairs (inspection.profiles.map fun probe => (probe.token, probe))

/-! ## The rows -/

structure DeviceRow where
  id : Uuid
  adapterType : String
  manufacturer : Option String := none
  model : Option String := none
  serialNumber : Option String := none
  hardwareId : Option String := none
  capabilities : OrderedDict String Value := .empty
  capabilitiesUpdatedAt : Option Timestamp := none

structure StreamProfileRow where
  id : UUID
  cameraId : Uuid
  adapterProfileKey : String
  fields : ProfileFields
  streamUriRef : Option UUID
  status : String
  discoveredAt : Timestamp
  lastVerifiedAt : Option Timestamp
  metadata : OrderedDict String Value

structure StreamBindingRow where
  id : Uuid
  cameraId : Uuid
  streamProfileId : UUID

instance : Keyed DeviceRow Uuid := ⟨DeviceRow.id⟩
instance : Keyed StreamProfileRow UUID := ⟨StreamProfileRow.id⟩
instance : Keyed StreamBindingRow Uuid := ⟨StreamBindingRow.id⟩

structure Topology where
  devices : Table DeviceRow
  cameras : Table Camera
  profiles : Table StreamProfileRow
  bindings : Table StreamBindingRow
  secrets : Table SecretRecord

/-- `_cameras`. -/
def cameras (topology : Topology) (deviceId : Uuid) : List Camera :=
  (topology.cameras.select fun camera => camera.deviceId = some deviceId).insertionSort fun a b =>
    a.channelKey < b.channelKey ∨ (a.channelKey = b.channelKey ∧ a.id ≤ b.id)

/-- Every camera with each of its `stream_profiles`. -/
def storedProfiles (profiles : Table StreamProfileRow) (cameras : List Camera) : List (Camera × StreamProfileRow) :=
  cameras.flatMap fun camera => (profiles.select fun profile => profile.cameraId = camera.id).map fun profile => (camera, profile)

def existing (profiles : Table StreamProfileRow) (cameras : List Camera) : OrderedDict String (Camera × StreamProfileRow) :=
  .ofPairs ((storedProfiles profiles cameras).map fun held => (held.2.adapterProfileKey, held))

def byChannel (cameras : List Camera) : OrderedDict String Camera :=
  .ofPairs (cameras.map fun camera => (camera.channelKey, camera))

/-! ## Stored sources -/

def uriKind : String := "rtsp_uri"
def ownerType : String := "camera_stream_profile"

def hasDrift (profile : StreamProfileRow) : Bool :=
  match profile.metadata.get? "capability_drift" with
  | some (.obj _) => true
  | _ => false

def driftMetadata (profile : StreamProfileRow) (reason detectedAt : String) : OrderedDict String Value :=
  profile.metadata.set "capability_drift"
    (.obj [("state", .str "missing"), ("reason", .str reason), ("detected_at", .str detectedAt)])

def clearDriftMetadata (profile : StreamProfileRow) : OrderedDict String Value := profile.metadata.pop "capability_drift"

section
variable {cipher : Fernet} (store : SecretStore cipher)

def streamUri (secrets : Table SecretRecord) (profile : StreamProfileRow) : Option String :=
  match profile.streamUriRef with
  | none => none
  | some secretRef =>
    match store.readJson secrets secretRef uriKind ownerType profile.id with
    | .error _ => none
    | .ok value =>
      match Value.field? value "uri" with
      | some (.str uri) => if uri = "" then none else some uri
      | _ => none

/-- The ids and the randomness that a call of `apply` takes for the profile with a token. -/
structure Draws (cipher : Fernet) where
  profileId : String → UUID
  secretRef : String → UUID
  draw : String → cipher.Draw

/-- `create_json`; the id of the record is new. -/
def createUri (draws : Draws cipher) (secrets : Table SecretRecord) (profile : StreamProfileRow) (uri : String) :
    Result (Table SecretRecord) :=
  let token := profile.adapterProfileKey
  match secrets.insert? (store.jsonRecord (draws.draw token) (draws.secretRef token) uriKind ownerType profile.id
    (.obj [("uri", .str uri)])) with
  | none => .error .integrityError
  | some secrets => .ok secrets

/-- `_replace_stream_uri`.  A reference that is stale is passed over; a record that a profile still
    refers to cannot be deleted. -/
def replaceStreamUri (draws : Draws cipher) (profiles : Table StreamProfileRow) (secrets : Table SecretRecord)
    (profile : StreamProfileRow) (uri : String) : Result (Table StreamProfileRow × Table SecretRecord) := do
  let secrets ← createUri store draws secrets profile uri
  let profiles := profiles.put { profile with streamUriRef := some (draws.secretRef profile.adapterProfileKey) }
  match profile.streamUriRef with
  | none => .ok (profiles, secrets)
  | some old =>
    match SecretStore.delete secrets old uriKind ownerType profile.id with
    | .error (.keyError _) => .ok (profiles, secrets)
    | .error e => .error e
    | .ok left =>
      if profiles.rows.any fun row => row.streamUriRef = some old then .error .integrityError else .ok (profiles, left)

/-! ## What has to be verified -/

/-- Whether the loop of `verification_profiles` takes up a probe. -/
def needsVerification (secrets : Table SecretRecord) (byChannel : OrderedDict String Camera)
    (existing : OrderedDict String (Camera × StreamProfileRow)) (probe : OnvifProfileProbe) : Bool :=
  match existing.get? probe.token, probe.source with
  | none, some _ => (byChannel.get? probe.channelKey).isSome
  | none, none => false
  | some (camera, profile), some uri =>
    probe.channelKey = camera.channelKey && (hasDrift profile || streamUri store secrets profile ≠ some uri)
  | some _, none => false

def verificationProfiles (topology : Topology) (deviceId : Uuid) (inspection : OnvifInspection) : List OnvifProfileProbe :=
  let cameras := cameras topology deviceId
  let byChannel := byChannel cameras
  let existing := existing topology.profiles cameras
  let verify := inspection.profiles.foldl
    (fun verify probe =>
      if needsVerification store topology.secrets byChannel existing probe then verify.set probe.token probe else verify)
    OrderedDict.empty
  (verify.entries.insertionSort fun a b => a.1 ≤ b.1).map Prod.snd

end

/-! ## The capabilities of the device -/

/-- `sorted(set(items))`. -/
def sortedSet (items : List String) : List String := items.dedup.insertionSort (· ≤ ·)

/-- The texts of `onvif_services`; a text is iterated by its characters, an object by its keys. -/
def onvifServices (device : DeviceRow) : Result (List String) :=
  match device.capabilities.get? "onvif_services" with
  | none => .ok []
  | some (.arr items) => .ok (items.filterMap fun item => match item with | .str text => some text | _ => none)
  | some (.str text) => .ok (text.toList.map String.singleton)
  | some (.obj fields) => .ok (fields.map Prod.fst)
  | some _ => .error (.typeError "object is not iterable")

def optionalBool : Option Bool → Value
  | none => .null
  | some value => .bool value

def buildOnvifCapabilitySnapshot (inspection : OnvifInspection) : OrderedDict String Value :=
  let services := sortedSet inspection.capabilities
  let probe := inspection.capabilityProbe
  let supportsAudio := probe.supportsAudio.getD (inspection.profiles.any fun profile => profile.fields.hasAudio)
  .ofPairs
    [("schema_version", .int 1),
     ("adapter", .str "onvif"),
     ("onvif_services", .arr (services.map .str)),
     ("supports_events", .bool (services.contains "Events")),
     ("event_types", .null),
     ("supports_ptz", .bool (services.contains "PTZ")),
     ("ptz_features", .null),
     ("supports_snapshot", optionalBool probe.supportsSnapshot),
     ("supports_audio", .bool supportsAudio),
     ("supports_two_way_audio", .null),
     ("supports_time_read", optionalBool probe.supportsTimeRead),
     ("supports_time_write", optionalBool probe.supportsTimeWrite),
     ("supports_ntp_config", optionalBool probe.supportsNtpConfig),
     ("supports_profile_management", .null),
     ("supports_reboot", .null),
     ("vendor_capabilities", .obj []),
     ("adapter_version", .null)]

def identityChanged (device : DeviceRow) (inspection : OnvifInspection) : Bool :=
  match device.hardwareId, inspection.device.hardwareId with
  | some stored, some reported => stored ≠ "" && reported ≠ "" && stored ≠ reported
  | _, _ => false

/-- The device after a refresh; an empty hardware id says nothing. -/
def refreshedDevice (device : DeviceRow) (inspection : OnvifInspection) (now : Timestamp) : DeviceRow :=
  { device with
    manufacturer := inspection.device.manufacturer
    model := inspection.device.model
    serialNumber := inspection.device.serialNumber
    hardwareId :=
      match inspection.device.hardwareId with
      | none => device.hardwareId
      | some reported => if reported = "" then device.hardwareId else some reported
    capabilities := buildOnvifCapabilitySnapshot inspection
    capabilitiesUpdatedAt := some now }

/-! ## Applying an inspection -/

structure OnvifCapabilityDiff where
  profilesAdded : List String
  profilesMissing : List String
  profilesChanged : List String
  profilesRecovered : List String
  profilesUnmappedAdded : List String
  capabilitiesAdded : List String
  capabilitiesRemoved : List String

structure RefreshOutcome where
  cameras : List Camera
  diff : OnvifCapabilityDiff
  restartProfilesByCamera : OrderedDict Uuid (Finset UUID)

/-- What the two loops of `apply` have done. -/
structure Refreshing where
  profiles : Table StreamProfileRow
  secrets : Table SecretRecord
  missing : List String := []
  changed : List String := []
  recovered : List String := []
  added : List String := []
  unmappedAdded : List String := []
  restarts : OrderedDict Uuid (Finset UUID) := .empty

def verificationRequired (message : String) : PyError := apiError 409 "onvif_profile_verification_required" message

/-- The probe that a stored profile is refreshed from and its URI, or why it has no source. -/
def currentSource (camera : Camera) : Option OnvifProfileProbe → Except String (OnvifProfileProbe × String)
  | none => .error "profile_missing"
  | some probe =>
    if probe.channelKey ≠ camera.channelKey then .error "channel_changed"
    else
      match probe.source with
      | none => .error "stream_uri_unavailable"
      | some uri => .ok (probe, uri)

section
variable {cipher : Fernet} (store : SecretStore cipher) (draws : Draws cipher) (now : Timestamp) (verified : List String)

/-- `restart_profiles_by_camera.setdefault(camera_id, set()).add(profile_id)`. -/
def addRestart (restarts : OrderedDict Uuid (Finset UUID)) (profile : StreamProfileRow) : OrderedDict Uuid (Finset UUID) :=
  restarts.set profile.cameraId (insert profile.id ((restarts.get? profile.cameraId).getD ∅))

/-- A profile with what its probe says. -/
def refreshedProfile (token : String) (profile : StreamProfileRow) (probe : OnvifProfileProbe) : StreamProfileRow :=
  { profile with
    fields := probe.fields
    metadata := clearDriftMetadata profile
    status := if token ∈ verified then "available" else profile.status
    lastVerifiedAt := if token ∈ verified then some now else profile.lastVerifiedAt }

/-- The pass of the first loop for a stored profile; its camera is the one it was found under. -/
def refreshProfile (boundIds : List UUID) (probes : OrderedDict String OnvifProfileProbe) (state : Refreshing) :
    String × Camera × StreamProfileRow → Result Refreshing
  | (token, camera, profile) =>
    match currentSource camera (probes.get? token) with
    | .error reason =>
      let detectedAt := String.ofList (IsoFormat.isoformat (ofWall now.instant))
      .ok
        { state with
          missing := state.missing ++ [token]
          profiles := state.profiles.put
            { profile with status := "unavailable", metadata := driftMetadata profile reason detectedAt } }
    | .ok (probe, uri) =>
      let hadDrift := hasDrift profile
      let metadataChanged := decide (profile.fields ≠ probe.fields)
      let uriChanged := decide (streamUri store state.secrets profile ≠ some uri)
      if (hadDrift || uriChanged) ∧ token ∉ verified then
        .error (verificationRequired "A changed ONVIF profile source was not verified before capability refresh.")
      else
        let refreshed := refreshedProfile now verified token profile probe
        let noted :=
          { state with
            changed := if metadataChanged || uriChanged then state.changed ++ [token] else state.changed
            recovered := if hadDrift then state.recovered ++ [token] else state.recovered }
        if ¬uriChanged then .ok { noted with profiles := state.profiles.put refreshed }
        else do
          let (profiles, secrets) ← replaceStreamUri store draws state.profiles state.secrets refreshed uri
          .ok
            { noted with
              profiles, secrets
              restarts := if profile.id ∈ boundIds then addRestart state.restarts profile else state.restarts }

/-- The camera that a new profile is created under and its URI. -/
def newSource (byChannel : OrderedDict String Camera) (probe : OnvifProfileProbe) : Option (Camera × String) :=
  match byChannel.get? probe.channelKey, probe.source with
  | some camera, some uri => some (camera, uri)
  | _, _ => none

/-- A profile under its camera; its reference is set once the record is there. -/
def newProfile (camera : Camera) (probe : OnvifProfileProbe) : StreamProfileRow :=
  { id := draws.profileId probe.token
    cameraId := camera.id
    adapterProfileKey := probe.token
    fields := probe.fields
    streamUriRef := some (draws.secretRef probe.token)
    status := "available"
    discoveredAt := now
    lastVerifiedAt := some now
    metadata := .empty }

/-- The pass of the second loop for a probe. -/
def addProfile (existing : OrderedDict String (Camera × StreamProfileRow)) (byChannel : OrderedDict String Camera)
    (state : Refreshing) : String × OnvifProfileProbe → Result Refreshing
  | (token, probe) =>
    if (existing.get? token).isSome then .ok state
    else
      let noted := { state with added := state.added ++ [token] }
      match newSource byChannel probe with
      | none => .ok { noted with unmappedAdded := state.unmappedAdded ++ [token] }
      | some (camera, uri) =>
        if token ∉ verified then
          .error (verificationRequired "A new ONVIF profile source was not verified before capability refresh.")
        else
          let profile := newProfile draws now camera probe
          match state.profiles.insert? profile with
          | none => .error .integrityError
          | some profiles => do
            let secrets ← createUri store draws state.secrets profile uri
            .ok { noted with profiles, secrets }

/-- `config_revision += 1` for every camera with a restart. -/
def bumpRevisions (cameras : Table Camera) (cameraIds : List Uuid) : Table Camera :=
  cameraIds.foldl
    (fun cameras id => cameras.modify id fun camera => { camera with configRevision := camera.configRevision + 1 }) cameras

/-- Both loops; `sorted(items, key=token)`. -/
def refreshProfiles (topology : Topology) (deviceId : Uuid) (inspection : OnvifInspection) : Result Refreshing := do
  let cameras := cameras topology deviceId
  let existing := existing topology.profiles cameras
  let boundIds := cameras.flatMap fun camera =>
    (topology.bindings.select fun binding => binding.cameraId = camera.id).map StreamBindingRow.streamProfileId
  let refreshed ← (existing.entries.insertionSort fun a b => a.1 ≤ b.1).foldlM
    (refreshProfile store draws now verified boundIds inspection.probes)
    { profiles := topology.profiles, secrets := topology.secrets }
  (inspection.probes.entries.insertionSort fun a b => a.1 ≤ b.1).foldlM
    (addProfile store draws now verified existing (byChannel cameras)) refreshed

def apply (topology : Topology) (deviceId : Uuid) (inspection : OnvifInspection) : Result (Topology × RefreshOutcome) :=
  match topology.devices.get? deviceId with
  | none => .error (apiError 409 "camera_onvif_unavailable" "ONVIF device is unavailable.")
  | some device =>
    if device.adapterType ≠ "onvif" then .error (apiError 409 "camera_onvif_unavailable" "ONVIF device is unavailable.")
    else if identityChanged device inspection then
      .error (apiError 409 "onvif_device_identity_changed"
        "The ONVIF endpoint now reports a different hardware identity; capability refresh was not applied.")
    else if (cameras topology deviceId).isEmpty then
      .error (apiError 409 "onvif_device_topology_invalid" "Imported ONVIF device has no Camera channels.")
    else do
      let previousServices ← onvifServices device
      let refreshed ← refreshProfiles store draws now verified topology deviceId inspection
      let after : Topology :=
        { topology with
          devices := topology.devices.put (refreshedDevice device inspection now)
          cameras := bumpRevisions topology.cameras (refreshed.restarts.entries.map Prod.fst)
          profiles := refreshed.profiles
          secrets := refreshed.secrets }
      .ok (after,
        { cameras := cameras after deviceId
          restartProfilesByCamera := refreshed.restarts
          diff :=
            { profilesAdded := refreshed.added
              profilesMissing := refreshed.missing
              profilesChanged := refreshed.changed
              profilesRecovered := refreshed.recovered
              profilesUnmappedAdded := refreshed.unmappedAdded
              capabilitiesAdded := sortedSet (inspection.capabilities.filter (· ∉ previousServices))
              capabilitiesRemoved := sortedSet (previousServices.filter (· ∉ inspection.capabilities)) } })

end

end ZeroNvr.OnvifCapabilityRefreshService
