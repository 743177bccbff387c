import ZeroNvr.Core.JsonText
import ZeroNvr.Core.UuidText
import ZeroNvr.Cameras.LivePreview
import ZeroNvr.Lib.Outcome

/-! # The preview wall protocol

A browser tells over a web socket which cameras the slots of its wall show
(`parse_preview_wall_sync`), and gets their frames (`encode_preview_wall_frame`).
-/

namespace ZeroNvr

open JsonText (Value loads)
open Lib

structure PreviewWallProtocolError where
  code : String
  message : String
  deriving DecidableEq

structure PreviewWallProfile where
  width : Nat
  fps : Nat
  deriving DecidableEq

/-- `Literal[4, 9, 16]`. -/
inductive PreviewGridSlots where
  | four
  | nine
  | sixteen
  deriving DecidableEq

namespace PreviewGridSlots

def count : PreviewGridSlots → Nat
  | four => 4
  | nine => 9
  | sixteen => 16

/-- `_PROFILES`. -/
def profile : PreviewGridSlots → PreviewWallProfile
  | four => { width := 640, fps := 5 }
  | nine => { width := 480, fps := 3 }
  | sixteen => { width := 320, fps := 2 }

theorem count_le (layout : PreviewGridSlots) : layout.count ≤ 16 := by
  cases layout <;> decide

end PreviewGridSlots

/-- One stream of a sync, within the bounds that the parser checks. -/
structure PreviewWallSubscription where
  slot : Nat
  subscriptionId : Nat
  cameraId : UUID
  mediaSessionId : UUID
  slotBound : slot < 16
  idBound : subscriptionId ≤ 0xFFFFFFFF
  deriving DecidableEq

/-- No two streams share a slot, and every slot is one of the layout. -/
structure PreviewWallSync where
  layoutSlots : PreviewGridSlots
  streams : List PreviewWallSubscription
  slotsNodup : (streams.map PreviewWallSubscription.slot).Nodup
  slotsInRange : ∀ stream ∈ streams, stream.slot < layoutSlots.count

namespace PreviewWall

def protocolVersion : Nat := 1
def maxSyncBytes : Nat := 64 * 1024
def maxStreams : Nat := 16

def protocolError (message : String) : PreviewWallProtocolError := { code := "invalid_sync", message }

/-- `preview_wall_profile`: the layout of a number; what is looked up is its `profile`. -/
def previewWallProfile (layoutSlots : Int) : Except PreviewWallProtocolError PreviewGridSlots :=
  if layoutSlots = 4 then .ok .four
  else if layoutSlots = 9 then .ok .nine
  else if layoutSlots = 16 then .ok .sixteen
  else .error (protocolError "Unsupported preview wall layout.")

def requiredInt (value : Option Value) (name : String) : Except PreviewWallProtocolError Int :=
  match value with
  | some (.int value) => .ok value
  | _ => .error (protocolError s!"{name} must be an integer.")

def requiredUuid (value : Option Value) (name : String) : Except PreviewWallProtocolError UUID :=
  match value with
  | some (.str text) =>
    match UUID.parse text.toList with
    | some id => .ok id
    | none => .error (protocolError s!"{name} must be a UUID.")
  | _ => .error (protocolError s!"{name} must be a UUID.")

/-! ## Reading a sync -/

theorem slotBound_of_inRange {layout : PreviewGridSlots} {seen : List Nat} {slot : Int}
    (inRange : ¬(slot < 0 ∨ layout.count ≤ slot ∨ slot.toNat ∈ seen)) : slot.toNat < 16 := by
  have bound := layout.count_le
  omega

theorem idBound_of_uint32 {id : Int} (isUint32 : ¬(id < 0 ∨ 0xFFFFFFFF < id)) : id.toNat ≤ 0xFFFFFFFF := by
  omega

/-- One turn of the loop over the streams; `seen` are the slots before it. -/
def parseStream (layout : PreviewGridSlots) (seen : List Nat) :
    Value → Except PreviewWallProtocolError PreviewWallSubscription
  | .obj fields => do
    let slot ← requiredInt (Value.field? fields "slot") "slot"
    if outside : slot < 0 ∨ layout.count ≤ slot ∨ slot.toNat ∈ seen then
      .error (protocolError "Stream slots must be unique and in range.")
    else
      let subscriptionId ← requiredInt (Value.field? fields "subscription_id") "subscription_id"
      if outside32 : subscriptionId < 0 ∨ 0xFFFFFFFF < subscriptionId then
        .error (protocolError "subscription_id must be uint32.")
      else
        let cameraId ← requiredUuid (Value.field? fields "camera_id") "camera_id"
        let mediaSessionId ← requiredUuid (Value.field? fields "media_session_id") "media_session_id"
        .ok { slot := slot.toNat, subscriptionId := subscriptionId.toNat, cameraId, mediaSessionId,
              slotBound := slotBound_of_inRange outside, idBound := idBound_of_uint32 outside32 }
  | _ => .error (protocolError "Each stream must be an object.")

def parseStreams (layout : PreviewGridSlots) :
    (seen : List Nat) → List Value → Except PreviewWallProtocolError (List PreviewWallSubscription)
  | _, [] => .ok []
  | seen, raw :: rest => do
    let stream ← parseStream layout seen raw
    let later ← parseStreams layout (stream.slot :: seen) rest
    .ok (stream :: later)

theorem parseStream_slot {layout : PreviewGridSlots} {seen : List Nat} {raw : Value} {stream : PreviewWallSubscription}
    (parsed : parseStream layout seen raw = .ok stream) : stream.slot < layout.count ∧ stream.slot ∉ seen := by
  cases raw with
  | obj fields =>
    rw [parseStream] at parsed
    obtain ⟨slot, -, parsed⟩ := bind_eq_ok.mp parsed
    split at parsed
    · cases parsed
    · next inRange =>
      obtain ⟨id, -, parsed⟩ := bind_eq_ok.mp parsed
      split at parsed
      · cases parsed
      · obtain ⟨camera, -, parsed⟩ := bind_eq_ok.mp parsed
        obtain ⟨media, -, parsed⟩ := bind_eq_ok.mp parsed
        cases parsed
        push Not at inRange
        obtain ⟨nonnegative, below, isNew⟩ := inRange
        exact ⟨by dsimp only; omega, isNew⟩
  | _ => cases parsed

/-- The streams that were read have slots of their own, none of them seen before. -/
theorem parseStreams_slots {layout : PreviewGridSlots} {raws : List Value} :
    ∀ {seen : List Nat} {streams : List PreviewWallSubscription}, parseStreams layout seen raws = .ok streams →
      (streams.map PreviewWallSubscription.slot).Nodup ∧
        ∀ stream ∈ streams, stream.slot < layout.count ∧ stream.slot ∉ seen := by
  induction raws with
  | nil =>
    intro seen streams parsed
    cases parsed
    exact ⟨List.nodup_nil, fun stream member => absurd member List.not_mem_nil⟩
  | cons raw rest ih =>
    intro seen streams parsed
    rw [parseStreams] at parsed
    obtain ⟨stream, first, parsed⟩ := bind_eq_ok.mp parsed
    obtain ⟨later, rest, parsed⟩ := bind_eq_ok.mp parsed
    cases parsed
    obtain ⟨nodup, inRange⟩ := ih rest
    refine ⟨List.nodup_cons.mpr ⟨fun member => ?_, nodup⟩, fun other member => ?_⟩
    · obtain ⟨other, isOther, sameSlot⟩ := List.mem_map.mp member
      exact (inRange other isOther).2 (sameSlot ▸ List.mem_cons_self)
    · rcases List.mem_cons.mp member with rfl | isLater
      · exact parseStream_slot first
      · exact ⟨(inRange other isLater).1, fun inSeen => (inRange other isLater).2 (List.mem_cons_of_mem _ inSeen)⟩

theorem parseStreams_nodup {layout : PreviewGridSlots} {raws : List Value} {streams : List PreviewWallSubscription}
    (parsed : parseStreams layout [] raws = .ok streams) : (streams.map PreviewWallSubscription.slot).Nodup :=
  (parseStreams_slots parsed).1

theorem parseStreams_inRange {layout : PreviewGridSlots} {raws : List Value} {streams : List PreviewWallSubscription}
    (parsed : parseStreams layout [] raws = .ok streams) : ∀ stream ∈ streams, stream.slot < layout.count :=
  fun stream member => ((parseStreams_slots parsed).2 stream member).1

def parsePayload : Value → Except PreviewWallProtocolError PreviewWallSync
  | .obj fields =>
    if ¬isSync (Value.field? fields "type") then .error (protocolError "Unsupported preview wall message type.")
    else do
      let version ← requiredInt (Value.field? fields "version") "version"
      if version ≠ 1 then .error (protocolError "Unsupported preview wall protocol version.")
      else
        let layoutSlots ← requiredInt (Value.field? fields "layout_slots") "layout_slots"
        let layout ← previewWallProfile layoutSlots
        match Value.field? fields "streams" with
        | some (.arr rawStreams) =>
          if maxStreams < rawStreams.length then .error (protocolError "Too many preview wall streams.")
          else
            match parsed : parseStreams layout [] rawStreams with
            | .error e => .error e
            | .ok streams =>
              .ok { layoutSlots := layout, streams, slotsNodup := parseStreams_nodup parsed,
                    slotsInRange := parseStreams_inRange parsed }
        | _ => .error (protocolError "streams must be an array.")
  | _ => .error (protocolError "Preview wall sync must be an object.")
where
  isSync : Option Value → Bool
    | some (.str text) => text == "sync"
    | _ => false

def parsePreviewWallSync (raw : List Char) : Except PreviewWallProtocolError PreviewWallSync :=
  if maxSyncBytes < (utf8 raw).length then .error (protocolError "Preview wall sync is too large.")
  else
    match loads raw with
    | none => .error (protocolError "Preview wall sync is not valid JSON.")
    | some payload => parsePayload payload

/-! ## Writing a frame -/

/-- `to_bytes(4, "big")`. -/
def uint32Bytes (n : Nat) : Bytes :=
  [UInt8.ofNat (n / 0x1000000), UInt8.ofNat (n / 0x10000), UInt8.ofNat (n / 0x100), UInt8.ofNat n]

def invalidFrame : LivePreviewError :=
  { code := "live_preview_invalid_frame", message := "Fast live preview produced an invalid JPEG frame." }

def encodePreviewWallFrame (subscription : PreviewWallSubscription) (jpeg : Bytes) : Except LivePreviewError Bytes :=
  if maxPreviewFrameBytes < jpeg.length ∨ ¬JpegFrameParser.startMarker.isPrefixOf jpeg ∨
      ¬JpegFrameParser.endMarker.isSuffixOf jpeg then .error invalidFrame
  else
    .ok ([UInt8.ofNat protocolVersion, UInt8.ofNat subscription.slot] ++ uint32Bytes subscription.subscriptionId ++ jpeg)

end PreviewWall

end ZeroNvr
