import ZeroNvr.Verified.PreviewWallFrames
import ZeroNvr.Verified.PreviewWallClients
import ZeroNvr.Cameras.PreviewWallSocket

/-! # A browser and its preview walls

The client, the sessions of its sockets and what travels between them.  A sync is
understood as it was meant, frames are decoded as they were encoded, and whatever the
order of events a frame is shown for the subscription whose camera it came from.
-/

namespace ZeroNvr.PreviewWall

open Lib PreviewWallSession WallClient

/-! ## Syncs -/

/-- A step of the client, whatever it does outside. -/
def ClientMove (client : WallClient) (action : ClientAction) (after : WallClient) : Prop :=
  ∃ effects, ClientStep client action (after, effects)

theorem sound_of_moves {seed : UInt32} {client : WallClient} {actions : List ClientAction}
    (run : Run ClientMove (.new seed) actions client) : client.Sound seed :=
  @Run.invariant _ _ _ (WallClient.Sound seed) (fun _ _ _ sound move => by
    obtain ⟨effects, step⟩ := move
    exact (sound.step step).1) _ _ _ run (WallClient.sound_new seed)

/-- What a tile of the third slot asks for. -/
def wallInput : PreviewWallSubscriptionInput :=
  { slot := 2, cameraId := String.ofList wallUuid.str, mediaSessionId := String.ofList wallUuid.str, isSafe := by decide }

def wallActive : ActiveSubscription := { input := wallInput, subscriptionId := 40, firstFrameSettled := false, closed := false }

theorem wallClient : ∃ client, Run ClientMove (.new 40) [.setLayout (some .four), .subscribe wallInput, .onopen 0] client ∧
    client.layout = some .four ∧ client.streams = [wallActive] ∧ client.sendSync = [.sent 0 (syncText .four [wallActive])] ∧
    client.subscriptions.get? 2 = some 0 ∧ client.active[0]? = some wallActive :=
  ⟨_, .next ⟨_, .setLayout _ (some .four)⟩ (.next ⟨_, .subscribe _ wallInput⟩ (.next ⟨_, .onopen _ 0⟩ (.done _))), rfl, rfl, rfl, rfl, rfl⟩

theorem uint32Bytes_of_bytes (b0 b1 b2 b3 : UInt8) :
    uint32Bytes (((b0.toNat * 256 + b1.toNat) * 256 + b2.toNat) * 256 + b3.toNat) = [b0, b1, b2, b3] := by
  have h0 := b0.toNat_lt
  have h1 := b1.toNat_lt
  have h2 := b2.toNat_lt
  have h3 := b3.toNat_lt
  have byte (n : Nat) (b : UInt8) (same : n % 256 = b.toNat) : UInt8.ofNat n = b := by
    rw [← UInt8.toNat_inj, UInt8.toNat_ofNat']
    exact same
  rw [uint32Bytes, byte _ b0 (by omega), byte _ b1 (by omega), byte _ b2 (by omega), byte _ b3 (by omega)]

theorem uint32Bytes_toNat {n : Nat} (small : n < 2 ^ 32) :
    (((UInt8.ofNat (n / 0x1000000)).toNat * 256 + (UInt8.ofNat (n / 0x10000)).toNat) * 256 +
      (UInt8.ofNat (n / 0x100)).toNat) * 256 + (UInt8.ofNat n).toNat = n := by
  simp only [UInt8.toNat_ofNat']
  omega

/-- The markers are looked up from both ends. -/
theorem isJpeg_iff {jpeg : Bytes} (long : 4 ≤ jpeg.length) : isJpeg jpeg = true ↔
    JpegFrameParser.startMarker.isPrefixOf jpeg = true ∧ JpegFrameParser.endMarker.isSuffixOf jpeg = true := by
  have starts : JpegFrameParser.startMarker.isPrefixOf jpeg = (jpeg.getD 0 0 == 0xff && jpeg.getD 1 0 == 0xd8) := by
    obtain ⟨first, rest, rfl⟩ := List.exists_cons_of_length_pos (show 0 < jpeg.length by omega)
    obtain ⟨second, rest, rfl⟩ := List.exists_cons_of_length_pos (show 0 < rest.length by rw [List.length_cons] at long; omega)
    simp [JpegFrameParser.startMarker, List.isPrefixOf, Bool.beq_comm]
  have ends : JpegFrameParser.endMarker.isSuffixOf jpeg =
      (jpeg.getD (jpeg.length - 1) 0 == 0xd9 && jpeg.getD (jpeg.length - 2) 0 == 0xff) := by
    obtain ⟨last, front, reversed⟩ := List.exists_cons_of_length_pos (show 0 < jpeg.reverse.length by rw [List.length_reverse]; omega)
    have length := congrArg List.length reversed
    rw [List.length_reverse, List.length_cons] at length
    obtain ⟨previous, front, rfl⟩ := List.exists_cons_of_length_pos (show 0 < front.length by omega)
    have isJpeg : jpeg = front.reverse ++ [previous, last] := by
      rw [← List.reverse_reverse jpeg, reversed]
      simp
    simp [isJpeg, JpegFrameParser.endMarker, List.isSuffixOf, List.isPrefixOf, Bool.beq_comm]
  rw [isJpeg, starts, ends]
  simp only [Bool.and_eq_true]
  tauto

/-- The bytes of a frame before the picture. -/
theorem data_eq {data : Bytes} (long : 10 ≤ data.length) (version : data.getD 0 0 = 1) :
    data = [1, data.getD 1 0] ++ uint32Bytes (uint32At data 2) ++ data.drop 6 := by
  obtain ⟨d0, data, rfl⟩ := List.exists_cons_of_length_pos (show 0 < data.length by omega)
  obtain ⟨d1, data, rfl⟩ := List.exists_cons_of_length_pos (show 0 < data.length by rw [List.length_cons] at long; omega)
  obtain ⟨b0, data, rfl⟩ := List.exists_cons_of_length_pos (show 0 < data.length by simp only [List.length_cons] at long; omega)
  obtain ⟨b1, data, rfl⟩ := List.exists_cons_of_length_pos (show 0 < data.length by simp only [List.length_cons] at long; omega)
  obtain ⟨b2, data, rfl⟩ := List.exists_cons_of_length_pos (show 0 < data.length by simp only [List.length_cons] at long; omega)
  obtain ⟨b3, data, rfl⟩ := List.exists_cons_of_length_pos (show 0 < data.length by simp only [List.length_cons] at long; omega)
  have number : uint32At (d0 :: d1 :: b0 :: b1 :: b2 :: b3 :: data) 2 =
      ((b0.toNat * 256 + b1.toNat) * 256 + b2.toNat) * 256 + b3.toNat := rfl
  rw [number, uint32Bytes_of_bytes]
  simp only [List.getD_cons_zero] at version
  rw [version]
  rfl

theorem uint32At_frame (slot : UInt8) {id : Nat} (small : id < 2 ^ 32) (jpeg : Bytes) :
    uint32At ([1, slot] ++ uint32Bytes id ++ jpeg) 2 = id := uint32Bytes_toNat small

theorem encode_eq_ok {subscription : PreviewWallSubscription} {jpeg data : Bytes} :
    encodePreviewWallFrame subscription jpeg = .ok data ↔ jpeg.length ≤ maxPreviewFrameBytes ∧
      JpegFrameParser.startMarker.isPrefixOf jpeg = true ∧ JpegFrameParser.endMarker.isSuffixOf jpeg = true ∧
      data = [1, UInt8.ofNat subscription.slot] ++ uint32Bytes subscription.subscriptionId ++ jpeg := by
  rw [encodePreviewWallFrame]
  split
  · next invalid =>
    refine iff_of_false (fun failed => by cases failed) fun valid => ?_
    · rcases invalid with large | noStart | noEnd
      · exact absurd large (not_lt.mpr valid.1)
      · exact noStart valid.2.1
      · exact noEnd valid.2.2.1
  · next valid =>
    push Not at valid
    obtain ⟨fits, starts, ends⟩ := valid
    rw [and_iff_right fits, and_iff_right starts, and_iff_right ends, Except.ok.injEq]
    exact eq_comm

/-- A picture between its markers has four bytes at least. -/
theorem four_le_length {jpeg : Bytes} (starts : JpegFrameParser.startMarker.isPrefixOf jpeg = true)
    (ends : JpegFrameParser.endMarker.isSuffixOf jpeg = true) : 4 ≤ jpeg.length := by
  obtain ⟨rest, rfl⟩ := List.isPrefixOf_iff_prefix.mp starts
  obtain ⟨front, same⟩ := List.isSuffixOf_iff_suffix.mp ends
  have length := congrArg List.length same
  rcases front with _ | ⟨first, _ | ⟨second, front⟩⟩
  · simp [JpegFrameParser.startMarker, JpegFrameParser.endMarker] at same
  · simp [JpegFrameParser.startMarker, JpegFrameParser.endMarker] at same
  · rw [← length]
    simp [JpegFrameParser.endMarker]

/-- What a slot and a number in a message stand for. -/
theorem addressed?_eq_some {client : WallClient} {slot subscriptionId : Nat} {entry : Nat} {active : ActiveSubscription} :
    client.addressed? slot subscriptionId = some (entry, active) ↔
      client.subscriptions.get? slot = some entry ∧ client.active[entry]? = some active ∧ active.closed = false ∧
        active.subscriptionId = subscriptionId := by
  rw [addressed?, if_neg (by omega), Int.toNat_natCast, Option.filter_eq_some_iff, subscription?_eq_some]
  simp only [Bool.and_eq_true, Bool.not_eq_true', decide_eq_true_eq, Int.natCast_inj, and_assoc]

/-- The frames that a client shows are those encoded for the subscription of a slot of the wall. -/
theorem frame_shown_iff {seed : UInt32} {client : WallClient} {actions : List ClientAction}
    (run : Run ClientMove (.new seed) actions client) {data : Bytes} {entry : Nat} {jpeg : Bytes} :
    (.onFrame entry jpeg ∈ (client.onBinary data).2 ∧ (data.getD 1 0).toNat < 16) ↔
      ∃ subscription : PreviewWallSubscription, encodePreviewWallFrame subscription jpeg = .ok data ∧
        client.subscriptions.get? subscription.slot = some entry ∧
        ∃ active, client.active[entry]? = some active ∧ active.subscriptionId = subscription.subscriptionId := by
  have sound := sound_of_moves run
  constructor
  · rintro ⟨shown, inWall⟩
    rcases onBinary_cases client data with nothing | ⟨other, active, long, fits, version, found, isPicture, -, later, effects, noOther⟩
    · rw [nothing] at shown
      cases shown
    · rw [effects] at shown
      rcases List.mem_cons.mp shown with same | isLater
      · cases same
        obtain ⟨isEntry, known, -, sameId⟩ := addressed?_eq_some.mp found
        have rest : (data.drop 6).length = data.length - 6 := List.length_drop ..
        obtain ⟨starts, ends⟩ := (isJpeg_iff (by omega)).mp isPicture
        have small : uint32At data 2 < 2 ^ 32 := by
          rw [← sameId, sound.numbered.numbered entry active known]
          exact Nat.mod_lt _ (by decide)
        refine ⟨{ slot := (data.getD 1 0).toNat, subscriptionId := uint32At data 2, cameraId := wallUuid,
                  mediaSessionId := wallUuid, slotBound := inWall, idBound := Nat.le_of_lt_succ small }, ?_, isEntry, active, known, sameId⟩
        refine encode_eq_ok.mpr ⟨?_, starts, ends, ?_⟩
        · rw [maxPreviewFrameBytes]
          omega
        · rw [UInt8.ofNat_toNat]
          exact data_eq long version
      · exact absurd isLater (noOther entry jpeg)
  · rintro ⟨subscription, encoded, isEntry, active, known, sameId⟩
    obtain ⟨fits, starts, ends, rfl⟩ := encode_eq_ok.mp encoded
    have long := four_le_length starts ends
    obtain ⟨other, knownOther, -, isOpen⟩ := sound.placed subscription.slot entry isEntry
    rw [known, Option.some.injEq] at knownOther
    subst knownOther
    have slotByte : (UInt8.ofNat subscription.slot).toNat = subscription.slot := by
      rw [UInt8.toNat_ofNat']
      exact Nat.mod_eq_of_lt (subscription.slotBound.trans (by decide))
    have bound := subscription.idBound
    have found : client.addressed? (UInt8.ofNat subscription.slot).toNat
        (uint32At ([1, UInt8.ofNat subscription.slot] ++ uint32Bytes subscription.subscriptionId ++ jpeg) 2) = some (entry, active) := by
      rw [slotByte, uint32At_frame _ (by omega)]
      exact addressed?_eq_some.mpr ⟨isEntry, known, isOpen, sameId⟩
    have head : ([1, UInt8.ofNat subscription.slot] ++ uint32Bytes subscription.subscriptionId : Bytes).length = 6 := rfl
    have length : ([1, UInt8.ofNat subscription.slot] ++ uint32Bytes subscription.subscriptionId ++ jpeg).length = 6 + jpeg.length := by
      rw [List.length_append, head]
    have picture : ([1, UInt8.ofNat subscription.slot] ++ uint32Bytes subscription.subscriptionId ++ jpeg).drop 6 = jpeg :=
      List.drop_left' head
    have shown := onFrame_of_addressed (by omega) (by rw [length]; exact Nat.add_le_add_left fits 6) rfl found
      (picture ▸ (isJpeg_iff long).mpr ⟨starts, ends⟩)
    rw [picture] at shown
    exact ⟨shown, slotByte.trans_lt subscription.slotBound⟩

theorem frame_shown_once : ∃ client : WallClient, .onFrame 0 wallJpeg ∈ (client.onBinary ([1, 2, 0, 0, 0, 40] ++ wallJpeg)).2 := by
  obtain ⟨client, run, -, -, -, isEntry, known⟩ := wallClient
  exact ⟨client, ((frame_shown_iff run).mpr ⟨wallSubscription, rfl, isEntry, wallActive, known, rfl⟩).1⟩

/-! ## What a session knows -/

/-- Every stream a session has heard of, and every frame it encoded, is of this kind. -/
structure Hears (asked : PreviewWallSubscription → Prop) (wall : WallWorld) : Prop where
  previews : ∀ (id : Nat) (entry : ActivePreview), wall.session.previews[id]? = some entry → asked entry.subscription
  receiver : ∀ sync id rest, wall.receiver = .stopping sync id rest → ∀ stream ∈ sync.streams, asked stream
  produced : ∀ frame ∈ wall.produced, asked frame.1 ∧ ∃ jpeg, encodePreviewWallFrame frame.1 jpeg = .ok frame.2

theorem hears_initial (asked : PreviewWallSubscription → Prop) : Hears asked .initial where
  previews id entry known := by simp [WallWorld.initial, PreviewWallSession.new] at known
  receiver sync id rest stopping := by cases stopping
  produced frame member := by cases member

theorem Hears.mono {asked more : PreviewWallSubscription → Prop} {wall : WallWorld} (hears : Hears asked wall)
    (weaker : ∀ stream, asked stream → more stream) : Hears more wall where
  previews id entry known := weaker _ (hears.previews id entry known)
  receiver sync id rest stopping stream member := weaker _ (hears.receiver sync id rest stopping stream member)
  produced frame member := ⟨weaker _ (hears.produced frame member).1, (hears.produced frame member).2⟩

section Hearing
variable {asked : PreviewWallSubscription → Prop} {wall : WallWorld} {session : PreviewWallSession}

theorem Hears.created (hears : Hears asked wall) {streams : List PreviewWallSubscription}
    (created : Created wall.session session streams) (known : ∀ stream ∈ streams, asked stream) :
    ∀ (id : Nat) (entry : ActivePreview), session.previews[id]? = some entry → asked entry.subscription := by
  intro id entry isEntry
  rcases created id entry isEntry with ⟨earlier, knownEarlier, same⟩ | isStream
  · exact same ▸ hears.previews id earlier knownEarlier
  · exact known _ isStream

/-- A step that changes neither what is shown nor what was produced. -/
theorem Hears.shrinks (hears : Hears asked wall) (shrinks : Shrinks wall.session session) {after : WallWorld}
    (same : after.session = session) (receiver : after.receiver = wall.receiver) (produced : after.produced = wall.produced) :
    Hears asked after where
  previews := same ▸ hears.created (shrinks.created []) fun _ member => absurd member List.not_mem_nil
  receiver := receiver ▸ hears.receiver
  produced := produced ▸ hears.produced

theorem frameRead_created (sound : session.Sound) (id : Nat) (entry : ActivePreview) (jpeg : Bytes) :
    Created session (session.frameRead id entry jpeg) [] := by
  rcases frameRead_cases session id entry jpeg with ⟨encoded, -, -, same⟩ | ⟨-, same | ⟨code, message, same⟩⟩
  · obtain ⟨-, previews, -⟩ := store_fields (session.announce id entry) entry.subscription encoded
    rw [same, Created, previews]
    exact (announce_shrinks session id entry).created []
  · exact same ▸ (finish_shrinks sound id entry true).created []
  · exact same ▸ (sourceFailed_shrinks sound id entry code message).created []

/-- What is produced was encoded for the entry. -/
theorem mem_producedBy {id : Nat} {entry : ActivePreview} {jpeg : Bytes} {frame : PreviewWallSubscription × Bytes}
    (member : frame ∈ producedBy session id entry jpeg) :
    frame.1 = entry.subscription ∧ encodePreviewWallFrame entry.subscription jpeg = .ok frame.2 := by
  rw [producedBy] at member
  split at member
  · next encoded encodes =>
    split at member
    · cases List.mem_singleton.mp member
      exact ⟨rfl, encodes⟩
    · cases member
  · cases member

/-- A step of a session hears of no stream but those of the syncs it is given. -/
theorem Hears.step {after : WallWorld} {action : WallAction} (hears : Hears asked wall) (sound : wall.Sound)
    (step : WallStep wall action after) (syncs : ∀ sync, action = .sync sync → ∀ stream ∈ sync.streams, asked stream) :
    Hears asked after := by
  cases step with
  | sync sync idle isOpen =>
    have continued := WallWorld.applySync_continued sound.session sync
    refine ⟨hears.created continued.created (syncs sync rfl), fun other id rest stopping => ?_, hears.produced⟩
    exact (continued.stopping other id rest stopping).1 ▸ syncs sync rfl
  | @syncResumed sync id rest stopping stopped =>
    have continued := sound.resumed_continued stopping stopped
    have known := hears.receiver sync id rest stopping
    refine ⟨?_, fun other otherId later awaits => ?_, hears.produced⟩
    · exact hears.created (((modify_shrinks wall.session id cleanupStopped_subscription).created sync.streams).trans
        continued.created) known
    · exact (continued.stopping other otherId later awaits).1 ▸ known
  | @started id entry known phase goesOn =>
    exact hears.shrinks (@modify_shrinks wall.session id (fun entry => { entry with phase := .opening }) fun _ => rfl) rfl rfl rfl
  | @opened id entry known phase goesOn =>
    refine hears.shrinks ?_ rfl rfl rfl
    rw [sourceOpened_eq]
    exact modify_shrinks _ id (openedEntry_subscription _)
  | @frame id entry jpeg known phase goesOn =>
    -- the one event that comes is the frame, from the stream of its subscription
    refine ⟨hears.created (frameRead_created sound.session id entry jpeg) fun stream member => absurd member List.not_mem_nil,
      hears.receiver, fun frame member => ?_⟩
    rcases List.mem_append.mp member with earlier | isNew
    · exact hears.produced frame earlier
    · obtain ⟨same, encodes⟩ := mem_producedBy isNew
      rw [same]
      exact ⟨hears.previews id entry known, jpeg, encodes⟩
  | @ended id entry known phase goesOn => exact hears.shrinks (finish_shrinks sound.session id entry true) rfl rfl rfl
  | @failed id entry code message known phase goesOn =>
    exact hears.shrinks (sourceFailed_shrinks sound.session id entry code message) rfl rfl rfl
  | @neverRan id entry known phase requested =>
    exact hears.shrinks (@modify_shrinks wall.session id
      (fun entry => { entry.interrupted with phase := .done }) fun _ => rfl) rfl rfl rfl
  | @cancelled id entry known phase requested =>
    exact hears.shrinks ((@modify_shrinks wall.session id ActivePreview.interrupted fun _ => rfl).trans
      (finish_shrinks (sound.interrupted known requested) id entry false)) rfl rfl rfl
  | @previewClosed id entry known phase goesOn =>
    exact hears.shrinks (@modify_shrinks wall.session id
      (fun entry => { entry with releases := entry.releases + 1, phase := .done }) fun _ => rfl) rfl rfl rfl
  | @closeInterrupted id entry known phase requested =>
    exact hears.shrinks (@modify_shrinks wall.session id
      (fun entry => { entry.interrupted with phase := .done }) fun _ => rfl) rfl rfl rfl
  | @cancelledAgain id awaited isRunning => exact hears.shrinks (cancel_shrinks wall.session id) rfl rfl rfl
  | sent awake taken =>
    refine ⟨?_, hears.receiver, hears.produced⟩
    rcases nextMessage_cases sound.session with
      ⟨key, text, rest, -, -, same⟩ | ⟨slot, slots, pending, -, -, same⟩ | ⟨-, -, nothing, -⟩
    · exact same ▸ hears.previews
    · exact same ▸ hears.previews
    · rw [nothing] at taken
      cases taken
  | waits awake none =>
    refine ⟨?_, hears.receiver, hears.produced⟩
    rcases nextMessage_cases sound.session with
      ⟨key, text, rest, -, -, same⟩ | ⟨slot, slots, pending, -, -, same⟩ | ⟨-, -, -, same⟩
    · exact same ▸ hears.previews
    · exact same ▸ hears.previews
    · exact same ▸ hears.previews
  | @fail id entry subscription code message current known same =>
    exact hears.shrinks ((popEntry_shrinks sound.session subscription.slot).trans (cancel_shrinks _ id)) rfl rfl rfl
  | @failResumed failing member stopped =>
    exact hears.shrinks ((modify_shrinks wall.session failing.id cleanupStopped_subscription).trans (queueEvent_shrinks _ _)) rfl rfl rfl
  | close idle isOpen =>
    refine ⟨?_, hears.receiver, hears.produced⟩
    exact hears.created (((close_shrinks wall.session).created [])) fun stream member => absurd member List.not_mem_nil
  | @closeResumed id rest closing stopped =>
    exact hears.shrinks ((modify_shrinks wall.session id cleanupStopped_subscription).trans (continueClose_shrinks rest _)) rfl rfl rfl

end Hearing

/-! ## The system -/

/-- A stream of the server is what this subscription of the client asked for. -/
def AskedBy (client : WallClient) (entry : Nat) (stream : PreviewWallSubscription) : Prop :=
  ∃ input, client.asked entry = some (input, stream.subscriptionId) ∧ input.slot = stream.slot ∧
    UUID.parse input.cameraId.toList = some stream.cameraId ∧
    UUID.parse input.mediaSessionId.toList = some stream.mediaSessionId

/-- The client asked for a stream. -/
def Asked (client : WallClient) (stream : PreviewWallSubscription) : Prop := ∃ entry, AskedBy client entry stream

theorem Asked.extends {before after : WallClient} (grows : Extends before after) {stream : PreviewWallSubscription}
    (asked : Asked before stream) : Asked after stream := by
  obtain ⟨entry, input, known, rest⟩ := asked
  exact ⟨entry, input, grows entry _ known, rest⟩

/-- A text is a sync of subscriptions of the client. -/
def IsSync (client : WallClient) (text : List Char) : Prop :=
  ∃ layout actives, text = syncText layout actives ∧ ∀ active ∈ actives, active.subscriptionId < 2 ^ 32 ∧
    ∃ entry, client.asked entry = some (active.input, active.subscriptionId)

theorem IsSync.extends {before after : WallClient} (grows : Extends before after) {text : List Char} (isSync : IsSync before text) :
    IsSync after text := by
  obtain ⟨layout, actives, same, every⟩ := isSync
  refine ⟨layout, actives, same, fun active member => ⟨(every active member).1, ?_⟩⟩
  obtain ⟨entry, known⟩ := (every active member).2
  exact ⟨entry, grows entry _ known⟩

/-- A sync that is read wants streams the client asked for. -/
theorem asked_of_parsed {client : WallClient} {text : List Char} (isSync : IsSync client text) {sync : PreviewWallSync}
    (parsed : parsePreviewWallSync text = .ok sync) : ∀ stream ∈ sync.streams, Asked client stream := by
  obtain ⟨layout, actives, rfl, every⟩ := isSync
  obtain ⟨-, -, shows⟩ := (parse_syncText fun active member => (every active member).1).mp parsed
  intro stream member
  obtain ⟨place, bound, rfl⟩ := List.getElem_of_mem member
  have placed : place < actives.length := shows.length_eq ▸ bound
  have shown := shows.get placed bound
  obtain ⟨entry, known⟩ := (every _ (List.getElem_mem placed)).2
  refine ⟨entry, _, ?_, shown.slot, shown.camera, shown.mediaSession⟩
  rw [known]
  exact congrArg (fun id => some (_, id)) shown.subscriptionId

/-- The frame that was shown is the picture of a frame that was sent, for the subscription it names. -/
def Delivers (client : WallClient) (shown : Nat × Bytes) (frame : PreviewWallSubscription × Bytes) : Prop :=
  encodePreviewWallFrame frame.1 shown.2 = .ok frame.2 ∧
    ∃ input, client.asked shown.1 = some (input, frame.1.subscriptionId) ∧ input.slot = frame.1.slot

theorem Delivers.extends {before after : WallClient} (grows : Extends before after) {shown : Nat × Bytes}
    {frame : PreviewWallSubscription × Bytes} (delivers : Delivers before shown frame) : Delivers after shown frame := by
  obtain ⟨encodes, input, known, ofSlot⟩ := delivers
  exact ⟨encodes, input, grows _ _ known, ofSlot⟩

/-- The frames shown on a socket. -/
def shownOn (socket : Nat) (shown : List (Nat × Nat × Bytes)) : List (Nat × Bytes) :=
  (shown.filter fun frame => frame.1 = socket).map Prod.snd

theorem shownOn_append (socket : Nat) (shown later : List (Nat × Nat × Bytes)) :
    shownOn socket (shown ++ later) = shownOn socket shown ++ shownOn socket later := by
  rw [shownOn, List.filter_append, List.map_append, shownOn, shownOn]

/-- A socket and its session. -/
structure Connection.Sound (client : WallClient) (shown : List (Nat × Bytes)) (connection : Connection) : Prop where
  wall : connection.wall.Sound
  hears : Hears (Asked client) connection.wall
  up : ∀ text ∈ connection.up, IsSync client text
  /-- Frames arrive in the order in which they were sent. -/
  inOrder : ∃ frames, List.Forall₂ (Delivers client) shown frames ∧
    (frames ++ framesSent connection.down).Sublist (framesSent connection.wall.sent)

structure WallSystem.Sound (seed : UInt32) (system : WallSystem) : Prop where
  client : system.client.Sound seed
  connections : ∀ socket, (system.connections socket).Sound system.client (shownOn socket system.shown)

section System
variable {seed : UInt32} {system : WallSystem}

theorem WallSystem.sound_initial (seed : UInt32) : (WallSystem.initial seed).Sound seed where
  client := WallClient.sound_new seed
  connections _ := {
    wall := WallWorld.sound_initial
    hears := hears_initial _
    up := fun _ member => absurd member List.not_mem_nil
    inOrder := ⟨[], .nil, List.Sublist.refl _⟩ }

/-- The client goes on while nothing happens on a socket. -/
theorem Connection.Sound.extends {before after : WallClient} (grows : Extends before after) {shown : List (Nat × Bytes)}
    {connection : Connection} (sound : connection.Sound before shown) : connection.Sound after shown where
  wall := sound.wall
  hears := sound.hears.mono fun _ => Asked.extends grows
  up text member := (sound.up text member).extends grows
  inOrder := by
    obtain ⟨frames, delivers, sublist⟩ := sound.inOrder
    exact ⟨frames, delivers.imp fun _ _ => Delivers.extends grows, sublist⟩

theorem WallSystem.Sound.modify (sound : system.Sound seed) (socket : Nat) {change : Connection → Connection}
    (changed : (change (system.connections socket)).Sound system.client (shownOn socket system.shown)) :
    (system.modify socket change).Sound seed where
  client := sound.client
  connections other := by
    rw [WallSystem.modify]
    by_cases same : other = socket
    · subst same
      simpa using changed
    · simpa [Function.update_of_ne same] using sound.connections other

/-- What a client posts are syncs of its subscriptions. -/
theorem isSync_of_sent (sound : system.client.Sound seed) {socket : Nat} {text : List Char}
    (sent : .sent socket text ∈ system.client.sendSync) : IsSync system.client text := by
  obtain ⟨layout, -, -, same⟩ := mem_sendSync sent
  refine ⟨layout, _, same, fun active member => ⟨streams_small sound active member, ?_⟩⟩
  obtain ⟨entry, -, known⟩ := mem_streams sound.placed member
  exact ⟨entry, by rw [WallClient.asked, known, Option.map_some]⟩

theorem WallSystem.Sound.post (sound : system.Sound seed) {effect : ClientEffect}
    (isSync : ∀ socket text, effect = .sent socket text → IsSync system.client text) :
    (system.post effect).Sound seed ∧ (system.post effect).client = system.client := by
  cases effect with
  | sent socket text =>
    have connection := sound.connections socket
    refine ⟨@WallSystem.Sound.modify _ _ sound socket (fun connection => { connection with up := connection.up ++ [text] })
      { connection with up := fun other member => ?_ }, rfl⟩
    rcases List.mem_append.mp member with earlier | isLast
    · exact connection.up other earlier
    · rw [List.mem_singleton.mp isLast]
      exact isSync socket text rfl
  | _ => exact ⟨sound, rfl⟩

theorem WallSystem.Sound.posts {effects : List ClientEffect} : ∀ {system : WallSystem}, system.Sound seed →
    (∀ socket text, .sent socket text ∈ effects → IsSync system.client text) →
      (effects.foldl WallSystem.post system).Sound seed := by
  induction effects with
  | nil => exact fun sound _ => sound
  | cons effect effects ih =>
    intro system sound isSync
    obtain ⟨posted, sameClient⟩ := sound.post fun socket text same => isSync socket text (same ▸ List.mem_cons_self)
    exact ih posted fun socket text member => sameClient ▸ isSync socket text (List.mem_cons_of_mem _ member)

theorem WallSystem.Sound.moved (sound : system.Sound seed) {client : WallClient} (after : client.Sound seed)
    (grows : Extends system.client client) : { system with client := client }.Sound seed where
  client := after
  connections socket := (sound.connections socket).extends grows

theorem framesShown_silent {socket : Nat} {effects : List ClientEffect} (silent : ∀ entry jpeg, .onFrame entry jpeg ∉ effects) :
    WallSystem.framesShown socket effects = [] := by
  rw [WallSystem.framesShown, List.filterMap_eq_nil_iff]
  intro effect member
  split
  · next entry jpeg => exact absurd member (silent entry jpeg)
  · rfl

/-- What a frame that was sent shows: nothing, or its picture, for the subscription it names. -/
theorem shown_of_frame (sound : system.client.Sound seed) (socket : Nat) {frame : PreviewWallSubscription × Bytes}
    (encodes : ∃ jpeg, encodePreviewWallFrame frame.1 jpeg = .ok frame.2) :
    WallSystem.framesShown socket (system.client.onBinary frame.2).2 = [] ∨
      ∃ shown, WallSystem.framesShown socket (system.client.onBinary frame.2).2 = [(socket, shown)] ∧
        Delivers system.client shown frame := by
  obtain ⟨jpeg, encoded⟩ := encodes
  rcases onBinary_cases system.client frame.2 with
    nothing | ⟨entry, active, -, -, -, found, -, -, later, effects, noOther⟩
  · rw [nothing]
    exact .inl rfl
  · obtain ⟨-, -, -, same⟩ := encode_eq_ok.mp encoded
    have bound := frame.1.idBound
    have slotByte : (UInt8.ofNat frame.1.slot).toNat = frame.1.slot := by
      rw [UInt8.toNat_ofNat']
      exact Nat.mod_eq_of_lt (frame.1.slotBound.trans (by decide))
    have picture : frame.2.drop 6 = jpeg := by
      rw [same]
      exact List.drop_left' rfl
    have number : uint32At frame.2 2 = frame.1.subscriptionId := by
      rw [same]
      exact uint32At_frame _ (Nat.lt_succ_of_le bound) jpeg
    have slot : frame.2.getD 1 0 = UInt8.ofNat frame.1.slot := by rw [same]; rfl
    rw [slot, slotByte, number] at found
    obtain ⟨isEntry, known, -, sameId⟩ := addressed?_eq_some.mp found
    obtain ⟨other, knownOther, ofSlot, -⟩ := sound.placed frame.1.slot entry isEntry
    rw [known, Option.some.injEq] at knownOther
    subst knownOther
    refine .inr ⟨(entry, jpeg), ?_, encoded, active.input, ?_, ofSlot⟩
    · rw [effects, picture]
      have rest := @framesShown_silent socket later noOther
      rw [WallSystem.framesShown] at rest ⊢
      rw [List.filterMap_cons, rest]
    · rw [WallClient.asked, known, Option.map_some, sameId]

/-- A message that was taken, and what it showed. -/
theorem Connection.Sound.taken {client : WallClient} {shown : List (Nat × Bytes)} {connection : Connection}
    (sound : connection.Sound client shown) {message : WallMessage} {rest : List WallMessage}
    (first : connection.down = message :: rest) (more : List (Nat × Bytes))
    (shows : more = [] ∨ ∃ frame picture, message.frame? = some frame ∧ more = [picture] ∧ Delivers client picture frame) :
    { connection with down := rest }.Sound client (shown ++ more) where
  wall := sound.wall
  hears := sound.hears
  up := sound.up
  inOrder := by
    obtain ⟨frames, delivers, sublist⟩ := sound.inOrder
    have arrived : framesSent connection.down = message.frame?.toList ++ framesSent rest := by
      rw [first, framesSent, List.filterMap_cons, framesSent]
      cases message <;> rfl
    rw [arrived] at sublist
    rcases shows with rfl | ⟨frame, picture, isFrame, rfl, delivered⟩
    · refine ⟨frames, (List.append_nil shown).symm ▸ delivers, List.Sublist.trans ?_ sublist⟩
      exact (List.sublist_append_right _ _).append_left frames
    · rw [isFrame, Option.toList_some, ← List.append_assoc] at sublist
      exact ⟨frames ++ [frame], List.rel_append delivers (.cons delivered .nil), sublist⟩

/-- A message that arrived at the client, and what it showed. -/
theorem WallSystem.Sound.arrived (sound : system.Sound seed) {socket : Nat} {message : WallMessage} {rest : List WallMessage}
    (first : (system.connections socket).down = message :: rest) {client : WallClient} (after : client.Sound seed)
    (grows : Extends system.client client) (more : List (Nat × Bytes))
    (shows : more = [] ∨
      ∃ frame picture, message.frame? = some frame ∧ more = [picture] ∧ Delivers system.client picture frame) :
    ({ system with client := client, shown := system.shown ++ more.map (socket, ·) }.modify socket fun connection =>
      { connection with down := rest }).Sound seed where
  client := after
  connections other := by
    rw [WallSystem.modify, shownOn_append]
    by_cases same : other = socket
    · subst same
      have here : shownOn other (more.map (other, ·)) = more := by simp [shownOn, List.filter_map, Function.comp_def]
      rw [here]
      simpa using ((sound.connections other).taken first more shows).extends grows
    · have elsewhere : shownOn other (more.map (socket, ·)) = [] := by
        simp [shownOn, List.filter_map, Function.comp_def, Ne.symm same]
      rw [elsewhere, List.append_nil]
      simpa [Function.update_of_ne same] using (sound.connections other).extends grows

theorem framesSent_posted {wall after : WallWorld} {action : WallAction} (step : WallStep wall action after) :
    framesSent after.sent = framesSent wall.sent ++ framesSent (posted action) := by
  cases step with
  | sent awake taken =>
    rw [framesSent, List.filterMap_append]
    rfl
  | _ => exact (List.append_nil _).symm

/-- Whatever happens on whichever side, the invariant goes on. -/
theorem WallSystem.Sound.step {action : SystemAction} {after : WallSystem} (sound : system.Sound seed)
    (step : SystemStep system action after) : after.Sound seed := by
  cases step with
  | @client action after step noText noBinary =>
    obtain ⟨soundAfter, grows⟩ := sound.client.step step
    refine WallSystem.Sound.posts (sound.moved soundAfter grows) fun socket text member => ?_
    rcases step_effects step with silent | ⟨-, same⟩ | ⟨other, data, isBinary, -⟩
    · exact absurd member (silent.1 socket text)
    · exact (isSync_of_sent sound.client (same ▸ member)).extends grows
    · exact absurd isBinary (noBinary other data)
  | @received socket text rest sync after receives first parsed step =>
    have connection := sound.connections socket
    have asked := asked_of_parsed (connection.up text (first ▸ List.mem_cons_self)) parsed
    refine sound.modify socket {
      wall := connection.wall.step step
      hears := connection.hears.step connection.wall step fun other same => by
        cases same
        exact asked
      up := fun other member => connection.up other (first ▸ List.mem_cons_of_mem _ member)
      inOrder := ?_ }
    have same : framesSent after.sent = framesSent (system.connections socket).wall.sent :=
      (framesSent_posted step).trans (List.append_nil _)
    dsimp only
    rw [same]
    exact connection.inOrder
  | @refused socket text rest error receives first idle failed =>
    have connection := sound.connections socket
    refine sound.modify socket { connection with
      up := fun other member => connection.up other (first ▸ List.mem_cons_of_mem _ member), inOrder := ?_ }
    dsimp only
    rw [framesSent_append, WallMessage.frame?, Option.toList_none, List.append_nil]
    exact connection.inOrder
  | @wall socket action after step noSync =>
    have connection := sound.connections socket
    refine sound.modify socket {
      wall := connection.wall.step step
      hears := connection.hears.step connection.wall step fun other same => absurd same (noSync other)
      up := connection.up
      inOrder := ?_ }
    obtain ⟨frames, delivers, sublist⟩ := connection.inOrder
    refine ⟨frames, delivers, ?_⟩
    have split : framesSent ((system.connections socket).down ++ posted action) =
        framesSent (system.connections socket).down ++ framesSent (posted action) := List.filterMap_append ..
    dsimp only
    rw [framesSent_posted step, split, ← List.append_assoc]
    exact sublist.append_right _
  | @frameArrived socket subscription encoded rest after first step =>
    obtain ⟨soundAfter, grows⟩ := sound.client.step step
    have connection := sound.connections socket
    have isSent : (subscription, encoded) ∈ framesSent (system.connections socket).wall.sent := by
      obtain ⟨frames, -, sublist⟩ := connection.inOrder
      refine sublist.subset (List.mem_append_right _ ?_)
      rw [first]
      exact List.mem_cons_self
    have isProduced : (subscription, encoded) ∈ (system.connections socket).wall.produced := by
      have inSlot : (subscription, encoded) ∈ ofSlot subscription.slot (framesSent (system.connections socket).wall.sent) :=
        List.mem_filter.mpr ⟨isSent, decide_eq_true rfl⟩
      have produced := (connection.wall.logs.inOrder subscription.slot).subset (List.mem_append_left _ inSlot)
      exact (List.mem_filter.mp produced).1
    cases step with
    | onBinary data current =>
      rcases @shown_of_frame seed system sound.client socket (subscription, encoded) (connection.hears.produced _ isProduced).2 with
        nothing | ⟨picture, one, delivers⟩
      · rw [nothing]
        exact sound.arrived first soundAfter grows [] (.inl rfl)
      · rw [one]
        exact sound.arrived first soundAfter grows [picture] (.inr ⟨_, picture, rfl, rfl, delivers⟩)
  | @textArrived socket text rest after first step =>
    obtain ⟨soundAfter, grows⟩ := sound.client.step step
    have arrived := sound.arrived first soundAfter grows [] (.inl rfl)
    rwa [List.map_nil, List.append_nil] at arrived
  | @dropped socket message rest first given =>
    have connection := (sound.connections socket).taken first [] (.inl rfl)
    rw [List.append_nil] at connection
    exact sound.modify socket connection

end System

/-! ## Every run -/

/-- The frames shown on a socket for the subscriptions of a slot. -/
def shownIn (system : WallSystem) (socket slot : Nat) : List (Nat × Bytes) :=
  (shownOn socket system.shown).filter fun shown => (system.client.asked shown.1).any fun asked => asked.1.slot = slot

/-- Fewer subscriptions than numbers have a number each. -/
theorem entry_of_number {seed : UInt32} {client : WallClient} (sound : client.Sound seed) (few : client.active.length ≤ 2 ^ 32)
    {entry other : Nat} {input otherInput : PreviewWallSubscriptionInput} {id : Nat}
    (known : client.asked entry = some (input, id)) (knownOther : client.asked other = some (otherInput, id)) : other = entry := by
  obtain ⟨active, isActive, same⟩ := Option.map_eq_some_iff.mp known
  obtain ⟨otherActive, isOther, sameOther⟩ := Option.map_eq_some_iff.mp knownOther
  have number := sound.numbered.numbered entry active isActive
  have otherNumber := sound.numbered.numbered other otherActive isOther
  have bound := (List.getElem?_eq_some_iff.mp isActive).1
  have otherBound := (List.getElem?_eq_some_iff.mp isOther).1
  have sameId : active.subscriptionId = otherActive.subscriptionId :=
    (congrArg Prod.snd same).trans (congrArg Prod.snd sameOther).symm
  omega

theorem forall₂_with {α β : Type} {R S : α → β → Prop} {left : List α} {right : List β} (related : List.Forall₂ R left right)
    (more : ∀ a b, b ∈ right → R a b → S a b) : List.Forall₂ S left right := by
  induction related with
  | nil => exact .nil
  | cons first _ ih =>
    exact .cons (more _ _ List.mem_cons_self first) (ih fun a b member => more a b (List.mem_cons_of_mem _ member))

/-- However calls, events, syncs, sources and messages interleave, and over whichever socket: the
    frames shown in a slot are pictures that the slot's sources produced, in that order and each
    once, for the camera and the media session that the subscription asked for.  A number must
    not be given twice. -/
theorem frames_reach_their_camera {seed : UInt32} {system : WallSystem} {actions : List SystemAction}
    (run : Run SystemStep (.initial seed) actions system) (few : system.client.active.length ≤ 2 ^ 32) (socket slot : Nat) :
    ∃ frames, List.Forall₂ (fun shown frame => encodePreviewWallFrame frame.1 shown.2 = .ok frame.2 ∧
        AskedBy system.client shown.1 frame.1) (shownIn system socket slot) frames ∧
      frames.Sublist (ofSlot slot (system.connections socket).wall.produced) := by
  have sound : system.Sound seed :=
    @Run.invariant _ _ _ (WallSystem.Sound seed) (fun _ _ _ kept step => kept.step step) _ _ _ run (WallSystem.sound_initial seed)
  have connection := sound.connections socket
  obtain ⟨frames, delivers, sublist⟩ := connection.inOrder
  have sameSlot : ∀ shown frame, Delivers system.client shown frame →
      (((system.client.asked shown.1).any fun asked => asked.1.slot = slot) = true ↔ decide (frame.1.slot = slot) = true) := by
    rintro shown frame ⟨-, input, known, ofSlot⟩
    rw [known, Option.any_some, ofSlot]
  have inSlot : (ofSlot slot frames).Sublist (ofSlot slot (system.connections socket).wall.produced) :=
    (((List.sublist_append_left _ _).trans sublist).filter _).trans
      ((List.sublist_append_left _ _).trans (connection.wall.logs.inOrder slot))
  refine ⟨ofSlot slot frames, forall₂_with (List.rel_filter (fun _ _ related => sameSlot _ _ related) delivers) ?_, inSlot⟩
  rintro shown frame member ⟨encodes, input, known, ofSlot⟩
  obtain ⟨entry, asked⟩ := (connection.hears.produced frame (List.mem_filter.mp (inSlot.subset member)).1).1
  obtain ⟨otherInput, knownOther, rest⟩ := asked
  have same := entry_of_number sound.client few known knownOther
  exact ⟨encodes, otherInput, same ▸ knownOther, rest⟩

/-- The sync of the client that shows one camera, as its session reads it. -/
theorem parse_wallSync : parsePreviewWallSync (syncText .four [wallActive]) = .ok wallSync := by
  have small : ∀ active ∈ [wallActive], active.subscriptionId < 2 ^ 32 := by decide
  refine (parse_syncText small).mpr ⟨syncText_fits small ?_ (by decide), rfl, .cons ⟨rfl, rfl, ?_, ?_⟩ .nil⟩
  · intro active member
    rw [List.mem_singleton.mp member]
    exact ⟨⟨wallUuid, String.toList_ofList⟩, wallUuid, String.toList_ofList⟩
  · exact (congrArg UUID.parse String.toList_ofList).trans (UUID.parse_str wallUuid)
  · exact (congrArg UUID.parse String.toList_ofList).trans (UUID.parse_str wallUuid)

theorem frames_reach_their_camera_once : ∃ system : WallSystem, (system.connections 0).wall.produced ≠ [] ∧
    ∃ frames, List.Forall₂ (fun shown frame => encodePreviewWallFrame frame.1 shown.2 = .ok frame.2 ∧
      AskedBy system.client shown.1 frame.1) (shownIn system 0 2) frames ∧
      frames.Sublist (ofSlot 2 (system.connections 0).wall.produced) := by
  obtain ⟨system, run, few, produced⟩ : ∃ system, Run SystemStep (.initial 40) [.client (.setLayout (some .four)),
      .client (.subscribe wallInput), .client (.onopen 0), .client .runSync, .received 0, .wall 0 (.started 0),
      .wall 0 (.opened 0), .wall 0 (.frame 0 wallJpeg)] system ∧ system.client.active.length ≤ 2 ^ 32 ∧
      (system.connections 0).wall.produced = [(wallSubscription, [1, 2, 0, 0, 0, 40] ++ wallJpeg)] := by
    refine ⟨_, .next (.client (.setLayout _ (some .four)) (by simp) (by simp))
      (.next (.client (.subscribe _ wallInput) (by simp) (by simp)) (.next (.client (.onopen _ 0) (by simp) (by simp))
      (.next (.client (.runSync rfl) (by simp) (by simp)) (.next (.received rfl rfl parse_wallSync (.sync wallSync rfl rfl))
      (.next (.wall (@WallStep.started _ 0 _ rfl rfl rfl) (by simp)) (.next (.wall (@WallStep.opened _ 0 _ rfl rfl rfl) (by simp))
      (.next (.wall (@WallStep.frame _ 0 _ wallJpeg rfl rfl rfl) (by simp)) (.done _)))))))), ?_, rfl⟩
    exact (by decide : 1 ≤ 2 ^ 32)
  exact ⟨system, by rw [produced]; exact List.cons_ne_nil _ _, frames_reach_their_camera run few 0 2⟩

end ZeroNvr.PreviewWall
