import ZeroNvr.Lib.Run
import ZeroNvr.Cameras.PreviewWallClient

/-! # What a browser and a preview wall understand of each other

A sync is read as the streams it was written for, and the frames that are shown are
those that were encoded for a subscription of the client.
-/

namespace ZeroNvr.PreviewWall

open JsonText (Value loads loads_write write unicode plain plainItems plainFields)
open Lib

/-! ## The client -/

namespace WallClient

/-- Subscriptions are numbered one after the other. -/
structure Numbered (seed : UInt32) (client : WallClient) : Prop where
  numbered : ∀ (entry : Nat) (active : ActiveSubscription), client.active[entry]? = some active →
    active.subscriptionId = (seed.toNat + entry) % 2 ^ 32
  next : client.nextSubscriptionId = (seed.toNat + client.active.length) % 2 ^ 32

/-- A slot has a subscription of its own that is not closed. -/
def Placed (client : WallClient) : Prop :=
  ∀ slot entry, client.subscriptions.get? slot = some entry →
    ∃ active : ActiveSubscription, client.active[entry]? = some active ∧ active.input.slot = slot ∧ active.closed = false

structure Sound (seed : UInt32) (client : WallClient) : Prop where
  numbered : client.Numbered seed
  placed : client.Placed

/-- What was asked for, and under which number. -/
def asked (client : WallClient) (entry : Nat) : Option (PreviewWallSubscriptionInput × Nat) :=
  client.active[entry]?.map fun active => (active.input, active.subscriptionId)

/-- Nothing changes but the marks of subscriptions, and what is not about subscriptions. -/
structure Marks (before after : WallClient) : Prop where
  asked : ∀ entry, after.asked entry = before.asked entry
  length : after.active.length = before.active.length
  next : after.nextSubscriptionId = before.nextSubscriptionId

theorem Marks.refl (client : WallClient) : Marks client client := ⟨fun _ => rfl, rfl, rfl⟩

theorem Marks.trans {first second third : WallClient} (early : Marks first second) (late : Marks second third) :
    Marks first third :=
  ⟨fun entry => (late.asked entry).trans (early.asked entry), late.length.trans early.length, late.next.trans early.next⟩

variable {seed : UInt32} {client : WallClient}

theorem Numbered.marks {after : WallClient} (numbered : client.Numbered seed) (marks : Marks client after) :
    after.Numbered seed where
  numbered entry active known := by
    have same := marks.asked entry
    rw [WallClient.asked, known, Option.map_some] at same
    obtain ⟨before, knownBefore, pair⟩ := Option.map_eq_some_iff.mp same.symm
    exact (congrArg Prod.snd pair).symm.trans (numbered.numbered entry before knownBefore)
  next := by rw [marks.next, marks.length, numbered.next]

theorem sound_new (seed : UInt32) : (new seed).Sound seed where
  numbered := {
    numbered := fun entry active known => by simp [new] at known
    next := by
      have bound := seed.toNat_lt
      simp only [new, List.length_nil, Nat.add_zero]
      exact (Nat.mod_eq_of_lt bound).symm }
  placed slot entry found := by cases found

/-- What counts for the slots: the subscriptions and the map. -/
theorem Placed.congr {after : WallClient} (placed : client.Placed) (active : after.active = client.active)
    (subscriptions : after.subscriptions = client.subscriptions) : after.Placed := by
  rw [Placed, active, subscriptions]
  exact placed

theorem active_modify (client : WallClient) (entry other : Nat) (change : ActiveSubscription → ActiveSubscription) :
    (client.modify entry change).active[other]? =
      client.active[other]?.map fun active => if entry = other then change active else active := by
  simp [modify, List.getElem?_modify]

/-- A change that keeps what was asked for. -/
def KeepsAsked (change : ActiveSubscription → ActiveSubscription) : Prop :=
  ∀ active, (change active).input = active.input ∧ (change active).subscriptionId = active.subscriptionId

theorem modify_marks (client : WallClient) (entry : Nat) {change : ActiveSubscription → ActiveSubscription}
    (keeps : KeepsAsked change) : Marks client (client.modify entry change) where
  asked other := by
    rw [asked, active_modify, Option.map_map]
    refine Option.map_congr fun active _ => ?_
    dsimp only [Function.comp]
    split
    · rw [(keeps active).1, (keeps active).2]
    · rfl
  length := List.length_modify ..
  next := rfl

/-- A change of a subscription that stays open, or has no slot. -/
theorem Placed.modify (placed : client.Placed) (entry : Nat) {change : ActiveSubscription → ActiveSubscription}
    (keeps : KeepsAsked change)
    (stays : ∀ slot, client.subscriptions.get? slot = some entry → ∀ active, active.closed = false → (change active).closed = false) :
    (client.modify entry change).Placed := by
  intro slot other found
  obtain ⟨active, known, ofSlot, isOpen⟩ := placed slot other found
  rw [active_modify, known]
  refine ⟨_, rfl, ?_⟩
  split
  · next isEntry =>
    subst isEntry
    exact ⟨(congrArg _ (keeps active).1).trans ofSlot, stays slot found active isOpen⟩
  · exact ⟨ofSlot, isOpen⟩

theorem subscription?_eq_some {slot entry : Nat} {active : ActiveSubscription} :
    client.subscription? slot = some (entry, active) ↔
      client.subscriptions.get? slot = some entry ∧ client.active[entry]? = some active := by
  rw [subscription?, Option.bind_eq_some_iff]
  constructor
  · rintro ⟨found, isEntry, mapped⟩
    obtain ⟨known, isActive, same⟩ := Option.map_eq_some_iff.mp mapped
    cases same
    exact ⟨isEntry, isActive⟩
  · rintro ⟨isEntry, known⟩
    exact ⟨entry, isEntry, by rw [known, Option.map_some]⟩

/-! ### Settling and retiring -/

theorem settle_eq (shown : Bool) (client : WallClient) (entry : Nat) (active : ActiveSubscription) :
    ∃ change, KeepsAsked change ∧ (∀ other, (change other).closed = other.closed) ∧
      (client.settle shown entry active).1 = client.modify entry change := by
  rw [settle]
  split
  · have unchanged : client.active.modify entry (fun active => active) = client.active := List.modify_id entry client.active
    exact ⟨fun active => active, fun _ => ⟨rfl, rfl⟩, fun _ => rfl, by simp only [modify, unchanged]⟩
  · exact ⟨fun active => { active with firstFrameSettled := true }, fun _ => ⟨rfl, rfl⟩, fun _ => rfl, rfl⟩

theorem Sound.settle (sound : client.Sound seed) (shown : Bool) (entry : Nat) (active : ActiveSubscription) :
    (client.settle shown entry active).1.Sound seed := by
  obtain ⟨change, keeps, closed, same⟩ := settle_eq shown client entry active
  rw [same]
  exact ⟨sound.numbered.marks (modify_marks client entry keeps),
    sound.placed.modify entry keeps fun _ _ other isOpen => (closed other).trans isOpen⟩

theorem settle_marks (shown : Bool) (client : WallClient) (entry : Nat) (active : ActiveSubscription) :
    Marks client (client.settle shown entry active).1 := by
  obtain ⟨change, keeps, -, same⟩ := settle_eq shown client entry active
  exact same ▸ modify_marks client entry keeps

theorem modify_modify (client : WallClient) (entry : Nat) (first second : ActiveSubscription → ActiveSubscription) :
    (client.modify entry first).modify entry second = client.modify entry (second ∘ first) := by
  simp [WallClient.modify, List.modify_modify_eq]

theorem retire_eq (client : WallClient) (entry : Nat) (active : ActiveSubscription) :
    ∃ change, KeepsAsked change ∧ (client.retire entry active).1 = client.modify entry change := by
  obtain ⟨change, keeps, -, same⟩ := settle_eq false (client.modify entry fun active => { active with closed := true }) entry active
  exact ⟨_, fun other => keeps { other with closed := true }, same.trans (modify_modify ..)⟩

/-! ### The connection -/

/-- What is not about the connection stays. -/
structure SameSubscriptions (before after : WallClient) : Prop where
  active : after.active = before.active
  subscriptions : after.subscriptions = before.subscriptions
  next : after.nextSubscriptionId = before.nextSubscriptionId

theorem SameSubscriptions.marks {after : WallClient} (same : SameSubscriptions client after) : Marks client after where
  asked entry := by rw [asked, asked, same.active]
  length := by rw [same.active]
  next := same.next

theorem Sound.same {after : WallClient} (sound : client.Sound seed) (same : SameSubscriptions client after) : after.Sound seed :=
  ⟨sound.numbered.marks same.marks, sound.placed.congr same.active same.subscriptions⟩

theorem detachAndCloseSocket_same (client : WallClient) : SameSubscriptions client client.detachAndCloseSocket.1 := by
  rw [detachAndCloseSocket]
  split <;> exact ⟨rfl, rfl, rfl⟩

theorem ensureSocket_same (client : WallClient) : SameSubscriptions client client.ensureSocket.1 := by
  rw [ensureSocket]
  split <;> exact ⟨rfl, rfl, rfl⟩

theorem scheduleReconnect_same (client : WallClient) : SameSubscriptions client client.scheduleReconnect.1 := by
  rw [scheduleReconnect]
  split <;> exact ⟨rfl, rfl, rfl⟩

theorem updateConnection_same (client : WallClient) : SameSubscriptions client client.updateConnection.1 := by
  rw [updateConnection]
  split
  · have same := detachAndCloseSocket_same client.cancelReconnect
    exact ⟨same.active, same.subscriptions, same.next⟩
  · have same := ensureSocket_same client
    exact ⟨same.active, same.subscriptions, same.next⟩

theorem onopen_same (client : WallClient) (socket : Nat) : SameSubscriptions client (client.onopen socket) := by
  rw [onopen]
  split
  · split <;> exact ⟨rfl, rfl, rfl⟩
  · exact ⟨rfl, rfl, rfl⟩

theorem socketCloses_same (client : WallClient) (socket : Nat) : SameSubscriptions client (client.socketCloses socket) := by
  rw [socketCloses]
  split
  · split <;> exact ⟨rfl, rfl, rfl⟩
  · exact ⟨rfl, rfl, rfl⟩

theorem onclose_same (client : WallClient) (socket : Nat) : SameSubscriptions client (client.onclose socket).1 := by
  rw [onclose]
  split
  · split
    · have same := scheduleReconnect_same { client with socket := none }
      exact ⟨same.active, same.subscriptions, same.next⟩
    · exact ⟨rfl, rfl, rfl⟩
  · exact ⟨rfl, rfl, rfl⟩

/-! ### Messages -/

theorem onText_cases (client : WallClient) (data : List Char) :
    SameSubscriptions client (client.onText data).1 ∨
      ∃ attempted entry active, SameSubscriptions client attempted ∧ (client.onText data).1 = (attempted.settle false entry active).1 := by
  rw [onText]
  split
  · dsimp only
    split
    · exact .inl ⟨rfl, rfl, rfl⟩
    · split
      · exact .inl ⟨rfl, rfl, rfl⟩
      · split
        · split
          · exact .inl ⟨rfl, rfl, rfl⟩
          · next entry active found =>
            split
            · exact .inl ⟨rfl, rfl, rfl⟩
            · exact .inr ⟨{ client with reconnectAttempt := 0 }, entry, active, ⟨rfl, rfl, rfl⟩, rfl⟩
        · exact .inl ⟨rfl, rfl, rfl⟩
  · exact .inl ⟨rfl, rfl, rfl⟩

/-- What the client does with a frame: nothing, or it shows it. -/
theorem onBinary_cases (client : WallClient) (data : Bytes) :
    client.onBinary data = (client, []) ∨
      ∃ entry active, 10 ≤ data.length ∧ data.length ≤ 6 + 2 * 1024 * 1024 ∧ data.getD 0 0 = 1 ∧
        client.addressed? (data.getD 1 0).toNat (uint32At data 2) = some (entry, active) ∧ isJpeg (data.drop 6) = true ∧
        (client.onBinary data).1 = ({ client with reconnectAttempt := 0 }.settle true entry active).1 ∧
        ∃ later, (client.onBinary data).2 = .onFrame entry (data.drop 6) :: later ∧
          ∀ other jpeg, .onFrame other jpeg ∉ later := by
  rw [onBinary]
  split
  · exact .inl rfl
  · next length =>
    push Not at length
    split
    · exact .inl rfl
    · next version =>
      split
      · exact .inl rfl
      · next entry active found =>
        dsimp only
        split
        · exact .inl rfl
        · next jpeg =>
          refine .inr ⟨entry, active, length.1, length.2, not_not.mp version, found, by simpa using jpeg, rfl, _, rfl, ?_⟩
          intro other frame member
          rw [settle] at member
          split at member
          · cases member
          · cases List.mem_singleton.mp member

/-! ### Calls -/

/-- What was asked for before a step is asked for under the same number after it. -/
def Extends (before after : WallClient) : Prop :=
  ∀ entry asked, before.asked entry = some asked → after.asked entry = some asked

theorem Marks.extends {after : WallClient} (marks : Marks client after) : Extends client after :=
  fun entry _ known => (marks.asked entry).trans known

theorem SameSubscriptions.extends {after : WallClient} (same : SameSubscriptions client after) : Extends client after :=
  same.marks.extends

/-- The client with a new subscription in its slot. -/
def added (client : WallClient) (input : PreviewWallSubscriptionInput) : WallClient :=
  { client with
    nextSubscriptionId := (client.nextSubscriptionId + 1) % 2 ^ 32,
    subscriptions := client.subscriptions.set input.slot client.active.length,
    active := client.active ++
      [{ input, subscriptionId := client.nextSubscriptionId, firstFrameSettled := false, closed := false }] }

theorem active_added (client : WallClient) (input : PreviewWallSubscriptionInput) (entry : Nat) :
    (client.added input).active[entry]? =
      if entry = client.active.length then
        some { input, subscriptionId := client.nextSubscriptionId, firstFrameSettled := false, closed := false }
      else client.active[entry]? := by
  split
  · next same => rw [same, added, List.getElem?_concat_length]
  · next differs =>
    rcases Nat.lt_or_gt_of_ne differs with earlier | beyond
    · exact List.getElem?_append_left earlier
    · have bound : (client.added input).active.length ≤ entry := by
        rw [added, List.length_append, List.length_singleton]
        exact beyond
      rw [List.getElem?_eq_none bound, List.getElem?_eq_none beyond.le]

theorem added_extends (client : WallClient) (input : PreviewWallSubscriptionInput) : Extends client (client.added input) := by
  intro entry asked known
  obtain ⟨active, knownActive, same⟩ := Option.map_eq_some_iff.mp known
  have differs : entry ≠ client.active.length := (List.getElem?_eq_some_iff.mp knownActive).1.ne
  rw [WallClient.asked, active_added, if_neg differs]
  exact known

theorem Numbered.added (numbered : client.Numbered seed) (input : PreviewWallSubscriptionInput) :
    (client.added input).Numbered seed where
  numbered entry active known := by
    rw [active_added] at known
    split at known
    · next same =>
      cases known
      rw [same]
      exact numbered.next
    · exact numbered.numbered entry active known
  next := by
    have next := numbered.next
    have length : (client.added input).active.length = client.active.length + 1 := by
      rw [WallClient.added, List.length_append, List.length_singleton]
    rw [length]
    change (client.nextSubscriptionId + 1) % 2 ^ 32 = _
    omega

/-- The subscription that had the slot is closed, or there was none. -/
theorem subscribe_eq (client : WallClient) (input : PreviewWallSubscriptionInput) :
    ∃ retired, (client.subscribe input).1 = (retired.added input).updateConnection.1 ∧ Marks client retired ∧
      retired.subscriptions = client.subscriptions ∧
      ∀ other, client.subscriptions.get? input.slot ≠ some other → retired.active[other]? = client.active[other]? := by
  cases previous : client.subscription? input.slot with
  | none => exact ⟨client, by simp only [subscribe, previous, added], .refl client, rfl, fun _ _ => rfl⟩
  | some found =>
    obtain ⟨entry, active⟩ := found
    obtain ⟨change, keeps, same⟩ := retire_eq client entry active
    refine ⟨(client.retire entry active).1, by simp only [subscribe, previous, added], ?_, by rw [same]; rfl, fun other isOther => ?_⟩
    · exact same ▸ modify_marks client entry keeps
    · have differs : entry ≠ other := by
        rintro rfl
        exact isOther (subscription?_eq_some.mp previous).1
      rw [same, active_modify]
      simp [differs]

theorem Sound.subscribe (sound : client.Sound seed) (input : PreviewWallSubscriptionInput) :
    (client.subscribe input).1.Sound seed := by
  obtain ⟨retired, same, marks, subscriptions, others⟩ := subscribe_eq client input
  rw [same]
  refine Sound.same ⟨(sound.numbered.marks marks).added input, ?_⟩ (updateConnection_same _)
  intro slot entry found
  rw [active_added]
  have setSlots : (retired.added input).subscriptions = retired.subscriptions.set input.slot retired.active.length := rfl
  rw [setSlots, subscriptions] at found
  by_cases isNew : slot = input.slot
  · rw [isNew, OrderedDict.get?_set_self, Option.some.injEq] at found
    rw [if_pos found.symm]
    exact ⟨_, rfl, isNew.symm, rfl⟩
  · rw [OrderedDict.get?_set_of_ne _ isNew] at found
    obtain ⟨active, known, ofSlot, isOpen⟩ := sound.placed slot entry found
    have isOther : client.subscriptions.get? input.slot ≠ some entry := by
      intro same
      obtain ⟨other, knownOther, otherSlot, -⟩ := sound.placed input.slot entry same
      rw [known, Option.some.injEq] at knownOther
      subst knownOther
      exact isNew (ofSlot.symm.trans otherSlot)
    have differs : entry ≠ retired.active.length := by
      rw [marks.length]
      exact (List.getElem?_eq_some_iff.mp known).1.ne
    rw [if_neg differs, others entry isOther]
    exact ⟨active, known, ofSlot, isOpen⟩

theorem subscribe_extends (client : WallClient) (input : PreviewWallSubscriptionInput) :
    Extends client (client.subscribe input).1 := by
  obtain ⟨retired, same, marks, -, -⟩ := subscribe_eq client input
  intro entry asked known
  rw [same]
  exact (updateConnection_same _).extends entry asked (added_extends retired input entry asked (marks.extends entry asked known))

/-- The client with the slot of a subscription free. -/
def freed (client : WallClient) (entry : Nat) (active : ActiveSubscription) : WallClient :=
  { client with
    subscriptions :=
      if client.subscriptions.get? active.input.slot = some entry then client.subscriptions.pop active.input.slot
      else client.subscriptions }

theorem closeSubscription_cases (client : WallClient) (entry : Nat) :
    client.closeSubscription entry = (client, []) ∨
      ∃ active, client.active[entry]? = some active ∧
        (client.closeSubscription entry).1 = ((client.freed entry active).retire entry active).1.updateConnection.1 := by
  cases known : client.active[entry]? with
  | none => exact .inl (by simp only [closeSubscription, known])
  | some active =>
    cases closed : active.closed with
    | true => exact .inl (by simp only [closeSubscription, known, closed, if_true])
    | false =>
      exact .inr ⟨active, rfl, by simp only [closeSubscription, known, closed, Bool.false_eq_true, if_false, freed]⟩

theorem freed_marks (client : WallClient) (entry : Nat) (active : ActiveSubscription) : Marks client (client.freed entry active) :=
  ⟨fun _ => rfl, rfl, rfl⟩

theorem freed_placed (placed : client.Placed) {entry : Nat} {active : ActiveSubscription}
    (known : client.active[entry]? = some active) :
    (client.freed entry active).Placed ∧ ∀ slot, (client.freed entry active).subscriptions.get? slot ≠ some entry := by
  have ofEntry (slot : Nat) (found : client.subscriptions.get? slot = some entry) : slot = active.input.slot := by
    obtain ⟨other, knownOther, ofSlot, -⟩ := placed slot entry found
    rw [known, Option.some.injEq] at knownOther
    rw [← ofSlot, knownOther]
  by_cases current : client.subscriptions.get? active.input.slot = some entry
  · have freedSlots : (client.freed entry active).subscriptions = client.subscriptions.pop active.input.slot := if_pos current
    refine ⟨fun slot other found => ?_, fun slot found => ?_⟩
    · rw [freedSlots] at found
      exact placed slot other (OrderedDict.get?_pop_eq_some_iff.mp found).2
    · rw [freedSlots] at found
      obtain ⟨differs, found⟩ := OrderedDict.get?_pop_eq_some_iff.mp found
      exact differs (ofEntry slot found)
  · have freedSlots : (client.freed entry active).subscriptions = client.subscriptions := if_neg current
    refine ⟨fun slot other found => placed slot other (freedSlots ▸ found), fun slot found => ?_⟩
    rw [freedSlots] at found
    exact current (ofEntry slot found ▸ found)

theorem Sound.closeSubscription (sound : client.Sound seed) (entry : Nat) : (client.closeSubscription entry).1.Sound seed := by
  rcases closeSubscription_cases client entry with same | ⟨active, known, same⟩
  · exact same ▸ sound
  · obtain ⟨placed, free⟩ := freed_placed sound.placed known
    obtain ⟨change, keeps, retired⟩ := retire_eq (client.freed entry active) entry active
    rw [same]
    refine Sound.same ?_ (updateConnection_same _)
    rw [retired]
    exact ⟨(sound.numbered.marks (freed_marks client entry active)).marks (modify_marks _ entry keeps),
      placed.modify entry keeps fun slot found => absurd found (free slot)⟩

theorem closeSubscription_extends (client : WallClient) (entry : Nat) : Extends client (client.closeSubscription entry).1 := by
  rcases closeSubscription_cases client entry with same | ⟨active, known, same⟩
  · exact same ▸ (Marks.refl client).extends
  · obtain ⟨change, keeps, retired⟩ := retire_eq (client.freed entry active) entry active
    rw [same, retired]
    exact (((freed_marks client entry active).trans (modify_marks _ entry keeps)).trans
      (updateConnection_same _).marks).extends

theorem retireAll_marks (entries : List (Nat × ActiveSubscription)) :
    ∀ client : WallClient, Marks client (retireAll entries client).1 := by
  induction entries with
  | nil => exact .refl
  | cons first rest ih =>
    intro client
    obtain ⟨change, keeps, same⟩ := retire_eq client first.1 first.2
    have marks : Marks client (client.retire first.1 first.2).1 := same ▸ modify_marks client first.1 keeps
    exact marks.trans (ih _)

theorem close_marks (client : WallClient) : Marks client client.close.1 := by
  rw [close]
  split
  · exact .refl client
  · have retired := retireAll_marks client.values { client with closed := true }
    have detached := (detachAndCloseSocket_same ({ (retireAll client.values { client with closed := true }).1 with
      subscriptions := .empty }.cancelReconnect)).marks
    exact ⟨fun entry => (detached.asked entry).trans (retired.asked entry), detached.length.trans retired.length,
      detached.next.trans retired.next⟩

theorem Sound.close (sound : client.Sound seed) : client.close.1.Sound seed := by
  refine ⟨sound.numbered.marks (close_marks client), ?_⟩
  rw [WallClient.close]
  split
  · exact sound.placed
  · intro slot entry found
    rw [(detachAndCloseSocket_same _).subscriptions] at found
    cases found

/-- A step keeps the subscriptions in order, and what was asked for. -/
theorem Sound.step {action : ClientAction} {after : WallClient × List ClientEffect} (sound : client.Sound seed)
    (step : ClientStep client action after) : after.1.Sound seed ∧ Extends client after.1 := by
  have same {next : WallClient} (same : SameSubscriptions client next) : next.Sound seed ∧ Extends client next :=
    ⟨sound.same same, same.extends⟩
  cases step with
  | setLayout slots =>
    refine same ?_
    rw [setLayout]
    split
    · exact ⟨rfl, rfl, rfl⟩
    · have connected := updateConnection_same { client with layout := slots }
      exact ⟨connected.active, connected.subscriptions, connected.next⟩
  | subscribe input => exact ⟨sound.subscribe input, subscribe_extends client input⟩
  | closeSubscription entry => exact ⟨sound.closeSubscription entry, closeSubscription_extends client entry⟩
  | close => exact ⟨sound.close, (close_marks client).extends⟩
  | runSync scheduled => exact same ⟨rfl, rfl, rfl⟩
  | reconnect timer =>
    have connected := ensureSocket_same { client with reconnectTimer := none }
    exact same ⟨connected.active, connected.subscriptions, connected.next⟩
  | onopen socket => exact same (onopen_same client socket)
  | socketCloses socket => exact same (socketCloses_same client socket)
  | onclose socket => exact same (onclose_same client socket)
  | onText data current =>
    rcases onText_cases client data with plain | ⟨attempted, entry, active, plain, settled⟩
    · exact same plain
    · rw [settled]
      exact ⟨(sound.same plain).settle false entry active, (plain.marks.trans (settle_marks false attempted entry active)).extends⟩
  | onBinary data current =>
    rcases onBinary_cases client data with nothing | ⟨entry, active, -, -, -, -, -, settled, -⟩
    · rw [nothing]
      exact same ⟨rfl, rfl, rfl⟩
    · have plain : SameSubscriptions client { client with reconnectAttempt := 0 } := ⟨rfl, rfl, rfl⟩
      rw [settled]
      exact ⟨(sound.same plain).settle true entry active, (plain.marks.trans (settle_marks true _ entry active)).extends⟩

/-- A frame that is shown. -/
theorem onFrame_of_addressed {data : Bytes} {entry : Nat} {active : ActiveSubscription} (long : 10 ≤ data.length)
    (fits : data.length ≤ 6 + 2 * 1024 * 1024) (version : data.getD 0 0 = 1)
    (found : client.addressed? (data.getD 1 0).toNat (uint32At data 2) = some (entry, active))
    (isPicture : isJpeg (data.drop 6) = true) : .onFrame entry (data.drop 6) ∈ (client.onBinary data).2 := by
  have length : ¬(data.length < 10 ∨ 6 + 2 * 1024 * 1024 < data.length) := by omega
  rw [onBinary, if_neg length, if_neg (not_not.mpr version), found]
  dsimp only
  rw [isPicture, Bool.not_true, if_neg Bool.false_ne_true]
  exact List.mem_cons_self

end WallClient

/-! ## Reading a sync -/

open WallClient

/-- A stream of the server is the one that a subscription asked for. -/
structure Shows (active : ActiveSubscription) (stream : PreviewWallSubscription) : Prop where
  slot : active.input.slot = stream.slot
  subscriptionId : active.subscriptionId = stream.subscriptionId
  camera : UUID.parse active.input.cameraId.toList = some stream.cameraId
  mediaSession : UUID.parse active.input.mediaSessionId.toList = some stream.mediaSessionId

section Reading
variable {layout : PreviewGridSlots} {seen : List Nat} {active : ActiveSubscription} {stream : PreviewWallSubscription}

theorem requiredUuid_eq_ok {text name : String} {id : UUID} :
    requiredUuid (some (.str text)) name = .ok id ↔ UUID.parse text.toList = some id := by
  rw [requiredUuid]
  cases UUID.parse text.toList <;> simp

theorem parseStream_streamValue : parseStream layout seen (streamValue active) = .ok stream ↔
    active.input.slot ∉ seen ∧ active.input.slot < layout.count ∧ Shows active stream := by
  have slot : Value.field? [("slot", .int active.input.slot), ("subscription_id", .int active.subscriptionId),
      ("camera_id", .str active.input.cameraId), ("media_session_id", .str active.input.mediaSessionId)] "slot" =
      some (.int active.input.slot) := by simp [Value.field?, List.lookup]
  have id : Value.field? [("slot", .int active.input.slot), ("subscription_id", .int active.subscriptionId),
      ("camera_id", .str active.input.cameraId), ("media_session_id", .str active.input.mediaSessionId)] "subscription_id" =
      some (.int active.subscriptionId) := by simp [Value.field?, List.lookup]
  have camera : Value.field? [("slot", .int active.input.slot), ("subscription_id", .int active.subscriptionId),
      ("camera_id", .str active.input.cameraId), ("media_session_id", .str active.input.mediaSessionId)] "camera_id" =
      some (.str active.input.cameraId) := by simp [Value.field?, List.lookup]
  have media : Value.field? [("slot", .int active.input.slot), ("subscription_id", .int active.subscriptionId),
      ("camera_id", .str active.input.cameraId), ("media_session_id", .str active.input.mediaSessionId)] "media_session_id" =
      some (.str active.input.mediaSessionId) := by simp [Value.field?]
  rw [streamValue, parseStream, slot]
  constructor
  · intro parsed
    obtain ⟨read, isSlot, parsed⟩ := bind_eq_ok.mp parsed
    cases isSlot
    split at parsed
    · cases parsed
    · next inRange =>
      push Not at inRange
      obtain ⟨-, below, isNew⟩ := inRange
      rw [id] at parsed
      obtain ⟨number, isId, parsed⟩ := bind_eq_ok.mp parsed
      cases isId
      split at parsed
      · cases parsed
      · rw [camera, media] at parsed
        obtain ⟨cameraId, isCamera, parsed⟩ := bind_eq_ok.mp parsed
        obtain ⟨mediaId, isMedia, parsed⟩ := bind_eq_ok.mp parsed
        cases parsed
        exact ⟨isNew, by omega, rfl, rfl, requiredUuid_eq_ok.mp isCamera, requiredUuid_eq_ok.mp isMedia⟩
  · rintro ⟨isNew, below, shows⟩
    have inRange : ¬((active.input.slot : Int) < 0 ∨ (layout.count : Int) ≤ active.input.slot ∨
        (active.input.slot : Int).toNat ∈ seen) := by
      push Not
      exact ⟨by omega, by omega, isNew⟩
    have bound := stream.idBound
    have isUint32 : ¬((active.subscriptionId : Int) < 0 ∨ 0xFFFFFFFF < (active.subscriptionId : Int)) := by
      rw [shows.subscriptionId]
      omega
    refine bind_eq_ok.mpr ⟨_, rfl, ?_⟩
    rw [dif_neg inRange, id]
    refine bind_eq_ok.mpr ⟨_, rfl, ?_⟩
    rw [dif_neg isUint32, camera, media]
    refine bind_eq_ok.mpr ⟨_, requiredUuid_eq_ok.mpr shows.camera, bind_eq_ok.mpr ⟨_, requiredUuid_eq_ok.mpr shows.mediaSession, ?_⟩⟩
    obtain ⟨slot, subscriptionId, cameraId, mediaSessionId, _, _⟩ := stream
    obtain ⟨sameSlot, sameId, -, -⟩ := shows
    cases sameSlot
    cases sameId
    rfl

theorem parseStreams_streamValues {actives : List ActiveSubscription} :
    ∀ {seen : List Nat} {streams : List PreviewWallSubscription}, parseStreams layout seen (actives.map streamValue) = .ok streams ↔
      (actives.map (·.input.slot)).Nodup ∧ (∀ active ∈ actives, active.input.slot ∉ seen ∧ active.input.slot < layout.count) ∧
        List.Forall₂ Shows actives streams := by
  induction actives with
  | nil =>
    intro seen streams
    rw [List.map_nil, parseStreams, List.forall₂_nil_left_iff, Except.ok.injEq]
    simp [eq_comm]
  | cons active actives ih =>
    intro seen streams
    rw [List.map_cons, parseStreams]
    constructor
    · intro parsed
      obtain ⟨stream, first, parsed⟩ := bind_eq_ok.mp parsed
      obtain ⟨later, rest, parsed⟩ := bind_eq_ok.mp parsed
      cases parsed
      obtain ⟨isNew, below, shows⟩ := parseStream_streamValue.mp first
      obtain ⟨nodup, inRange, showLater⟩ := ih.mp rest
      refine ⟨List.nodup_cons.mpr ⟨fun member => ?_, nodup⟩, fun other member => ?_, .cons shows showLater⟩
      · obtain ⟨other, isLater, same⟩ := List.mem_map.mp member
        exact (inRange other isLater).1 (List.mem_cons.mpr (.inl (same.trans shows.slot)))
      · rcases List.mem_cons.mp member with rfl | isLater
        · exact ⟨isNew, below⟩
        · exact ⟨fun inSeen => (inRange other isLater).1 (List.mem_cons_of_mem _ inSeen), (inRange other isLater).2⟩
    · rintro ⟨nodup, inRange, shows⟩
      cases shows with
      | @cons _ stream _ later showsFirst showsLater =>
        obtain ⟨isFirst, nodup⟩ := List.nodup_cons.mp nodup
        obtain ⟨isNew, below⟩ := inRange active List.mem_cons_self
        refine bind_eq_ok.mpr ⟨stream, parseStream_streamValue.mpr ⟨isNew, below, showsFirst⟩, bind_eq_ok.mpr ⟨later, ?_, rfl⟩⟩
        refine ih.mpr ⟨nodup, fun other isLater => ⟨fun member => ?_, (inRange other (List.mem_cons_of_mem _ isLater)).2⟩, showsLater⟩
        rcases List.mem_cons.mp member with same | inSeen
        · exact isFirst (List.mem_map.mpr ⟨other, isLater, same.trans showsFirst.slot.symm⟩)
        · exact (inRange other (List.mem_cons_of_mem _ isLater)).1 inSeen

theorem length_le_of_slots {streams : List PreviewWallSubscription} (nodup : (streams.map PreviewWallSubscription.slot).Nodup) :
    streams.length ≤ 16 := by
  have subset : (streams.map PreviewWallSubscription.slot).toFinset ⊆ Finset.range 16 := by
    intro slot member
    obtain ⟨stream, -, rfl⟩ := List.mem_map.mp (List.mem_toFinset.mp member)
    exact Finset.mem_range.mpr stream.slotBound
  have card := (Finset.card_le_card subset).trans_eq (Finset.card_range 16)
  rwa [List.toFinset_card_of_nodup nodup, List.length_map] at card

theorem slots_of_shows {actives : List ActiveSubscription} {streams : List PreviewWallSubscription}
    (shows : List.Forall₂ Shows actives streams) : actives.map (·.input.slot) = streams.map PreviewWallSubscription.slot := by
  induction shows with
  | nil => rfl
  | cons first _ ih => rw [List.map_cons, List.map_cons, first.slot, ih]

theorem previewWallProfile_count (layout : PreviewGridSlots) : previewWallProfile layout.count = .ok layout := by
  cases layout <;> rfl

theorem parsePayload_syncValue {actives : List ActiveSubscription} {sync : PreviewWallSync} :
    parsePayload (syncValue layout actives) = .ok sync ↔ sync.layoutSlots = layout ∧ List.Forall₂ Shows actives sync.streams := by
  have type (streams : Value) : Value.field? [("type", .str "sync"), ("version", .int 1), ("layout_slots", .int layout.count),
      ("streams", streams)] "type" = some (.str "sync") := by simp [Value.field?, List.lookup]
  have version (streams : Value) : Value.field? [("type", .str "sync"), ("version", .int 1), ("layout_slots", .int layout.count),
      ("streams", streams)] "version" = some (.int 1) := by simp [Value.field?, List.lookup]
  have slots (streams : Value) : Value.field? [("type", .str "sync"), ("version", .int 1), ("layout_slots", .int layout.count),
      ("streams", streams)] "layout_slots" = some (.int layout.count) := by simp [Value.field?, List.lookup]
  have items (streams : Value) : Value.field? [("type", .str "sync"), ("version", .int 1), ("layout_slots", .int layout.count),
      ("streams", streams)] "streams" = some streams := by simp [Value.field?]
  have isSync : parsePayload.isSync (some (.str "sync")) = true := by simp [parsePayload.isSync]
  rw [syncValue, parsePayload, type, isSync, version, slots, items, if_neg (not_not.mpr rfl)]
  constructor
  · intro parsed
    obtain ⟨number, isVersion, parsed⟩ := bind_eq_ok.mp parsed
    cases isVersion
    rw [if_neg (not_not.mpr rfl)] at parsed
    obtain ⟨count, isCount, parsed⟩ := bind_eq_ok.mp parsed
    cases isCount
    obtain ⟨other, isLayout, parsed⟩ := bind_eq_ok.mp parsed
    rw [previewWallProfile_count] at isLayout
    cases isLayout
    dsimp only at parsed
    split at parsed
    · cases parsed
    · split at parsed
      · cases parsed
      · next streams read =>
        cases parsed
        exact ⟨rfl, (parseStreams_streamValues.mp read).2.2⟩
  · rintro ⟨rfl, shows⟩
    have nodup := sync.slotsNodup
    have few : ¬maxStreams < (actives.map streamValue).length := by
      rw [List.length_map, shows.length_eq]
      exact not_lt.mpr (length_le_of_slots nodup)
    have read : parseStreams sync.layoutSlots [] (actives.map streamValue) = .ok sync.streams := by
      refine parseStreams_streamValues.mpr ⟨slots_of_shows shows ▸ nodup, fun active member => ⟨List.not_mem_nil, ?_⟩, shows⟩
      have inSlots : active.input.slot ∈ sync.streams.map PreviewWallSubscription.slot :=
        slots_of_shows shows ▸ List.mem_map.mpr ⟨active, member, rfl⟩
      obtain ⟨stream, isStream, same⟩ := List.mem_map.mp inSlots
      exact same ▸ sync.slotsInRange stream isStream
    refine bind_eq_ok.mpr ⟨_, rfl, ?_⟩
    rw [if_neg (not_not.mpr rfl)]
    refine bind_eq_ok.mpr ⟨_, rfl, bind_eq_ok.mpr ⟨_, previewWallProfile_count _, ?_⟩⟩
    dsimp only
    rw [if_neg few]
    split
    · next failed => rw [read] at failed; cases failed
    · next streams found =>
      rw [read] at found
      cases found
      rfl

/-- The numbers of a sync can be read. -/
theorem plain_syncValue {actives : List ActiveSubscription} (small : ∀ active ∈ actives, active.subscriptionId < 2 ^ 32) :
    plain (syncValue layout actives) = true := by
  have bound (n : Nat) (isSmall : n < 2 ^ 53) : (0 ≤ (n : Int) && (n : Int).natAbs < 10 ^ maxStrDigits) = true := by
    have large : (2 : Nat) ^ 53 ≤ 10 ^ maxStrDigits := le_trans (by decide) (Nat.pow_le_pow_right (by decide) (show 16 ≤ maxStrDigits by decide))
    simp only [Bool.and_eq_true, decide_eq_true_eq, Int.natAbs_natCast]
    exact ⟨Int.natCast_nonneg n, isSmall.trans_le large⟩
  have streams : plainItems (actives.map streamValue) = true := by
    induction actives with
    | nil => rfl
    | cons active actives ih =>
      have number := (small active List.mem_cons_self).trans (by decide : 2 ^ 32 < 2 ^ 53)
      rw [List.map_cons, plainItems, ih fun other member => small other (List.mem_cons_of_mem _ member)]
      simp only [streamValue, plain, plainFields, bound _ active.input.isSafe, bound _ number, Bool.and_true]
  have count := (layout.count_le).trans_lt (by decide : 16 < 2 ^ 53)
  simp only [syncValue, plain, plainFields, streams, bound _ count, Bool.and_true, Bool.true_and]
  exact bound 1 (by decide)

/-- What the server makes of a sync. -/
theorem parse_syncText {actives : List ActiveSubscription} (small : ∀ active ∈ actives, active.subscriptionId < 2 ^ 32)
    {sync : PreviewWallSync} : parsePreviewWallSync (syncText layout actives) = .ok sync ↔
      (utf8 (syncText layout actives)).length ≤ maxSyncBytes ∧ sync.layoutSlots = layout ∧ List.Forall₂ Shows actives sync.streams := by
  rw [parsePreviewWallSync]
  split
  · next large => exact iff_of_false (fun failed => by cases failed) fun fits => absurd large (not_lt.mpr fits.1)
  · next fits =>
    have read : loads (syncText layout actives) = some (syncValue layout actives) := loads_write (plain_syncValue small)
    rw [read]
    dsimp only
    rw [parsePayload_syncValue, and_iff_right (not_lt.mp fits)]

end Reading

/-! ### How large a sync is -/

/-- A text as `str(uuid)` writes it. -/
def Canonical (text : String) : Prop := ∃ id : UUID, text.toList = id.str

theorem length_utf8_le (text : List Char) : (utf8 text).length ≤ 4 * text.length := by
  induction text with
  | nil => exact Nat.le_refl 0
  | cons c text ih =>
    have one : (String.utf8EncodeChar c).length ≤ 4 := (String.length_utf8EncodeChar c).trans_le c.utf8Size_le_four
    rw [utf8, List.flatMap_cons, List.length_append, List.length_cons]
    rw [utf8] at ih
    omega

theorem length_quoted_le (text : String) : (unicode.quoted text).length ≤ 6 * text.toList.length + 2 := by
  have escaped (c : Char) : (unicode.escape c).length ≤ 6 := by
    change (JsonText.escapeCharUtf8 c).length ≤ 6
    simp only [JsonText.escapeCharUtf8]
    split_ifs <;> simp [JsonText.unitEscape]
  have body (chars : List Char) : (chars.flatMap unicode.escape).length ≤ 6 * chars.length := by
    induction chars with
    | nil => exact Nat.le_refl 0
    | cons c chars ih =>
      have one := escaped c
      rw [List.flatMap_cons, List.length_append, List.length_cons]
      omega
  have whole := body text.toList
  simp only [JsonText.Escaping.quoted, List.length_append, List.length_cons, List.length_nil]
  omega

theorem length_canonical {text : String} (canonical : Canonical text) : text.toList.length = 36 := by
  obtain ⟨id, same⟩ := canonical
  simp [same, UUID.str, UUID.length_hexDigits]

theorem length_number_le {n : Nat} (small : n < 10 ^ 16) : (write unicode (.int n)).length ≤ 16 := by
  have length := (Nat.length_repr_le_iff (show 0 < 16 by decide)).mpr small
  rw [write]
  exact length

theorem length_stream_le {active : ActiveSubscription} (small : active.subscriptionId < 2 ^ 32)
    (camera : Canonical active.input.cameraId) (media : Canonical active.input.mediaSessionId) :
    (write unicode (streamValue active)).length ≤ 900 := by
  have slot := length_number_le (active.input.isSafe.trans (by decide : 2 ^ 53 < 10 ^ 16))
  have id := length_number_le (small.trans (by decide : 2 ^ 32 < 10 ^ 16))
  have cameraLength := length_quoted_le active.input.cameraId
  have mediaLength := length_quoted_le active.input.mediaSessionId
  rw [length_canonical camera] at cameraLength
  rw [length_canonical media] at mediaLength
  have slotKey : (unicode.quoted "slot").length ≤ 98 := (length_quoted_le "slot").trans (by simp)
  have idKey : (unicode.quoted "subscription_id").length ≤ 98 := (length_quoted_le "subscription_id").trans (by simp)
  have cameraKey : (unicode.quoted "camera_id").length ≤ 98 := (length_quoted_le "camera_id").trans (by simp)
  have mediaKey : (unicode.quoted "media_session_id").length ≤ 98 := (length_quoted_le "media_session_id").trans (by simp)
  rw [streamValue]
  simp only [write, JsonText.writeFields, List.length_append, List.length_cons, List.length_nil] at slot id ⊢
  omega

theorem length_streams_le {actives : List ActiveSubscription} (small : ∀ active ∈ actives, active.subscriptionId < 2 ^ 32)
    (canonical : ∀ active ∈ actives, Canonical active.input.cameraId ∧ Canonical active.input.mediaSessionId) :
    (JsonText.writeItems unicode (actives.map streamValue)).length ≤ 901 * actives.length := by
  induction actives with
  | nil => exact Nat.le_refl 0
  | cons active actives ih =>
    have first := length_stream_le (small active List.mem_cons_self) (canonical active List.mem_cons_self).1
      (canonical active List.mem_cons_self).2
    have later := ih (fun other member => small other (List.mem_cons_of_mem _ member)) fun other member =>
      canonical other (List.mem_cons_of_mem _ member)
    cases actives with
    | nil =>
      rw [List.map_singleton, JsonText.writeItems, List.length_singleton]
      omega
    | cons next actives =>
      rw [List.map_cons] at later
      rw [List.map_cons, List.map_cons, JsonText.writeItems, List.length_append, List.length_cons, List.length_cons]
      · omega
      · simp

/-- A sync of a full wall of UUIDs is not too large. -/
theorem syncText_fits {layout : PreviewGridSlots} {actives : List ActiveSubscription}
    (small : ∀ active ∈ actives, active.subscriptionId < 2 ^ 32)
    (canonical : ∀ active ∈ actives, Canonical active.input.cameraId ∧ Canonical active.input.mediaSessionId)
    (few : actives.length ≤ 16) : (utf8 (syncText layout actives)).length ≤ maxSyncBytes := by
  have streams := length_streams_le small canonical
  have slots := length_number_le (layout.count_le.trans_lt (by decide : 16 < 10 ^ 16))
  have version : (write unicode (.int 1)).length ≤ 16 := @length_number_le 1 (by decide)
  have typeKey : (unicode.quoted "type").length ≤ 74 := (length_quoted_le "type").trans (by simp)
  have sync : (unicode.quoted "sync").length ≤ 74 := (length_quoted_le "sync").trans (by simp)
  have versionKey : (unicode.quoted "version").length ≤ 74 := (length_quoted_le "version").trans (by simp)
  have slotsKey : (unicode.quoted "layout_slots").length ≤ 74 := (length_quoted_le "layout_slots").trans (by simp)
  have streamsKey : (unicode.quoted "streams").length ≤ 74 := (length_quoted_le "streams").trans (by simp)
  refine (length_utf8_le _).trans ?_
  rw [syncText, syncValue, maxSyncBytes]
  simp only [write, JsonText.writeFields, List.length_append, List.length_cons, List.length_nil] at slots version ⊢
  omega

/-! ## The streams of a client -/

namespace WallClient

variable {seed : UInt32} {client : WallClient}

theorem filterMap_values {entries : List (Nat × Nat)} (placed : ∀ pair ∈ entries,
    ∃ active : ActiveSubscription, client.active[pair.2]? = some active ∧ active.input.slot = pair.1 ∧ active.closed = false) :
    (entries.filterMap fun pair => client.active[pair.2]?.map fun active => (pair.2, active)).map (·.2.input.slot) =
        entries.map Prod.fst ∧
      ∀ entry ∈ entries.filterMap fun pair => client.active[pair.2]?.map fun active => (pair.2, active),
        client.active[entry.1]? = some entry.2 ∧ entry.2.closed = false ∧ (entry.2.input.slot, entry.1) ∈ entries := by
  induction entries with
  | nil => exact ⟨rfl, fun entry member => absurd member List.not_mem_nil⟩
  | cons pair entries ih =>
    obtain ⟨active, known, ofSlot, isOpen⟩ := placed pair List.mem_cons_self
    obtain ⟨slots, every⟩ := ih fun other member => placed other (List.mem_cons_of_mem _ member)
    rw [List.filterMap_cons, known, Option.map_some]
    refine ⟨by rw [List.map_cons, List.map_cons, slots, ofSlot], fun entry member => ?_⟩
    rcases List.mem_cons.mp member with rfl | isLater
    · exact ⟨known, isOpen, List.mem_cons.mpr (.inl (by rw [ofSlot]))⟩
    · obtain ⟨knownLater, openLater, inEntries⟩ := every entry isLater
      exact ⟨knownLater, openLater, List.mem_cons_of_mem _ inEntries⟩

theorem placed_entries (placed : client.Placed) : ∀ pair ∈ client.subscriptions.entries,
    ∃ active : ActiveSubscription, client.active[pair.2]? = some active ∧ active.input.slot = pair.1 ∧ active.closed = false :=
  fun pair member => placed pair.1 pair.2 (OrderedDict.get?_eq_some_iff.mpr member)

/-- No subscription in the map is closed. -/
theorem live_eq (placed : client.Placed) : client.live = client.values := by
  refine List.filter_eq_self.mpr fun entry member => ?_
  rw [((filterMap_values (placed_entries placed)).2 entry member).2.1]
  rfl

theorem mem_streams (placed : client.Placed) {active : ActiveSubscription} (member : active ∈ client.streams) :
    ∃ entry, client.subscriptions.get? active.input.slot = some entry ∧ client.active[entry]? = some active := by
  rw [streams, live_eq placed] at member
  obtain ⟨entry, isValue, rfl⟩ := List.mem_map.mp ((List.perm_insertionSort _ _).subset member)
  obtain ⟨known, -, inEntries⟩ := (filterMap_values (placed_entries placed)).2 entry isValue
  exact ⟨entry.1, OrderedDict.get?_eq_some_iff.mpr inEntries, known⟩

theorem streams_small (sound : client.Sound seed) : ∀ active ∈ client.streams, active.subscriptionId < 2 ^ 32 := by
  intro active member
  obtain ⟨entry, -, known⟩ := mem_streams sound.placed member
  rw [sound.numbered.numbered entry active known]
  exact Nat.mod_lt _ (by decide)

/-- Nothing is sent to the server and no frame is shown. -/
def Silent (effects : List ClientEffect) : Prop :=
  (∀ socket text, .sent socket text ∉ effects) ∧ ∀ entry jpeg, .onFrame entry jpeg ∉ effects

theorem silent_nil : Silent [] := ⟨fun _ _ => List.not_mem_nil, fun _ _ => List.not_mem_nil⟩

theorem Silent.append {first second : List ClientEffect} (silentFirst : Silent first) (silentSecond : Silent second) :
    Silent (first ++ second) :=
  ⟨fun socket text member => (List.mem_append.mp member).elim (silentFirst.1 socket text) (silentSecond.1 socket text),
    fun entry jpeg member => (List.mem_append.mp member).elim (silentFirst.2 entry jpeg) (silentSecond.2 entry jpeg)⟩

theorem silent_map {α : Type} {items : List α} {effect : α → ClientEffect}
    (other : ∀ item, (∀ socket text, effect item ≠ .sent socket text) ∧ ∀ entry jpeg, effect item ≠ .onFrame entry jpeg) :
    Silent (items.map effect) := by
  refine ⟨fun socket text member => ?_, fun entry jpeg member => ?_⟩
  · obtain ⟨item, -, same⟩ := List.mem_map.mp member
    exact (other item).1 socket text same
  · obtain ⟨item, -, same⟩ := List.mem_map.mp member
    exact (other item).2 entry jpeg same

theorem silent_singleton {effect : ClientEffect} (other : (∀ socket text, effect ≠ .sent socket text) ∧
    ∀ entry jpeg, effect ≠ .onFrame entry jpeg) : Silent [effect] := @silent_map Unit [()] (fun _ => effect) fun _ => other

theorem settle_silent (shown : Bool) (client : WallClient) (entry : Nat) (active : ActiveSubscription) :
    Silent (client.settle shown entry active).2 := by
  rw [settle]
  split
  · exact silent_nil
  · exact silent_singleton ⟨by simp, by simp⟩

theorem retireAll_silent (entries : List (Nat × ActiveSubscription)) : ∀ client : WallClient, Silent (retireAll entries client).2 := by
  induction entries with
  | nil => exact fun _ => silent_nil
  | cons first rest ih => exact fun client => (settle_silent false _ first.1 first.2).append (ih _)

theorem detachAndCloseSocket_silent (client : WallClient) : Silent client.detachAndCloseSocket.2 := by
  rw [detachAndCloseSocket]
  split
  · exact silent_nil
  · dsimp only
    split
    · exact silent_nil
    · exact silent_singleton ⟨by simp, by simp⟩

theorem ensureSocket_silent (client : WallClient) : Silent client.ensureSocket.2 := by
  rw [ensureSocket]
  split
  · exact silent_nil
  · exact silent_singleton ⟨by simp, by simp⟩

theorem updateConnection_silent (client : WallClient) : Silent client.updateConnection.2 := by
  rw [updateConnection]
  split
  · exact detachAndCloseSocket_silent _
  · exact ensureSocket_silent client

theorem scheduleReconnect_silent (client : WallClient) : Silent client.scheduleReconnect.2 := by
  rw [scheduleReconnect]
  split
  · exact silent_nil
  · exact silent_map fun _ => ⟨by simp, by simp⟩

theorem onText_silent (client : WallClient) (data : List Char) : Silent (client.onText data).2 := by
  rw [onText]
  split
  · dsimp only
    split
    · exact silent_map fun _ => ⟨by simp, by simp⟩
    · split
      · exact silent_nil
      · split
        · split
          · exact silent_nil
          · split
            · exact silent_singleton ⟨by simp, by simp⟩
            · exact (settle_silent false _ _ _).append (silent_singleton ⟨by simp, by simp⟩)
        · exact silent_nil
  · exact silent_nil

/-- The microtask is the one step that sends, and a frame is shown where one arrives. -/
theorem step_effects {action : ClientAction} {after : WallClient × List ClientEffect} (step : ClientStep client action after) :
    Silent after.2 ∨ (action = .runSync ∧ after.2 = client.sendSync) ∨
      ∃ socket data, action = .onBinary socket data ∧ after = client.onBinary data ∧ client.isCurrent socket = true := by
  cases step with
  | setLayout slots =>
    refine .inl ?_
    rw [setLayout]
    split
    · exact silent_nil
    · exact updateConnection_silent _
  | subscribe input =>
    refine .inl ?_
    rw [subscribe]
    refine Silent.append ?_ (updateConnection_silent _)
    split
    · exact silent_nil
    · exact settle_silent false _ _ _
  | closeSubscription entry =>
    refine .inl ?_
    rw [closeSubscription]
    split
    · exact silent_nil
    · split
      · exact silent_nil
      · exact (settle_silent false _ _ _).append (updateConnection_silent _)
  | close =>
    refine .inl ?_
    rw [close]
    split
    · exact silent_nil
    · exact (retireAll_silent _ _).append (detachAndCloseSocket_silent _)
  | runSync scheduled => exact .inr (.inl ⟨rfl, rfl⟩)
  | reconnect timer => exact .inl (ensureSocket_silent _)
  | onopen socket => exact .inl silent_nil
  | socketCloses socket => exact .inl silent_nil
  | onclose socket =>
    refine .inl ?_
    rw [onclose]
    split
    · split
      · exact scheduleReconnect_silent _
      · exact silent_nil
    · exact silent_nil
  | onText data current => exact .inl (onText_silent client data)
  | @onBinary socket data current => exact .inr (.inr ⟨socket, data, rfl, rfl, current⟩)

theorem mem_sendSync {socket : Nat} {text : List Char} (member : .sent socket text ∈ client.sendSync) :
    ∃ layout, client.socket = some (socket, .isOpen) ∧ client.layout = some layout ∧ text = syncText layout client.streams := by
  rw [sendSync] at member
  split at member
  · next current layout isOpen isLayout =>
    cases List.mem_singleton.mp member
    exact ⟨layout, isOpen, isLayout, rfl⟩
  · cases member

end WallClient

end ZeroNvr.PreviewWall
