import ZeroNvr.Lib.Run
import ZeroNvr.Cameras.PreviewWallSession

/-! # What a preview wall sends

Whatever the order of the syncs, the tasks, the revocations and the sender: the frames
of a slot are sent in the order they were produced, each at most once, and the frame
that is next is the newest one of the entry its slot has now.
-/

namespace ZeroNvr.PreviewWall

open Lib PreviewWallSession

/-! ## Entries -/

namespace ActivePreview

/-- The task goes on. -/
structure Runs (entry : ActivePreview) : Prop where
  phase : entry.phase = .scheduled ∨ entry.phase = .opening ∨ entry.phase = .streaming
  goesOn : entry.cancelRequested = false

/-- What was closed and released of the preview, by where the task stands. -/
def Tidy (entry : ActivePreview) : Prop :=
  match entry.phase with
  | .scheduled | .opening => entry.opened = false ∧ entry.cleaned = false ∧ entry.closes = 0 ∧ entry.releases = 0
  | .streaming => entry.opened = true ∧ entry.cleaned = false ∧ entry.closes = 0 ∧ entry.releases = 0
  | .closing => entry.opened = true ∧ entry.cleaned = true ∧ entry.closes = 1 ∧ entry.releases = 0
  | .done =>
    (entry.opened = true → entry.cleaned = true) ∧ entry.closes = entry.opened.toNat ∧ entry.releases ≤ entry.opened.toNat

theorem tidy_new (subscription : PreviewWallSubscription) (profile : PreviewWallProfile) : (new subscription profile).Tidy :=
  ⟨rfl, rfl, rfl, rfl⟩

/-- The task cleans up after it ran. -/
theorem Tidy.cleanup {entry : ActivePreview} (tidy : entry.Tidy) (phase : entry.phase = .opening ∨ entry.phase = .streaming) :
    entry.cleanup.Tidy := by
  rcases phase with phase | phase
  · simp only [Tidy, phase] at tidy
    simp [ActivePreview.cleanup, Tidy, tidy]
  · simp only [Tidy, phase] at tidy
    simp [ActivePreview.cleanup, Tidy, tidy]

theorem Tidy.cleanupStopped {entry : ActivePreview} (tidy : entry.Tidy) (stopped : entry.phase = .done) :
    entry.cleanupStopped.Tidy := by
  simp only [Tidy, stopped] at tidy
  cases isCleaned : entry.cleaned with
  | true => simpa [ActivePreview.cleanupStopped, isCleaned, Tidy, stopped] using tidy
  | false =>
    have unopened : entry.opened = false := by simpa [isCleaned] using tidy.1
    simpa [ActivePreview.cleanupStopped, isCleaned, unopened, Tidy, stopped] using tidy.2

/-- A preview is closed after its task ran, and released after it was closed. -/
theorem Tidy.counts {entry : ActivePreview} (tidy : entry.Tidy) :
    entry.closes ≤ entry.opened.toNat ∧ entry.releases ≤ entry.closes ∧ (entry.Runs → entry.closes = 0) ∧
      (entry.phase = .done → entry.closes = entry.opened.toNat) := by
  cases phase : entry.phase with
  | scheduled | opening =>
    simp only [Tidy, phase] at tidy
    simp [tidy]
  | streaming =>
    simp only [Tidy, phase] at tidy
    simp [tidy]
  | closing =>
    simp only [Tidy, phase] at tidy
    refine ⟨by simp [tidy], by simp [tidy], fun runs => ?_, fun done => by cases done⟩
    exact absurd runs.phase (by rw [phase]; decide)
  | done =>
    simp only [Tidy, phase] at tidy
    refine ⟨tidy.2.1.le, tidy.2.2.trans tidy.2.1.ge, fun runs => ?_, fun _ => tidy.2.1⟩
    exact absurd runs.phase (by rw [phase]; decide)

end ActivePreview

/-! ## The session -/

namespace PreviewWallSession

/-- An entry has its slot's name, runs, and is the one whose frame waits; the slots that are
    ready are those with a frame. -/
structure Sound (session : PreviewWallSession) : Prop where
  current : ∀ slot id, session.entries.get? slot = some id →
    ∃ entry : ActivePreview, session.previews[id]? = some entry ∧ entry.subscription.slot = slot ∧ entry.Runs
  readyNodup : session.readySlots.Nodup
  readySet : ∀ slot, slot ∈ session.readySet ↔ slot ∈ session.readySlots
  pending : ∀ slot, slot ∈ session.readySlots ↔ (session.latestFrames.get? slot).isSome
  fresh : ∀ slot pending, session.latestFrames.get? slot = some pending →
    ∃ (id : Nat) (entry : ActivePreview), session.entries.get? slot = some id ∧ session.previews[id]? = some entry ∧ entry.subscription = pending.1
  tidy : ∀ (id : Nat) (entry : ActivePreview), session.previews[id]? = some entry → entry.Tidy

theorem sound_new : new.Sound where
  current slot id found := by cases found
  readyNodup := List.nodup_nil
  readySet slot := by simp [new]
  pending slot := by simp [new]
  fresh slot pending found := by cases found
  tidy id entry found := by simp [new] at found

theorem previews_modify (session : PreviewWallSession) (id other : Nat) (change : ActivePreview → ActivePreview) :
    (session.modify id change).previews[other]? = session.previews[other]?.map fun entry => if id = other then change entry else entry := by
  simp [modify, List.getElem?_modify]

theorem previews_modify_self {session : PreviewWallSession} {id : Nat} {entry : ActivePreview}
    (known : session.previews[id]? = some entry) (change : ActivePreview → ActivePreview) :
    (session.modify id change).previews[id]? = some (change entry) := by
  simp [previews_modify, known]

/-- A change of one entry that keeps its subscription, and keeps it running while it is current. -/
theorem Sound.modify {session : PreviewWallSession} (sound : session.Sound) {id : Nat} {change : ActivePreview → ActivePreview}
    (subscription : ∀ entry, (change entry).subscription = entry.subscription)
    (runs : ∀ entry, session.previews[id]? = some entry → session.entries.get? entry.subscription.slot = some id →
      (change entry).Runs)
    (tidy : ∀ entry, session.previews[id]? = some entry → entry.Tidy → (change entry).Tidy) :
    (session.modify id change).Sound where
  current slot other found := by
    obtain ⟨entry, known, ofSlot, isRunning⟩ := sound.current slot other found
    rw [previews_modify, known]
    refine ⟨_, rfl, ?_⟩
    split
    · next same =>
      subst same
      exact ⟨(congrArg _ (subscription entry)).trans ofSlot, runs entry known (ofSlot ▸ found)⟩
    · exact ⟨ofSlot, isRunning⟩
  readyNodup := sound.readyNodup
  readySet := sound.readySet
  pending := sound.pending
  fresh slot pending found := by
    obtain ⟨other, entry, isEntry, known, same⟩ := sound.fresh slot pending found
    refine ⟨other, _, isEntry, (previews_modify ..).trans (congrArg _ known), ?_⟩
    dsimp only
    split
    · exact (subscription entry).trans same
    · exact same
  tidy other entry found := by
    rw [previews_modify] at found
    obtain ⟨before, known, rfl⟩ := Option.map_eq_some_iff.mp found
    split
    · next same =>
      subst same
      exact tidy before known (sound.tidy _ _ known)
    · exact sound.tidy _ _ known

theorem Sound.queueEvent {session : PreviewWallSession} (sound : session.Sound) (event : WallEvent) :
    (session.queueEvent event).Sound := by
  rw [PreviewWallSession.queueEvent]
  split
  · exact sound
  · exact { sound with }

/-- Discarding what waits for a slot, whether something does or not. -/
theorem discardPending_eq {session : PreviewWallSession}
    (readySet : ∀ slot, slot ∈ session.readySet ↔ slot ∈ session.readySlots) (slot : Nat) :
    session.discardPending slot =
      { session with
        latestFrames := session.latestFrames.pop slot, readySet := session.readySet.erase slot,
        readySlots := session.readySlots.filter (· ≠ slot) } := by
  rw [discardPending]
  dsimp only
  split
  · rfl
  · next absent =>
    rw [Finset.erase_eq_of_notMem absent, List.filter_eq_self.mpr]
    intro other member
    rw [decide_eq_true_eq]
    rintro rfl
    exact absent ((readySet other).mpr member)

theorem popEntry_eq {session : PreviewWallSession} (sound : session.Sound) (slot : Nat) :
    session.popEntry slot =
      { session with
        entries := session.entries.pop slot, latestFrames := session.latestFrames.pop slot,
        readySet := session.readySet.erase slot, readySlots := session.readySlots.filter (· ≠ slot) } :=
  @discardPending_eq { session with entries := session.entries.pop slot } sound.readySet slot

theorem Sound.popEntry {session : PreviewWallSession} (sound : session.Sound) (slot : Nat) : (session.popEntry slot).Sound := by
  rw [popEntry_eq sound]
  exact {
    current := fun other id found => sound.current other id (OrderedDict.get?_pop_eq_some_iff.mp found).2
    readyNodup := sound.readyNodup.filter _
    readySet := fun other => by
      rw [Finset.mem_erase, sound.readySet, List.mem_filter, decide_eq_true_eq, and_comm]
    pending := fun other => by
      rw [List.mem_filter, decide_eq_true_eq, sound.pending]
      by_cases same : other = slot
      · simp [same]
      · simp [same, OrderedDict.get?_pop_of_ne]
    fresh := fun other pending found => by
      obtain ⟨differs, found⟩ := OrderedDict.get?_pop_eq_some_iff.mp found
      obtain ⟨id, entry, isEntry, rest⟩ := sound.fresh other pending found
      exact ⟨id, entry, OrderedDict.get?_pop_eq_some_iff.mpr ⟨differs, isEntry⟩, rest⟩
    tidy := sound.tidy }

/-! ## What an operation leaves alone -/

/-- No frame becomes pending, and a sender that waits is woken for a new message. -/
structure Quiet (before after : PreviewWallSession) : Prop where
  latest : ∀ slot pending, after.latestFrames.get? slot = some pending → before.latestFrames.get? slot = some pending
  ready : after.readySlots.Sublist before.readySlots
  wake : after.wake = true ∨ (after.wake = before.wake ∧ after.control = before.control)
  last : after.lastMessageWasControl = before.lastMessageWasControl
  desired : after.desired = before.desired
  closed : after.closed = before.closed

/-- No entry becomes current, and entries keep what they show. -/
structure Shrinks (before after : PreviewWallSession) : Prop extends Quiet before after where
  entries : ∀ slot id, after.entries.get? slot = some id → before.entries.get? slot = some id
  previews : ∀ id : Nat,
    after.previews[id]?.map ActivePreview.subscription = before.previews[id]?.map ActivePreview.subscription

theorem Quiet.refl (session : PreviewWallSession) : Quiet session session where
  latest _ _ found := found
  ready := .refl _
  wake := .inr ⟨rfl, rfl⟩
  last := rfl
  desired := rfl
  closed := rfl

theorem Quiet.trans {first second third : PreviewWallSession} (early : Quiet first second) (late : Quiet second third) :
    Quiet first third where
  latest slot pending found := early.latest slot pending (late.latest slot pending found)
  ready := late.ready.trans early.ready
  wake := by
    rcases late.wake with woken | ⟨sameWake, sameControl⟩
    · exact .inl woken
    · exact early.wake.imp sameWake.trans fun same => ⟨sameWake.trans same.1, sameControl.trans same.2⟩
  last := late.last.trans early.last
  desired := late.desired.trans early.desired
  closed := late.closed.trans early.closed

theorem Shrinks.refl (session : PreviewWallSession) : Shrinks session session where
  toQuiet := .refl session
  entries _ _ found := found
  previews _ := rfl

theorem Shrinks.trans {first second third : PreviewWallSession} (early : Shrinks first second) (late : Shrinks second third) :
    Shrinks first third where
  toQuiet := early.toQuiet.trans late.toQuiet
  entries slot id found := early.entries slot id (late.entries slot id found)
  previews id := (late.previews id).trans (early.previews id)

theorem queueEvent_shrinks (session : PreviewWallSession) (event : WallEvent) : Shrinks session (session.queueEvent event) := by
  rw [queueEvent]
  split
  · exact .refl session
  · exact { Shrinks.refl session with wake := .inl rfl }

theorem modify_shrinks (session : PreviewWallSession) (id : Nat) {change : ActivePreview → ActivePreview}
    (subscription : ∀ entry, (change entry).subscription = entry.subscription) : Shrinks session (session.modify id change) where
  latest _ _ found := found
  ready := .refl _
  wake := .inr ⟨rfl, rfl⟩
  last := rfl
  desired := rfl
  closed := rfl
  entries _ _ found := found
  previews other := by
    rw [previews_modify, Option.map_map]
    refine Option.map_congr fun entry _ => ?_
    dsimp only [Function.comp]
    split
    · exact subscription entry
    · rfl

theorem popEntry_shrinks {session : PreviewWallSession} (sound : session.Sound) (slot : Nat) :
    Shrinks session (session.popEntry slot) := by
  rw [popEntry_eq sound]
  exact {
    latest := fun other pending found => (OrderedDict.get?_pop_eq_some_iff.mp found).2
    ready := List.filter_sublist
    wake := .inr ⟨rfl, rfl⟩
    last := rfl
    desired := rfl
    closed := rfl
    entries := fun other id found => (OrderedDict.get?_pop_eq_some_iff.mp found).2
    previews := fun _ => rfl }

/-! ## The tasks of the entries -/

theorem queueEvent_entries (session : PreviewWallSession) (event : WallEvent) :
    (session.queueEvent event).entries = session.entries := by
  rw [queueEvent]
  split <;> rfl

theorem queueEvent_previews (session : PreviewWallSession) (event : WallEvent) :
    (session.queueEvent event).previews = session.previews := by
  rw [queueEvent]
  split <;> rfl

theorem not_current_popEntry {session : PreviewWallSession} (sound : session.Sound) (slot id : Nat) :
    (session.popEntry slot).entries.get? slot ≠ some id := by
  rw [popEntry_eq sound]
  simp

/-- A step that sends nothing lets slots go or adds them behind the others. -/
def KeepsTurn (before after : PreviewWallSession) : Prop :=
  after.lastMessageWasControl = before.lastMessageWasControl ∧
    (after.readySlots.Sublist before.readySlots ∨ ∃ later, after.readySlots = before.readySlots ++ later)

theorem Quiet.keepsTurn {before after : PreviewWallSession} (quiet : Quiet before after) : KeepsTurn before after :=
  ⟨quiet.last, .inl quiet.ready⟩

/-! ### Entries that left their slot -/

end PreviewWallSession

/-- The task was told to stop, cleans up, or is done. -/
def ActivePreview.Stops (entry : ActivePreview) : Prop :=
  entry.cancelRequested = true ∨ entry.phase = .closing ∨ entry.phase = .done

theorem ActivePreview.cleanup_stops (entry : ActivePreview) : entry.cleanup.Stops := by
  rw [cleanup]
  split
  · exact .inr (.inr rfl)
  · split
    · exact .inr (.inl rfl)
    · exact .inr (.inr rfl)

namespace PreviewWallSession

/-- The task of an entry that is in no slot stops, but for these. -/
def Tracked (session : PreviewWallSession) (listed : List Nat) : Prop :=
  ∀ (id : Nat) (entry : ActivePreview), session.previews[id]? = some entry →
    session.entries.get? entry.subscription.slot = some id ∨ entry.Stops ∨ id ∈ listed

theorem Tracked.more {session : PreviewWallSession} {listed : List Nat} (tracked : session.Tracked listed) (id : Nat) :
    session.Tracked (id :: listed) := fun other entry known =>
  (tracked other entry known).imp_right (.imp_right (List.mem_cons_of_mem _))

theorem Tracked.congr {before after : PreviewWallSession} {listed : List Nat} (tracked : before.Tracked listed)
    (entries : after.entries = before.entries) (previews : after.previews = before.previews) : after.Tracked listed := by
  rw [Tracked, entries, previews]
  exact tracked

theorem Tracked.popEntry {session : PreviewWallSession} (sound : session.Sound) {slot id : Nat} {listed : List Nat}
    (tracked : session.Tracked (id :: listed)) (found : ∀ other, session.entries.get? slot = some other → other = id) :
    (session.popEntry slot).Tracked (id :: listed) := by
  rw [popEntry_eq sound]
  intro other entry known
  rcases tracked other entry known with current | stops | isListed
  · by_cases same : entry.subscription.slot = slot
    · exact .inr (.inr (List.mem_cons.mpr (.inl (found other (same ▸ current)))))
    · exact .inl (OrderedDict.get?_pop_eq_some_iff.mpr ⟨same, current⟩)
  · exact .inr (.inl stops)
  · exact .inr (.inr isListed)

/-- A change of an entry that is listed. -/
theorem Tracked.change {session : PreviewWallSession} {id : Nat} {listed : List Nat} (tracked : session.Tracked (id :: listed))
    (change : ActivePreview → ActivePreview) : (session.modify id change).Tracked (id :: listed) := by
  intro other entry known
  rw [previews_modify] at known
  obtain ⟨earlier, knownEarlier, rfl⟩ := Option.map_eq_some_iff.mp known
  split
  · next same => exact .inr (.inr (List.mem_cons.mpr (.inl same.symm)))
  · exact tracked other earlier knownEarlier

/-- A change after which the task stops. -/
theorem Tracked.stop {session : PreviewWallSession} {id : Nat} {listed : List Nat} (tracked : session.Tracked (id :: listed))
    {change : ActivePreview → ActivePreview} (stops : ∀ entry, session.previews[id]? = some entry → (change entry).Stops) :
    (session.modify id change).Tracked listed := by
  intro other entry known
  rw [previews_modify] at known
  obtain ⟨earlier, knownEarlier, rfl⟩ := Option.map_eq_some_iff.mp known
  split
  · next same =>
    subst same
    exact .inr (.inl (stops earlier knownEarlier))
  · next isOther =>
    refine (tracked other earlier knownEarlier).imp_right (.imp_right fun isListed => ?_)
    exact (List.mem_cons.mp isListed).resolve_left (Ne.symm isOther)

/-- A change of a task that is current or goes on stopping. -/
theorem Tracked.modify {session : PreviewWallSession} {id : Nat} {listed : List Nat} (tracked : session.Tracked listed)
    {change : ActivePreview → ActivePreview} (subscription : ∀ entry, (change entry).subscription = entry.subscription)
    (stops : ∀ entry, session.previews[id]? = some entry → entry.Stops → (change entry).Stops) :
    (session.modify id change).Tracked listed := by
  intro other entry known
  rw [previews_modify] at known
  obtain ⟨earlier, knownEarlier, rfl⟩ := Option.map_eq_some_iff.mp known
  split
  · next same =>
    subst same
    rw [subscription]
    exact (tracked id earlier knownEarlier).imp_right (.imp_left (stops earlier knownEarlier))
  · exact tracked other earlier knownEarlier

/-! ### What the steps of a task come to -/

/-- The end of a task: it leaves its slot, and cleans up. -/
theorem finish_eq {session : PreviewWallSession} (sound : session.Sound) (id : Nat) (entry : ActivePreview)
    (endedNormally : Bool) :
    ∃ left, session.finish id entry endedNormally = left.modify id ActivePreview.cleanup ∧ left.Sound ∧
      Shrinks session left ∧ left.previews = session.previews ∧ left.entries.get? entry.subscription.slot ≠ some id ∧
      ∀ listed, session.Tracked (id :: listed) → left.Tracked (id :: listed) := by
  have announced : ∃ told : PreviewWallSession, told.Sound ∧ Shrinks session told ∧ told.previews = session.previews ∧
      told.entries = session.entries ∧ session.finish id entry endedNormally =
        (if told.isCurrent id entry then told.popEntry entry.subscription.slot else told).modify id ActivePreview.cleanup := by
    cases announces : endedNormally && session.isCurrent id entry with
    | true =>
      exact ⟨session.queueEvent (endedEvent entry.subscription), sound.queueEvent _, queueEvent_shrinks _ _,
        queueEvent_previews _ _, queueEvent_entries _ _, by simp only [finish, announces, if_true]⟩
    | false => exact ⟨session, sound, .refl _, rfl, rfl, by simp only [finish, announces, Bool.false_eq_true, if_false]⟩
  obtain ⟨told, soundTold, shrinks, previews, entries, same⟩ := announced
  rw [same]
  cases isCurrent : told.isCurrent id entry with
  | true =>
    rw [if_pos rfl]
    refine ⟨_, rfl, soundTold.popEntry _, shrinks.trans (popEntry_shrinks soundTold _), ?_, ?_, fun listed tracked => ?_⟩
    · rw [popEntry_eq soundTold]
      exact previews
    · rw [popEntry_eq soundTold]
      simp
    · refine (tracked.congr entries previews).popEntry soundTold fun other found => ?_
      have current := of_decide_eq_true isCurrent
      exact Option.some.inj (found.symm.trans current)
  | false =>
    rw [if_neg Bool.false_ne_true]
    exact ⟨told, rfl, soundTold, shrinks, previews, of_decide_eq_false isCurrent,
      fun listed tracked => tracked.congr entries previews⟩

section Tasks
variable {session : PreviewWallSession} {id : Nat} {entry : ActivePreview}

theorem cleanup_subscription (entry : ActivePreview) : entry.cleanup.subscription = entry.subscription := by
  rw [ActivePreview.cleanup]
  split
  · rfl
  · split <;> rfl

theorem finish_sound (sound : session.Sound) (known : session.previews[id]? = some entry)
    (phase : entry.phase = .opening ∨ entry.phase = .streaming) (endedNormally : Bool) :
    (session.finish id entry endedNormally).Sound := by
  obtain ⟨left, same, soundLeft, -, previews, notCurrent, -⟩ := finish_eq sound id entry endedNormally
  rw [same]
  refine soundLeft.modify cleanup_subscription (fun other knownOther current => ?_) fun other knownOther tidy => ?_
  · rw [previews, known, Option.some.injEq] at knownOther
    subst knownOther
    exact absurd current notCurrent
  · rw [previews, known, Option.some.injEq] at knownOther
    subst knownOther
    exact tidy.cleanup phase

theorem finish_shrinks (sound : session.Sound) (id : Nat) (entry : ActivePreview) (endedNormally : Bool) :
    Shrinks session (session.finish id entry endedNormally) := by
  obtain ⟨left, same, -, shrinks, -, -, -⟩ := finish_eq sound id entry endedNormally
  rw [same]
  exact shrinks.trans (modify_shrinks left id cleanup_subscription)

theorem finish_tracked (sound : session.Sound) (id : Nat) (entry : ActivePreview) (endedNormally : Bool) {listed : List Nat}
    (tracked : session.Tracked (id :: listed)) : (session.finish id entry endedNormally).Tracked listed := by
  obtain ⟨left, same, -, -, -, -, leaves⟩ := finish_eq sound id entry endedNormally
  rw [same]
  exact (leaves listed tracked).stop fun other _ => other.cleanup_stops

/-- A task that raised is one that ends, after the event. -/
theorem sourceFailed_eq (sound : session.Sound) (id : Nat) (entry : ActivePreview) (code message : String) :
    ∃ told : PreviewWallSession, session.sourceFailed id entry code message = told.finish id entry false ∧ told.Sound ∧
      Shrinks session told ∧ told.previews = session.previews ∧ told.entries = session.entries := by
  cases isCurrent : session.isCurrent id entry with
  | true =>
    exact ⟨session.queueEvent _, by simp only [sourceFailed, isCurrent, if_true]; rfl, sound.queueEvent _,
      queueEvent_shrinks _ _, queueEvent_previews _ _, queueEvent_entries _ _⟩
  | false =>
    exact ⟨session, by simp only [sourceFailed, isCurrent, Bool.false_eq_true, if_false], sound, .refl _, rfl, rfl⟩

theorem sourceFailed_sound (sound : session.Sound) (known : session.previews[id]? = some entry)
    (phase : entry.phase = .opening ∨ entry.phase = .streaming) (code message : String) :
    (session.sourceFailed id entry code message).Sound := by
  obtain ⟨told, same, soundTold, -, previews, -⟩ := sourceFailed_eq sound id entry code message
  rw [same]
  exact finish_sound soundTold (previews ▸ known) phase false

theorem sourceFailed_shrinks (sound : session.Sound) (id : Nat) (entry : ActivePreview) (code message : String) :
    Shrinks session (session.sourceFailed id entry code message) := by
  obtain ⟨told, same, soundTold, shrinks, -, -⟩ := sourceFailed_eq sound id entry code message
  rw [same]
  exact shrinks.trans (finish_shrinks soundTold id entry false)

theorem sourceFailed_tracked (sound : session.Sound) (id : Nat) (entry : ActivePreview) (code message : String)
    {listed : List Nat} (tracked : session.Tracked listed) : (session.sourceFailed id entry code message).Tracked listed := by
  obtain ⟨told, same, soundTold, -, previews, entries⟩ := sourceFailed_eq sound id entry code message
  rw [same]
  exact finish_tracked soundTold id entry false ((tracked.congr entries previews).more id)

theorem modify_modify (session : PreviewWallSession) (id : Nat) (first second : ActivePreview → ActivePreview) :
    (session.modify id first).modify id second = session.modify id (second ∘ first) := by
  simp [PreviewWallSession.modify, List.modify_modify_eq]

/-- What becomes of an entry whose source was opened. -/
def openedEntry (isCurrent : Bool) (entry : ActivePreview) : ActivePreview :=
  if isCurrent then { entry with opened := true, phase := .streaming } else { entry with opened := true }.cleanup

theorem openedEntry_subscription (isCurrent : Bool) (entry : ActivePreview) :
    (openedEntry isCurrent entry).subscription = entry.subscription := by
  cases isCurrent
  · exact cleanup_subscription _
  · rfl

theorem sourceOpened_eq (session : PreviewWallSession) (id : Nat) (entry : ActivePreview) :
    session.sourceOpened id entry = session.modify id (openedEntry (session.isCurrent id entry)) := by
  have unmoved (change : ActivePreview → ActivePreview) : (session.modify id change).isCurrent id entry = session.isCurrent id entry :=
    rfl
  cases isCurrent : session.isCurrent id entry with
  | true =>
    simp only [sourceOpened, unmoved, isCurrent, if_true, modify_modify]
    rfl
  | false =>
    simp only [sourceOpened, finish, unmoved, isCurrent, Bool.false_and, Bool.false_eq_true, if_false, modify_modify]
    rfl

theorem sourceOpened_sound (sound : session.Sound) (known : session.previews[id]? = some entry)
    (phase : entry.phase = .opening) (goesOn : entry.cancelRequested = false) : (session.sourceOpened id entry).Sound := by
  rw [sourceOpened_eq]
  refine sound.modify (openedEntry_subscription _) (fun other knownOther current => ?_) fun other knownOther tidy => ?_
  · rw [known, Option.some.injEq] at knownOther
    subst knownOther
    have isCurrent : session.isCurrent id entry = true := decide_eq_true current
    rw [isCurrent]
    exact ⟨.inr (.inr rfl), goesOn⟩
  · rw [known, Option.some.injEq] at knownOther
    subst knownOther
    simp only [ActivePreview.Tidy, phase] at tidy
    cases session.isCurrent id entry with
    | true => simpa [openedEntry, ActivePreview.Tidy] using tidy.2
    | false => simpa [openedEntry, ActivePreview.cleanup, ActivePreview.Tidy, tidy.2.1] using tidy.2.2

theorem sourceOpened_tracked (known : session.previews[id]? = some entry) (goesOn : entry.cancelRequested = false)
    (phase : entry.phase = .opening) {listed : List Nat} (tracked : session.Tracked listed) :
    (session.sourceOpened id entry).Tracked listed := by
  rw [sourceOpened_eq]
  refine tracked.modify (openedEntry_subscription _) fun other knownOther stops => ?_
  rw [known, Option.some.injEq] at knownOther
  subst knownOther
  rcases stops with requested | closing | done
  · exact absurd (goesOn.symm.trans requested) Bool.false_ne_true
  · exact absurd (phase.symm.trans closing) (by decide)
  · exact absurd (phase.symm.trans done) (by decide)

/-- A frame that is stored is the one its slot sends next, and no other slot's frame changes. -/
theorem store_latest (session : PreviewWallSession) (subscription : PreviewWallSubscription) (encoded : Bytes) (slot : Nat) :
    (session.store subscription encoded).latestFrames.get? slot =
      if slot = subscription.slot then some (subscription, encoded) else session.latestFrames.get? slot := by
  have stored : (session.store subscription encoded).latestFrames =
      session.latestFrames.set subscription.slot (subscription, encoded) := by
    rw [store]
    dsimp only
    split <;> rfl
  rw [stored]
  split
  · next same => rw [same, OrderedDict.get?_set_self]
  · next differs => rw [OrderedDict.get?_set_of_ne _ differs]

theorem store_fields (session : PreviewWallSession) (subscription : PreviewWallSubscription) (encoded : Bytes) :
    (session.store subscription encoded).entries = session.entries ∧
      (session.store subscription encoded).previews = session.previews ∧
      (session.store subscription encoded).desired = session.desired ∧
      (session.store subscription encoded).closed = session.closed ∧
      (session.store subscription encoded).lastMessageWasControl = session.lastMessageWasControl ∧
      (session.store subscription encoded).wake = true := by
  rw [store]
  dsimp only
  split <;> exact ⟨rfl, rfl, rfl, rfl, rfl, rfl⟩

theorem store_ready {session : PreviewWallSession} (sound : session.Sound) (subscription : PreviewWallSubscription)
    (encoded : Bytes) :
    (session.store subscription encoded).readySlots =
      if subscription.slot ∈ session.readySlots then session.readySlots else session.readySlots ++ [subscription.slot] := by
  have same := sound.readySet subscription.slot
  by_cases isReady : subscription.slot ∈ session.readySlots
  · simp only [store, if_pos isReady, if_pos (same.mpr isReady)]
  · simp only [store, if_neg isReady, if_neg (mt same.mp isReady)]

theorem store_readySet (session : PreviewWallSession) (subscription : PreviewWallSubscription) (encoded : Bytes) :
    (session.store subscription encoded).readySet = insert subscription.slot session.readySet := by
  rw [store]
  dsimp only
  split
  · next isReady => exact (Finset.insert_eq_of_mem isReady).symm
  · rfl

theorem store_sound (sound : session.Sound) (known : session.previews[id]? = some entry)
    (current : session.entries.get? entry.subscription.slot = some id) (encoded : Bytes) :
    (session.store entry.subscription encoded).Sound := by
  obtain ⟨entries, previews, -⟩ := store_fields session entry.subscription encoded
  have member (slot : Nat) : slot ∈ (session.store entry.subscription encoded).readySlots ↔
      slot = entry.subscription.slot ∨ slot ∈ session.readySlots := by
    rw [store_ready sound]
    split
    · next isReady => exact ⟨.inr, fun either => either.elim (· ▸ isReady) fun ready => ready⟩
    · rw [List.mem_append, List.mem_singleton, or_comm]
  exact {
    current := by
      rw [entries, previews]
      exact sound.current
    readyNodup := by
      rw [store_ready sound]
      split
      · exact sound.readyNodup
      · next absent => exact List.nodup_append.mpr ⟨sound.readyNodup, List.nodup_singleton _, by
          intro slot isReady other isNew
          rw [List.mem_singleton.mp isNew]
          exact fun same => absent (same ▸ isReady)⟩
    readySet := fun slot => by rw [store_readySet, Finset.mem_insert, sound.readySet, member]
    pending := fun slot => by
      rw [member, store_latest]
      split
      · next same => simp [same]
      · next differs => rw [or_iff_right differs, sound.pending]
    fresh := fun slot pending found => by
      rw [entries, previews]
      rw [store_latest] at found
      split at found
      · next same =>
        cases found
        exact ⟨id, entry, same ▸ current, known, rfl⟩
      · exact sound.fresh slot pending found
    tidy := by
      rw [previews]
      exact sound.tidy }

/-- Announcing an entry changes nothing but its mark and the events. -/
theorem announce_eq (session : PreviewWallSession) (id : Nat) (entry : ActivePreview) :
    ∃ change : ActivePreview → ActivePreview,
      (∀ other, (change other).subscription = other.subscription ∧ (other.Runs → (change other).Runs) ∧
        (other.Tidy → (change other).Tidy) ∧ (other.Stops → (change other).Stops)) ∧
      ((session.announce id entry = session.modify id change) ∨
        ∃ event, session.announce id entry = (session.modify id change).queueEvent event) := by
  cases sent : entry.readySent with
  | true =>
    refine ⟨fun other => other, fun other => ⟨rfl, fun runs => runs, fun tidy => tidy, fun stops => stops⟩, .inl ?_⟩
    have unchanged : session.previews.modify id (fun other => other) = session.previews := List.modify_id id session.previews
    simp only [announce, sent, if_true, PreviewWallSession.modify, unchanged]
  | false =>
    refine ⟨fun other => { other with readySent := true },
      fun other => ⟨rfl, fun runs => ⟨runs.phase, runs.goesOn⟩, fun tidy => tidy, fun stops => stops⟩,
      .inr ⟨.ready entry.subscription.slot entry.subscription.subscriptionId, ?_⟩⟩
    simp only [announce, sent, Bool.false_eq_true, if_false]

theorem announce_sound (sound : session.Sound) (id : Nat) (entry : ActivePreview) : (session.announce id entry).Sound := by
  obtain ⟨change, keeps, same⟩ := announce_eq session id entry
  have changed : (session.modify id change).Sound := by
    refine sound.modify (fun other => (keeps other).1) (fun other known current => ?_) fun other _ => (keeps other).2.2.1
    obtain ⟨entry, knownCurrent, -, runs⟩ := sound.current _ _ current
    rw [known, Option.some.injEq] at knownCurrent
    subst knownCurrent
    exact (keeps other).2.1 runs
  rcases same with same | ⟨event, same⟩
  · exact same ▸ changed
  · exact same ▸ changed.queueEvent event

theorem announce_shrinks (session : PreviewWallSession) (id : Nat) (entry : ActivePreview) :
    Shrinks session (session.announce id entry) := by
  obtain ⟨change, keeps, same⟩ := announce_eq session id entry
  have changed := modify_shrinks session id fun other => (keeps other).1
  rcases same with same | ⟨event, same⟩
  · exact same ▸ changed
  · exact same ▸ changed.trans (queueEvent_shrinks _ event)

theorem announce_entries (session : PreviewWallSession) (id : Nat) (entry : ActivePreview) :
    (session.announce id entry).entries = session.entries := by
  obtain ⟨change, -, same | ⟨event, same⟩⟩ := announce_eq session id entry
  · exact same ▸ rfl
  · exact same ▸ queueEvent_entries _ event

theorem announce_known (known : session.previews[id]? = some entry) :
    ∃ announced, (session.announce id entry).previews[id]? = some announced ∧
      announced.subscription = entry.subscription := by
  obtain ⟨change, keeps, same | ⟨event, same⟩⟩ := announce_eq session id entry
  · exact ⟨change entry, same ▸ previews_modify_self known change, (keeps entry).1⟩
  · refine ⟨change entry, ?_, (keeps entry).1⟩
    rw [same, queueEvent_previews]
    exact previews_modify_self known change

theorem announce_tracked (session : PreviewWallSession) (id : Nat) (entry : ActivePreview) {listed : List Nat}
    (tracked : session.Tracked listed) : (session.announce id entry).Tracked listed := by
  obtain ⟨change, keeps, same⟩ := announce_eq session id entry
  have changed : (session.modify id change).Tracked listed :=
    tracked.modify (fun other => (keeps other).1) fun other _ => (keeps other).2.2.2
  rcases same with same | ⟨event, same⟩
  · exact same ▸ changed
  · exact same ▸ changed.congr (queueEvent_entries _ event) (queueEvent_previews _ event)

/-- A frame of a current entry is stored; any other ends the task. -/
theorem frameRead_cases (session : PreviewWallSession) (id : Nat) (entry : ActivePreview) (jpeg : Bytes) :
    (∃ encoded, producedBy session id entry jpeg = [(entry.subscription, encoded)] ∧
      session.entries.get? entry.subscription.slot = some id ∧
      session.frameRead id entry jpeg = (session.announce id entry).store entry.subscription encoded) ∨
    producedBy session id entry jpeg = [] ∧
      (session.frameRead id entry jpeg = session.finish id entry true ∨
        ∃ code message, session.frameRead id entry jpeg = session.sourceFailed id entry code message) := by
  cases encodes : encodePreviewWallFrame entry.subscription jpeg with
  | error e => exact .inr ⟨by simp only [producedBy, encodes], .inr ⟨_, _, by simp only [frameRead, encodes]; rfl⟩⟩
  | ok encoded =>
    cases isCurrent : session.isCurrent id entry with
    | true =>
      exact .inl ⟨encoded, by simp only [producedBy, encodes, isCurrent, if_true], of_decide_eq_true isCurrent,
        by simp only [frameRead, encodes, isCurrent, if_true]⟩
    | false =>
      exact .inr ⟨by simp only [producedBy, encodes, isCurrent, Bool.false_eq_true, if_false],
        .inl (by simp only [frameRead, encodes, isCurrent, Bool.false_eq_true, if_false])⟩

theorem announce_ready (session : PreviewWallSession) (id : Nat) (entry : ActivePreview) :
    (session.announce id entry).readySlots = session.readySlots := by
  obtain ⟨change, -, same | ⟨event, same⟩⟩ := announce_eq session id entry
  · exact same ▸ rfl
  · rw [same, PreviewWallSession.queueEvent]
    split <;> rfl

theorem announcedStore_sound (sound : session.Sound) (known : session.previews[id]? = some entry)
    (current : session.entries.get? entry.subscription.slot = some id) (encoded : Bytes) :
    ((session.announce id entry).store entry.subscription encoded).Sound := by
  obtain ⟨announced, knownThen, same⟩ := announce_known known
  have stored := @store_sound (session.announce id entry) id announced (announce_sound sound id entry) knownThen
    (by rw [same, announce_entries, current]) encoded
  rwa [same] at stored

theorem frameRead_sound (sound : session.Sound) (known : session.previews[id]? = some entry)
    (phase : entry.phase = .streaming) (jpeg : Bytes) : (session.frameRead id entry jpeg).Sound := by
  rcases frameRead_cases session id entry jpeg with ⟨encoded, -, current, same⟩ | ⟨-, same | ⟨code, message, same⟩⟩
  · exact same ▸ announcedStore_sound sound known current encoded
  · exact same ▸ finish_sound sound known (.inr phase) true
  · exact same ▸ sourceFailed_sound sound known (.inr phase) code message

theorem frameRead_tracked (sound : session.Sound) (jpeg : Bytes) {listed : List Nat} (tracked : session.Tracked listed) :
    (session.frameRead id entry jpeg).Tracked listed := by
  rcases frameRead_cases session id entry jpeg with ⟨encoded, -, current, same⟩ | ⟨-, same | ⟨code, message, same⟩⟩
  · obtain ⟨entries, previews, -⟩ := store_fields (session.announce id entry) entry.subscription encoded
    exact same ▸ (announce_tracked session id entry tracked).congr entries previews
  · exact same ▸ finish_tracked sound id entry true (tracked.more id)
  · exact same ▸ sourceFailed_tracked sound id entry code message tracked

theorem frameRead_keepsTurn (sound : session.Sound) (id : Nat) (entry : ActivePreview) (jpeg : Bytes) :
    KeepsTurn session (session.frameRead id entry jpeg) := by
  rcases frameRead_cases session id entry jpeg with ⟨encoded, -, current, same⟩ | ⟨-, same | ⟨code, message, same⟩⟩
  · obtain ⟨-, -, -, -, last, -⟩ := store_fields (session.announce id entry) entry.subscription encoded
    rw [same]
    refine ⟨last.trans (announce_shrinks session id entry).last, .inr ?_⟩
    rw [store_ready (announce_sound sound id entry), announce_ready]
    split
    · exact ⟨[], (List.append_nil _).symm⟩
    · exact ⟨_, rfl⟩
  · exact same ▸ (finish_shrinks sound id entry true).keepsTurn
  · exact same ▸ (sourceFailed_shrinks sound id entry code message).keepsTurn

end Tasks

/-! ## Syncs -/

theorem cleanupStopped_subscription (entry : ActivePreview) : entry.cleanupStopped.subscription = entry.subscription := by
  rw [ActivePreview.cleanupStopped]
  split
  · rfl
  · split <;> rfl

theorem cleanupStopped_phase (entry : ActivePreview) :
    entry.cleanupStopped.phase = entry.phase ∧ entry.cleanupStopped.cancelRequested = entry.cancelRequested := by
  rw [ActivePreview.cleanupStopped]
  split
  · exact ⟨rfl, rfl⟩
  · split <;> exact ⟨rfl, rfl⟩

section Stops
variable {session : PreviewWallSession} {id : Nat}

theorem phase_of_taskDone (stopped : session.taskDone id = true) {entry : ActivePreview}
    (known : session.previews[id]? = some entry) : entry.phase = .done := by
  rw [taskDone, known] at stopped
  exact of_decide_eq_true stopped

theorem cleanupStopped_sound (sound : session.Sound) (stopped : session.taskDone id = true) :
    (session.modify id ActivePreview.cleanupStopped).Sound := by
  refine sound.modify cleanupStopped_subscription (fun _ known current => ?_) fun _ known tidy =>
    tidy.cleanupStopped (phase_of_taskDone stopped known)
  obtain ⟨running, knownCurrent, -, runs⟩ := sound.current _ _ current
  rw [known, Option.some.injEq] at knownCurrent
  subst knownCurrent
  refine ⟨?_, ?_⟩
  · rw [(cleanupStopped_phase _).1]
    exact runs.phase
  · rw [(cleanupStopped_phase _).2]
    exact runs.goesOn

theorem cleanupStopped_tracked (stopped : session.taskDone id = true) {listed : List Nat} (tracked : session.Tracked (id :: listed)) :
    (session.modify id ActivePreview.cleanupStopped).Tracked listed :=
  tracked.stop fun entry known => .inr (.inr ((cleanupStopped_phase entry).1.trans (phase_of_taskDone stopped known)))

theorem cancel_sound (sound : session.Sound) (outOfSlot : ∀ slot, session.entries.get? slot ≠ some id) :
    (session.modify id ActivePreview.cancel).Sound :=
  sound.modify (fun _ => rfl) (fun _ _ current => absurd current (outOfSlot _)) fun _ _ tidy => tidy

theorem cancel_shrinks (session : PreviewWallSession) (id : Nat) : Shrinks session (session.modify id ActivePreview.cancel) :=
  modify_shrinks session id fun _ => rfl

theorem cancel_tracked {listed : List Nat} (tracked : session.Tracked (id :: listed)) :
    (session.modify id ActivePreview.cancel).Tracked listed := tracked.stop fun _ _ => .inl rfl

end Stops

/-- Entries with the slots they have, or had. -/
def Listed (session : PreviewWallSession) (rest : List (Nat × Nat)) : Prop :=
  ∀ pair ∈ rest, session.previews[pair.2]?.map (·.subscription.slot) = some pair.1 ∧
    ∀ id, session.entries.get? pair.1 = some id → id = pair.2

/-- An entry shows what its slot should show, or is still to be stopped. -/
def Wanted (session : PreviewWallSession) (desired : OrderedDict Nat PreviewWallSubscription) (rest : List (Nat × Nat)) : Prop :=
  ∀ (slot id : Nat) (entry : ActivePreview), session.entries.get? slot = some id → session.previews[id]? = some entry →
    (slot, id) ∈ rest ∨ desired.get? slot = some entry.subscription

/-- An entry shows what it showed, or one of these streams. -/
def Created (before after : PreviewWallSession) (streams : List PreviewWallSubscription) : Prop :=
  ∀ (id : Nat) (entry : ActivePreview), after.previews[id]? = some entry →
    (∃ earlier, before.previews[id]? = some earlier ∧ entry.subscription = earlier.subscription) ∨ entry.subscription ∈ streams

theorem Shrinks.created {before after : PreviewWallSession} (shrinks : Shrinks before after)
    (streams : List PreviewWallSubscription) : Created before after streams := by
  intro id entry known
  have same := shrinks.previews id
  rw [known] at same
  obtain ⟨earlier, knownEarlier, sameSubscription⟩ := Option.map_eq_some_iff.mp same.symm
  exact .inl ⟨earlier, knownEarlier, sameSubscription.symm⟩

theorem Created.trans {first second third : PreviewWallSession} {streams : List PreviewWallSubscription}
    (early : Created first second streams) (late : Created second third streams) : Created first third streams := by
  intro id entry known
  rcases late id entry known with ⟨between, knownBetween, same⟩ | isStream
  · rcases early id between knownBetween with ⟨earlier, knownEarlier, sameEarlier⟩ | isStream
    · exact .inl ⟨earlier, knownEarlier, same.trans sameEarlier⟩
    · exact .inr (same ▸ isStream)
  · exact .inr isStream

/-- An entry that was created and has left its slot. -/
structure Out (session : PreviewWallSession) (id : Nat) : Prop where
  known : session.previews[id]?.isSome
  outOfSlot : ∀ slot, session.entries.get? slot ≠ some id

section Syncs
variable {session after : PreviewWallSession} {rest : List (Nat × Nat)} {desired : OrderedDict Nat PreviewWallSubscription}

theorem slot_of_subscription {id : Nat}
    (same : after.previews[id]?.map ActivePreview.subscription = session.previews[id]?.map ActivePreview.subscription) :
    after.previews[id]?.map (·.subscription.slot) = session.previews[id]?.map (·.subscription.slot) := by
  have slots := congrArg (Option.map PreviewWallSubscription.slot) same
  rwa [Option.map_map, Option.map_map] at slots

theorem Listed.shrinks (listed : session.Listed rest) (shrinks : Shrinks session after) : after.Listed rest := by
  intro pair member
  obtain ⟨known, alone⟩ := listed pair member
  exact ⟨(slot_of_subscription (shrinks.previews pair.2)).trans known, fun id found => alone id (shrinks.entries _ _ found)⟩

theorem Wanted.shrinks (wanted : session.Wanted desired rest) (shrinks : Shrinks session after) : after.Wanted desired rest := by
  intro slot id entry found known
  have same := shrinks.previews id
  rw [known] at same
  obtain ⟨earlier, knownEarlier, sameSubscription⟩ := Option.map_eq_some_iff.mp same.symm
  rw [← sameSubscription]
  exact wanted slot id earlier (shrinks.entries slot id found) knownEarlier

theorem Out.shrinks {id : Nat} (out : session.Out id) (shrinks : Shrinks session after) : after.Out id where
  known := by
    have same := congrArg Option.isSome (shrinks.previews id)
    rw [Option.isSome_map, Option.isSome_map] at same
    exact same.trans out.known
  outOfSlot slot found := out.outOfSlot slot (shrinks.entries slot id found)

/-- An entry of a slot is out once the slot is popped. -/
theorem out_popEntry (sound : session.Sound) {slot id : Nat}
    (ofListed : session.previews[id]?.map (·.subscription.slot) = some slot) : (session.popEntry slot).Out id where
  known := by
    rw [popEntry_eq sound]
    exact (Option.isSome_map ..).symm.trans (congrArg Option.isSome ofListed)
  outOfSlot other found := by
    rw [popEntry_eq sound] at found
    obtain ⟨differs, found⟩ := OrderedDict.get?_pop_eq_some_iff.mp found
    obtain ⟨entry, known, ofSlot, -⟩ := sound.current other id found
    rw [known, Option.map_some, ofSlot] at ofListed
    exact differs (Option.some.inj ofListed)

theorem listed_entries (sound : session.Sound) : session.Listed session.entries.entries := by
  rintro ⟨slot, id⟩ member
  have found := OrderedDict.get?_eq_some_iff.mpr member
  obtain ⟨entry, known, ofSlot, -⟩ := sound.current slot id found
  refine ⟨by rw [known, Option.map_some, ofSlot], fun other foundOther => ?_⟩
  exact Option.some.inj (foundOther.symm.trans found)

theorem mem_desiredOf {sync : PreviewWallSync} {pair : Nat × PreviewWallSubscription}
    (member : pair ∈ (desiredOf sync).entries) : pair.2 ∈ sync.streams ∧ pair.1 = pair.2.slot := by
  have found := OrderedDict.mem_of_get?_ofPairs (OrderedDict.get?_eq_some_iff.mpr member)
  obtain ⟨item, isStream, same⟩ := List.mem_map.mp found
  rw [← congrArg Prod.snd same, ← congrArg Prod.fst same]
  exact ⟨isStream, rfl⟩

/-! ### New entries -/

variable {profile : PreviewWallProfile} {pair : Nat × PreviewWallSubscription}

theorem previews_append (session : PreviewWallSession) (entry : ActivePreview) {id : Nat} {other : ActivePreview}
    (known : session.previews[id]? = some other) : (session.previews ++ [entry])[id]? = some other := by
  rw [List.getElem?_append_left (List.getElem?_eq_some_iff.mp known).1]
  exact known

theorem previews_of_append {session : PreviewWallSession} {entry other : ActivePreview} {id : Nat}
    (known : (session.previews ++ [entry])[id]? = some other) :
    session.previews[id]? = some other ∨ id = session.previews.length ∧ other = entry := by
  rw [List.getElem?_append] at known
  split at known
  · exact .inl known
  · next beyond =>
    obtain ⟨isFirst, same⟩ := List.getElem?_eq_some_iff.mp known
    rw [List.length_singleton] at isFirst
    exact .inr ⟨by omega, by rw [← same, List.getElem_singleton]⟩

theorem createEntry_sound (sound : session.Sound) (ofSlot : pair.1 = pair.2.slot) : (createEntry profile session pair).Sound := by
  rw [createEntry]
  split
  · exact sound
  · next absent =>
    rw [Option.not_isSome_iff_eq_none] at absent
    exact {
      current := fun slot id found => by
        dsimp only at found ⊢
        by_cases same : slot = pair.1
        · rw [same, OrderedDict.get?_set_self, Option.some.injEq] at found
          refine ⟨_, by rw [← found, List.getElem?_concat_length], ?_, ⟨.inl rfl, rfl⟩⟩
          rw [same, ofSlot]
          rfl
        · rw [OrderedDict.get?_set_of_ne _ same] at found
          obtain ⟨entry, known, rest⟩ := sound.current slot id found
          exact ⟨entry, previews_append session _ known, rest⟩
      readyNodup := sound.readyNodup
      readySet := sound.readySet
      pending := sound.pending
      fresh := fun slot pending found => by
        obtain ⟨id, entry, isEntry, known, same⟩ := sound.fresh slot pending found
        have differs : slot ≠ pair.1 := by
          rintro rfl
          rw [absent] at isEntry
          cases isEntry
        exact ⟨id, entry, (OrderedDict.get?_set_of_ne _ differs _).trans isEntry, previews_append session _ known, same⟩
      tidy := fun id entry known => by
        rcases previews_of_append known with earlier | ⟨-, rfl⟩
        · exact sound.tidy id entry earlier
        · exact ActivePreview.tidy_new _ _ }

theorem createEntry_quiet (session : PreviewWallSession) (profile : PreviewWallProfile)
    (pair : Nat × PreviewWallSubscription) : Quiet session (createEntry profile session pair) := by
  rw [createEntry]
  split
  · exact .refl session
  · exact { Quiet.refl session with }

theorem createEntry_created {streams : List PreviewWallSubscription} (isStream : pair.2 ∈ streams) :
    Created session (createEntry profile session pair) streams := by
  rw [createEntry]
  split
  · exact (Shrinks.refl session).created streams
  · intro id entry known
    rcases previews_of_append known with earlier | ⟨-, rfl⟩
    · exact .inl ⟨entry, earlier, rfl⟩
    · exact .inr isStream

theorem createEntry_tracked {listed : List Nat} (tracked : session.Tracked listed)
    (ofSlot : pair.1 = pair.2.slot) : (createEntry profile session pair).Tracked listed := by
  rw [createEntry]
  split
  · exact tracked
  · next absent =>
    rw [Option.not_isSome_iff_eq_none] at absent
    intro id entry known
    rcases previews_of_append known with earlier | ⟨rfl, rfl⟩
    · refine (tracked id entry earlier).imp_left fun current => ?_
      have differs : entry.subscription.slot ≠ pair.1 := by
        intro same
        rw [same, absent] at current
        cases current
      exact (OrderedDict.get?_set_of_ne _ differs _).trans current
    · refine .inl ?_
      change (session.entries.set pair.1 session.previews.length).get? pair.2.slot = _
      rw [← ofSlot, OrderedDict.get?_set_self]

theorem createEntry_out {id : Nat} (out : session.Out id) : (createEntry profile session pair).Out id := by
  obtain ⟨entry, known⟩ := Option.isSome_iff_exists.mp out.known
  rw [createEntry]
  split
  · exact out
  · refine ⟨by rw [previews_append session _ known, Option.isSome_some], fun slot found => ?_⟩
    dsimp only at found
    by_cases same : slot = pair.1
    · rw [same, OrderedDict.get?_set_self, Option.some.injEq] at found
      have bound := (List.getElem?_eq_some_iff.mp known).1
      omega
    · exact out.outOfSlot slot ((OrderedDict.get?_set_of_ne _ same _).symm.trans found)

theorem createEntry_wanted (sound : session.Sound) (wanted : session.Wanted desired []) (isDesired : desired.get? pair.1 = some pair.2) :
    (createEntry profile session pair).Wanted desired [] := by
  rw [createEntry]
  split
  · exact wanted
  · intro slot id entry found known
    dsimp only at found known
    by_cases same : slot = pair.1
    · rw [same, OrderedDict.get?_set_self, Option.some.injEq] at found
      rw [← found, List.getElem?_concat_length, Option.some.injEq] at known
      rw [same, isDesired, ← known]
      exact .inr rfl
    · rw [OrderedDict.get?_set_of_ne _ same] at found
      obtain ⟨earlier, knownEarlier, -⟩ := sound.current slot id found
      have sameEntry := (previews_append session _ knownEarlier).symm.trans known
      exact wanted slot id entry found (knownEarlier.trans sameEntry)

/-! ### A whole sync -/

/-- The loop of a sync stands before these entries. -/
structure Syncing (session : PreviewWallSession) (sync : PreviewWallSync) (rest : List (Nat × Nat)) : Prop where
  sound : session.Sound
  listed : session.Listed rest
  desired : session.desired = desiredOf sync
  wanted : session.Wanted (desiredOf sync) rest

theorem createEntries {sync : PreviewWallSync} {profile : PreviewWallProfile} (pairs : List (Nat × PreviewWallSubscription))
    (subset : ∀ pair ∈ pairs, pair ∈ (desiredOf sync).entries) :
    ∀ {session : PreviewWallSession}, session.Sound → session.Wanted (desiredOf sync) [] →
      (pairs.foldl (createEntry profile) session).Sound ∧
        (pairs.foldl (createEntry profile) session).Wanted (desiredOf sync) [] ∧
        Quiet session (pairs.foldl (createEntry profile) session) ∧
        (∀ listed, session.Tracked listed → (pairs.foldl (createEntry profile) session).Tracked listed) ∧
        (∀ id, session.Out id → (pairs.foldl (createEntry profile) session).Out id) ∧
        Created session (pairs.foldl (createEntry profile) session) sync.streams := by
  induction pairs with
  | nil =>
    exact fun sound wanted => ⟨sound, wanted, .refl _, fun _ tracked => tracked, fun _ out => out, (Shrinks.refl _).created _⟩
  | cons pair pairs ih =>
    intro session sound wanted
    have member := subset pair List.mem_cons_self
    obtain ⟨isStream, ofSlot⟩ := mem_desiredOf member
    obtain ⟨soundAfter, wantedAfter, quiet, tracked, out, created⟩ :=
      ih (fun other isLater => subset other (List.mem_cons_of_mem _ isLater))
        (@createEntry_sound session profile pair sound ofSlot)
        (createEntry_wanted sound wanted (OrderedDict.get?_eq_some_iff.mpr member))
    exact ⟨soundAfter, wantedAfter, (createEntry_quiet session profile pair).trans quiet,
      fun listed before => tracked listed (createEntry_tracked before ofSlot), fun id before => out id (createEntry_out before),
      (createEntry_created isStream).trans created⟩

end Syncs

end PreviewWallSession

/-- The entries that a sync has still to look at. -/
def Receiver.rest : Receiver → List (Nat × Nat)
  | .idle => []
  | .stopping _ _ rest => rest

namespace PreviewWallSession

section Syncs
variable {session : PreviewWallSession} {sync : PreviewWallSync}

/-- What `apply_sync` leaves where it awaits a task, and at its end. -/
structure Continued (before : PreviewWallSession) (sync : PreviewWallSync) (after : PreviewWallSession) (receiver : Receiver) :
    Prop where
  syncing : after.Syncing sync receiver.rest
  quiet : Quiet before after
  tracked : ∀ listed, before.Tracked listed → after.Tracked listed
  out : ∀ id, before.Out id → after.Out id
  created : Created before after sync.streams
  stopping : ∀ other id rest, receiver = .stopping other id rest → other = sync ∧ after.Out id

theorem Continued.of_shrinks {between after : PreviewWallSession} {receiver : Receiver} (shrinks : Shrinks session between)
    (tracked : ∀ listed, session.Tracked listed → between.Tracked listed) (continued : between.Continued sync after receiver) :
    session.Continued sync after receiver where
  syncing := continued.syncing
  quiet := shrinks.toQuiet.trans continued.quiet
  tracked listed before := continued.tracked listed (tracked listed before)
  out id before := continued.out id (before.shrinks shrinks)
  created := (shrinks.created sync.streams).trans continued.created
  stopping := continued.stopping

theorem completeSync_continued (syncing : session.Syncing sync []) :
    session.Continued sync (session.completeSync sync) .idle := by
  obtain ⟨sound, wanted, quiet, tracked, out, created⟩ := @createEntries sync sync.layoutSlots.profile (desiredOf sync).entries
    (fun _ member => member) session syncing.sound syncing.wanted
  have told := queueEvent_shrinks ((desiredOf sync).entries.foldl (createEntry sync.layoutSlots.profile) session) .synced
  exact {
    syncing := {
      sound := sound.queueEvent _
      listed := fun pair member => absurd member List.not_mem_nil
      desired := (told.desired.trans quiet.desired).trans syncing.desired
      wanted := wanted.shrinks told }
    quiet := quiet.trans told.toQuiet
    tracked := fun listed before => (tracked listed before).congr (queueEvent_entries _ _) (queueEvent_previews _ _)
    out := fun id before => (out id before).shrinks told
    created := created.trans (told.created sync.streams)
    stopping := fun other id rest stopping => by cases stopping }

/-- An entry that is not kept leaves its slot. -/
theorem Syncing.pop {slot id : Nat} {rest : List (Nat × Nat)} (syncing : session.Syncing sync ((slot, id) :: rest)) :
    (session.popEntry slot).Syncing sync rest where
  sound := syncing.sound.popEntry slot
  listed pair member := (syncing.listed.shrinks (popEntry_shrinks syncing.sound slot)) pair (List.mem_cons_of_mem _ member)
  desired := (popEntry_shrinks syncing.sound slot).desired.trans syncing.desired
  wanted other otherId entry found known := by
    have wanted := (syncing.wanted.shrinks (popEntry_shrinks syncing.sound slot)) other otherId entry found known
    refine wanted.imp_left fun member => (List.mem_cons.mp member).resolve_left ?_
    rintro same
    cases same
    exact not_current_popEntry syncing.sound slot id found

/-- What stopping an entry does to a sync: it changes entries that are in no slot. -/
theorem Syncing.shrinks {after : PreviewWallSession} {rest : List (Nat × Nat)} (syncing : session.Syncing sync rest)
    (sound : after.Sound) (shrinks : Shrinks session after) : after.Syncing sync rest where
  sound := sound
  listed := syncing.listed.shrinks shrinks
  desired := shrinks.desired.trans syncing.desired
  wanted := syncing.wanted.shrinks shrinks

theorem continueSync_continued (rest : List (Nat × Nat)) :
    ∀ {session : PreviewWallSession}, session.Syncing sync rest →
      session.Continued sync (continueSync sync rest session).1 (continueSync sync rest session).2 := by
  induction rest with
  | nil => exact fun syncing => completeSync_continued syncing
  | cons pair rest ih =>
    obtain ⟨slot, id⟩ := pair
    intro session syncing
    rw [continueSync]
    split
    · next kept =>
      refine ih { syncing with
        listed := fun pair member => syncing.listed pair (List.mem_cons_of_mem _ member), wanted := ?_ }
      intro other otherId entry found known
      refine (syncing.wanted other otherId entry found known).elim (fun member => ?_) .inr
      rcases List.mem_cons.mp member with same | isLater
      · cases same
        rw [isKept, known] at kept
        exact .inr (of_decide_eq_true kept).1
      · exact .inl isLater
    · dsimp only
      have popped := syncing.pop
      have shrinks := popEntry_shrinks syncing.sound slot
      obtain ⟨ofSlot, alone⟩ := syncing.listed (slot, id) List.mem_cons_self
      split
      · next stopped =>
        have cleaned := modify_shrinks (session.popEntry slot) id cleanupStopped_subscription
        exact (ih (popped.shrinks (cleanupStopped_sound popped.sound stopped) cleaned)).of_shrinks (shrinks.trans cleaned)
          fun listed tracked => cleanupStopped_tracked stopped ((tracked.more id).popEntry syncing.sound alone)
      · have cancelled := cancel_shrinks (session.popEntry slot) id
        have out := out_popEntry syncing.sound ofSlot
        exact {
          syncing := popped.shrinks (cancel_sound popped.sound out.outOfSlot) cancelled
          quiet := (shrinks.trans cancelled).toQuiet
          tracked := fun listed tracked => cancel_tracked ((tracked.more id).popEntry syncing.sound alone)
          out := fun other before => before.shrinks (shrinks.trans cancelled)
          created := (shrinks.trans cancelled).created sync.streams
          stopping := fun other otherId others stopping => by
            cases stopping
            exact ⟨rfl, out.shrinks cancelled⟩ }

end Syncs

/-! ## The sender -/

section Sender
variable {session : PreviewWallSession}

/-- A control message that is taken. -/
def controlTaken (session : PreviewWallSession) (key : ControlKey) : PreviewWallSession :=
  { session with control := session.control.pop key, lastMessageWasControl := true }

/-- A frame that is taken, with the slots that are ready after it. -/
def frameTaken (session : PreviewWallSession) (slot : Nat) (slots : List Nat) : PreviewWallSession :=
  { session with
    readySet := session.readySet.erase slot, latestFrames := session.latestFrames.pop slot, readySlots := slots,
    lastMessageWasControl := false }

/-- The first slot that is ready has a frame of its entry. -/
theorem takeFrame_ready (sound : session.Sound) {slot : Nat} {slots : List Nat} (ready : session.readySlots = slot :: slots) :
    ∃ pending, session.latestFrames.get? slot = some pending ∧
      session.takeFrame (slot :: slots) = (session.frameTaken slot slots, some (.frame pending.1 pending.2)) := by
  have isReady : slot ∈ session.readySlots := ready ▸ List.mem_cons_self
  obtain ⟨pending, found⟩ := Option.isSome_iff_exists.mp ((sound.pending slot).mp isReady)
  obtain ⟨id, entry, isEntry, known, same⟩ := sound.fresh slot pending found
  refine ⟨pending, found, ?_⟩
  simp only [takeFrame, found, isEntry, Option.bind_some, known, if_pos same]
  rfl

/-- What the sender does next: a control message that was not preceded by one, or with no slot
    ready; the frame of the first slot that is ready; or it waits, with nothing to send. -/
theorem nextMessage_cases (sound : session.Sound) :
    (∃ key text rest, session.control.entries = (key, text) :: rest ∧
      (session.readySlots = [] ∨ session.lastMessageWasControl = false) ∧
      session.nextMessage = (session.controlTaken key, some (.text text))) ∨
    (∃ slot slots pending, session.readySlots = slot :: slots ∧ session.latestFrames.get? slot = some pending ∧
      session.nextMessage = (session.frameTaken slot slots, some (.frame pending.1 pending.2))) ∨
    (session.control.entries = [] ∧ session.readySlots = [] ∧ session.nextMessage.2 = none ∧
      session.nextMessage.1 = { session with wake := false }) := by
  cases ready : session.readySlots with
  | nil =>
    cases control : session.control.entries with
    | nil =>
      refine .inr (.inr ⟨rfl, rfl, ?_⟩)
      simp [nextMessage, takeFrame, ready, control]
    | cons first rest =>
      refine .inl ⟨first.1, first.2, rest, rfl, .inl rfl, ?_⟩
      simp [nextMessage, takeControl, controlTaken, ready, control]
  | cons slot slots =>
    obtain ⟨pending, found, taken⟩ := takeFrame_ready sound ready
    have framed (noControl : ¬(session.control.entries ≠ [] ∧ (slot :: slots = [] ∨ session.lastMessageWasControl = false))) :
        session.nextMessage = (session.frameTaken slot slots, some (.frame pending.1 pending.2)) := by
      rw [nextMessage, ready, if_neg noControl, taken]
    cases control : session.control.entries with
    | nil => exact .inr (.inl ⟨slot, slots, pending, rfl, found, framed fun both => both.1 control⟩)
    | cons first rest =>
      cases last : session.lastMessageWasControl with
      | true => exact .inr (.inl ⟨slot, slots, pending, rfl, found, framed fun both => by simp [last] at both⟩)
      | false =>
        refine .inl ⟨first.1, first.2, rest, rfl, .inr rfl, ?_⟩
        simp [nextMessage, takeControl, controlTaken, control, last]

theorem controlTaken_sound (sound : session.Sound) (key : ControlKey) : (session.controlTaken key).Sound := { sound with }

theorem frameTaken_sound (sound : session.Sound) {slot : Nat} {slots : List Nat} (ready : session.readySlots = slot :: slots) :
    (session.frameTaken slot slots).Sound := by
  have nodup := ready ▸ sound.readyNodup
  obtain ⟨isFirst, nodupRest⟩ := List.nodup_cons.mp nodup
  have member (other : Nat) : other ∈ slots ↔ other ≠ slot ∧ other ∈ session.readySlots := by
    rw [ready, List.mem_cons]
    constructor
    · exact fun isLater => ⟨fun same => isFirst (same ▸ isLater), .inr isLater⟩
    · exact fun either => either.2.resolve_left either.1
  exact {
    current := sound.current
    readyNodup := nodupRest
    readySet := fun other => by
      rw [frameTaken]
      dsimp only
      rw [member, ← sound.readySet, Finset.mem_erase]
    pending := fun other => by
      rw [frameTaken]
      dsimp only
      rw [member, sound.pending]
      by_cases same : other = slot
      · simp [same]
      · simp [same, OrderedDict.get?_pop_of_ne]
    fresh := fun other pending found => sound.fresh other pending (OrderedDict.get?_pop_eq_some_iff.mp found).2
    tidy := sound.tidy }

end Sender

/-! ## Closing -/

section Close
variable {session : PreviewWallSession}

theorem continueClose_shrinks (rest : List Nat) :
    ∀ session : PreviewWallSession, Shrinks session (continueClose rest session).1 := by
  induction rest with
  | nil => exact fun session => { Shrinks.refl session with wake := .inl rfl }
  | cons id rest ih =>
    intro session
    rw [continueClose]
    split
    · exact (modify_shrinks session id cleanupStopped_subscription).trans (ih _)
    · exact cancel_shrinks session id

theorem continueClose_spec (rest : List Nat) :
    ∀ {session : PreviewWallSession}, session.Sound → (∀ id ∈ rest, session.Out id) → session.Tracked rest →
      (continueClose rest session).1.Sound ∧
        (continueClose rest session).1.Tracked ((continueClose rest session).2.elim [] Prod.snd) ∧
        ∀ id later, (continueClose rest session).2 = some (id, later) →
          ∀ other ∈ id :: later, (continueClose rest session).1.Out other := by
  induction rest with
  | nil =>
    intro session sound _ tracked
    exact ⟨{ sound with }, tracked, fun id later awaits => by cases awaits⟩
  | cons id rest ih =>
    intro session sound out tracked
    rw [continueClose]
    split
    · next stopped =>
      have shrinks := modify_shrinks session id cleanupStopped_subscription
      exact @ih (session.modify id ActivePreview.cleanupStopped) (cleanupStopped_sound sound stopped)
        (fun other member => (out other (List.mem_cons_of_mem _ member)).shrinks shrinks)
        (cleanupStopped_tracked stopped tracked)
    · refine ⟨cancel_sound sound (out id List.mem_cons_self).outOfSlot, cancel_tracked tracked, fun other later awaits => ?_⟩
      cases awaits
      exact fun other member => (out other member).shrinks (cancel_shrinks session id)

/-- The session that `close` takes the tasks down from. -/
def cleared (session : PreviewWallSession) : PreviewWallSession :=
  { session with
    closed := true, entries := .empty, desired := .empty, latestFrames := .empty, readySlots := [], readySet := ∅ }

theorem cleared_sound (sound : session.Sound) : session.cleared.Sound where
  current slot id found := by cases found
  readyNodup := List.nodup_nil
  readySet slot := by simp [cleared]
  pending slot := by simp [cleared]
  fresh slot pending found := by cases found
  tidy := sound.tidy

theorem close_shrinks (session : PreviewWallSession) : Shrinks session.cleared session.close.1 := continueClose_shrinks _ _

theorem close_spec (sound : session.Sound) (tracked : session.Tracked []) :
    session.close.1.Sound ∧
      session.close.1.Tracked (session.close.2.elim [] Prod.snd) ∧
      ∀ id later, session.close.2 = some (id, later) → ∀ other ∈ id :: later, session.close.1.Out other := by
  refine continueClose_spec _ (cleared_sound sound) (fun id member => ?_) fun id entry known => ?_
  · obtain ⟨⟨slot, _⟩, isEntry, rfl⟩ := List.mem_map.mp member
    obtain ⟨entry, known, -⟩ := sound.current slot _ (OrderedDict.get?_eq_some_iff.mpr isEntry)
    exact ⟨Option.isSome_iff_exists.mpr ⟨entry, known⟩, fun other found => by cases found⟩
  · rcases tracked id entry known with current | stops | isListed
    · exact .inr (.inr (List.mem_map.mpr ⟨_, OrderedDict.mem_of_get? current, rfl⟩))
    · exact .inr (.inl stops)
    · exact absurd isListed List.not_mem_nil

end Close

end PreviewWallSession

end ZeroNvr.PreviewWall
