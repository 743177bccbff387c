import ZeroNvr.Verified.PreviewWallSessions

/-! # The frames that a preview wall sends

The invariant of a session with its coroutines, and what follows for every run: which
frames are sent and in which order, how long a slot waits for the sender, and that no
preview that was opened stays open.
-/

namespace ZeroNvr.PreviewWall

open Lib PreviewWallSession

/-! ## Frames and messages -/

def WallMessage.frame? : WallMessage → Option (PreviewWallSubscription × Bytes)
  | .text _ => none
  | .frame subscription encoded => some (subscription, encoded)

/-- The frames among the messages. -/
def framesSent (messages : List WallMessage) : List (PreviewWallSubscription × Bytes) := messages.filterMap WallMessage.frame?

def ofSlot (slot : Nat) (frames : List (PreviewWallSubscription × Bytes)) : List (PreviewWallSubscription × Bytes) :=
  frames.filter fun frame => frame.1.slot = slot

theorem framesSent_append (messages : List WallMessage) (message : WallMessage) :
    framesSent (messages ++ [message]) = framesSent messages ++ message.frame?.toList := by
  rw [framesSent, List.filterMap_append, framesSent]
  cases message <;> rfl

theorem ofSlot_append (slot : Nat) (frames later : List (PreviewWallSubscription × Bytes)) :
    ofSlot slot (frames ++ later) = ofSlot slot frames ++ ofSlot slot later := List.filter_append ..

theorem ofSlot_singleton (slot : Nat) (frame : PreviewWallSubscription × Bytes) :
    ofSlot slot [frame] = if frame.1.slot = slot then [frame] else [] := by
  simp [ofSlot, List.filter_singleton]

/-- The frame that waits for a slot is its newest, and comes after all the frames sent. -/
structure Logs (session : PreviewWallSession) (produced sent : List (PreviewWallSubscription × Bytes)) : Prop where
  newest : ∀ slot pending, session.latestFrames.get? slot = some pending → (ofSlot slot produced).getLast? = some pending
  inOrder : ∀ slot, (ofSlot slot sent ++ (session.latestFrames.get? slot).toList).Sublist (ofSlot slot produced)

namespace Logs

variable {session after : PreviewWallSession} {produced sent : List (PreviewWallSubscription × Bytes)}

theorem quiet (logs : Logs session produced sent)
    (latest : ∀ slot pending, after.latestFrames.get? slot = some pending → session.latestFrames.get? slot = some pending) :
    Logs after produced sent where
  newest slot pending found := logs.newest slot pending (latest slot pending found)
  inOrder slot := by
    cases found : after.latestFrames.get? slot with
    | none =>
      rw [Option.toList_none, List.append_nil]
      exact (List.sublist_append_left _ _).trans (logs.inOrder slot)
    | some pending =>
      have before := logs.inOrder slot
      rwa [latest slot pending found] at before

/-- A frame is produced, and waits in its slot. -/
theorem store (logs : Logs session produced sent) (subscription : PreviewWallSubscription) (encoded : Bytes) :
    Logs (session.store subscription encoded) (produced ++ [(subscription, encoded)]) sent where
  newest slot pending found := by
    rw [store_latest] at found
    rw [ofSlot_append, ofSlot_singleton]
    split at found
    · next same =>
      cases found
      rw [if_pos same.symm, List.getLast?_append, List.getLast?_singleton, Option.some_or]
    · next differs =>
      rw [if_neg (Ne.symm differs), List.append_nil]
      exact logs.newest slot pending found
  inOrder slot := by
    rw [store_latest, ofSlot_append, ofSlot_singleton]
    split
    · next same =>
      rw [if_pos same.symm, Option.toList_some]
      exact ((List.sublist_append_left _ _).trans (logs.inOrder slot)).append_right _
    · next differs =>
      rw [if_neg (Ne.symm differs), List.append_nil]
      exact logs.inOrder slot

/-- The frame that waits for a slot is sent. -/
theorem taken (logs : Logs session produced sent) (sound : session.Sound) {slot : Nat} {slots : List Nat}
    {pending : PreviewWallSubscription × Bytes} (found : session.latestFrames.get? slot = some pending) :
    Logs (session.frameTaken slot slots) produced (sent ++ [pending]) where
  newest other waiting foundOther := logs.newest other waiting (OrderedDict.get?_pop_eq_some_iff.mp foundOther).2
  inOrder other := by
    have ofPending : pending.1.slot = slot := by
      obtain ⟨id, entry, isEntry, known, same⟩ := sound.fresh slot pending found
      obtain ⟨current, knownCurrent, currentSlot, -⟩ := sound.current slot id isEntry
      rw [known, Option.some.injEq] at knownCurrent
      rw [← same, knownCurrent, currentSlot]
    have before := logs.inOrder other
    rw [frameTaken, ofSlot_append, ofSlot_singleton]
    by_cases same : other = slot
    · rw [same, if_pos ofPending, OrderedDict.get?_pop_self, Option.toList_none, List.append_nil]
      rwa [same, found] at before
    · rw [if_neg fun both => same (both.symm.trans ofPending), List.append_nil, OrderedDict.get?_pop_of_ne _ same]
      exact before

end Logs

/-! ## The invariant -/

namespace WallWorld

/-- The entries that `close` has still to stop. -/
def closing (world : WallWorld) : List Nat := world.closer.elim [] Prod.snd

structure Sound (world : WallWorld) : Prop where
  session : world.session.Sound
  listed : world.session.Listed world.receiver.rest
  wanted : world.session.Wanted world.session.desired world.receiver.rest
  syncing : ∀ sync id rest, world.receiver = .stopping sync id rest → world.session.desired = desiredOf sync
  out : ∀ id, world.Awaited id → world.session.Out id
  closing : ∀ id ∈ world.closing, world.session.Out id
  tracked : world.session.Tracked world.closing
  closed : world.closer.isSome → world.session.closed = true
  logs : Logs world.session world.produced (framesSent world.sent)
  awake : world.senderWaits = true → world.session.control.entries ≠ [] ∨ world.session.readySlots ≠ [] →
    world.session.wake = true

theorem sound_initial : initial.Sound where
  session := sound_new
  listed pair member := absurd member List.not_mem_nil
  wanted slot id entry found := by cases found
  syncing sync id rest stopping := by cases stopping
  out id awaited := by
    rcases awaited with ⟨sync, rest, stopping⟩ | ⟨failing, member, -⟩ | ⟨rest, closing⟩
    · cases stopping
    · cases member
    · cases closing
  closing id member := absurd member List.not_mem_nil
  tracked id entry known := by simp [initial, PreviewWallSession.new] at known
  closed isSome := by cases isSome
  logs := Logs.mk (fun slot pending found => by cases found) fun slot => List.Sublist.refl _
  awake waits := by cases waits

/-- A sender that waits has nothing to send, or is woken. -/
def Awake (session : PreviewWallSession) : Prop :=
  session.control.entries ≠ [] ∨ session.readySlots ≠ [] → session.wake = true

theorem Awake.quiet {before after : PreviewWallSession} (awake : Awake before) (quiet : Quiet before after) : Awake after := by
  intro messages
  rcases quiet.wake with woken | ⟨sameWake, sameControl⟩
  · exact woken
  · rw [sameWake]
    refine awake (messages.imp (fun control => ?_) fun isReady => ?_)
    · rwa [sameControl] at control
    · obtain ⟨slot, member⟩ := List.exists_mem_of_ne_nil _ isReady
      exact List.ne_nil_of_mem (quiet.ready.subset member)

/-- A step of a task: nothing becomes current, and nothing new waits. -/
theorem Sound.shrinks {world : WallWorld} (sound : world.Sound) {session : PreviewWallSession} (soundAfter : session.Sound)
    (shrinks : Shrinks world.session session) (tracked : session.Tracked world.closing) :
    { world with session := session }.Sound where
  session := soundAfter
  listed := sound.listed.shrinks shrinks
  wanted := by
    have wanted := sound.wanted.shrinks shrinks
    rwa [← shrinks.desired] at wanted
  syncing sync id rest stopping := shrinks.desired.trans (sound.syncing sync id rest stopping)
  out id awaited := (sound.out id awaited).shrinks shrinks
  closing id member := (sound.closing id member).shrinks shrinks
  tracked := tracked
  closed isSome := shrinks.closed.trans (sound.closed isSome)
  logs := sound.logs.quiet shrinks.latest
  awake waits := Awake.quiet (sound.awake waits) shrinks.toQuiet

/-- A sync that goes on up to the next task it awaits. -/
theorem Sound.continued {world : WallWorld} (sound : world.Sound) {sync : PreviewWallSync} {between session : PreviewWallSession}
    {receiver : Receiver} (continued : between.Continued sync session receiver) (out : ∀ id, world.session.Out id → between.Out id)
    (tracked : between.Tracked world.closing) (closed : between.closed = world.session.closed)
    (latest : between.latestFrames = world.session.latestFrames)
    (awake : Awake world.session → Awake between) : { world with session := session, receiver := receiver }.Sound where
  session := continued.syncing.sound
  listed := continued.syncing.listed
  wanted := by
    have wanted := continued.syncing.wanted
    rwa [← continued.syncing.desired] at wanted
  syncing other id rest stopping := by
    rw [(continued.stopping other id rest stopping).1]
    exact continued.syncing.desired
  out id awaited := by
    rcases awaited with ⟨other, rest, stopping⟩ | others
    · exact (continued.stopping other id rest stopping).2
    · exact continued.out id (out id (sound.out id (.inr others)))
  closing id member := continued.out id (out id (sound.closing id member))
  tracked := continued.tracked _ tracked
  closed isSome := (continued.quiet.closed.trans closed).trans (sound.closed isSome)
  logs := sound.logs.quiet fun slot pending found => latest ▸ continued.quiet.latest slot pending found
  awake waits := (awake (sound.awake waits)).quiet continued.quiet

/-- The session with what a sync wants. -/
def wanting (session : PreviewWallSession) (sync : PreviewWallSync) : PreviewWallSession :=
  { session with desired := desiredOf sync }

theorem applySync_continued {session : PreviewWallSession} (sound : session.Sound) (sync : PreviewWallSync) :
    (wanting session sync).Continued sync (session.applySync sync).1 (session.applySync sync).2 := by
  have soundBefore : (wanting session sync).Sound := { sound with }
  exact continueSync_continued session.entries.entries {
    sound := soundBefore
    listed := listed_entries soundBefore
    desired := rfl
    wanted := fun slot id entry found _ => .inl (OrderedDict.mem_of_get? found) }

theorem Sound.sync {world : WallWorld} (sound : world.Sound) (sync : PreviewWallSync) :
    { world with session := (world.session.applySync sync).1, receiver := (world.session.applySync sync).2 }.Sound := by
  exact sound.continued (applySync_continued sound.session sync) (fun id out => ⟨out.known, out.outOfSlot⟩) sound.tracked rfl rfl
    fun awake => awake

theorem Sound.resumed_continued {world : WallWorld} (sound : world.Sound) {sync : PreviewWallSync} {id : Nat}
    {rest : List (Nat × Nat)} (stopping : world.receiver = .stopping sync id rest) (stopped : world.session.taskDone id = true) :
    (world.session.modify id ActivePreview.cleanupStopped).Continued sync
      (continueSync sync rest (world.session.modify id ActivePreview.cleanupStopped)).1
      (continueSync sync rest (world.session.modify id ActivePreview.cleanupStopped)).2 := by
  have shrinks := modify_shrinks world.session id cleanupStopped_subscription
  have desired := sound.syncing sync id rest stopping
  have before : world.session.Syncing sync rest := {
    sound := sound.session
    listed := by
      have listed := sound.listed
      rwa [stopping] at listed
    desired := desired
    wanted := by
      have wanted := sound.wanted
      rwa [stopping, desired] at wanted }
  exact continueSync_continued rest (before.shrinks (cleanupStopped_sound sound.session stopped) shrinks)

theorem Sound.syncResumed {world : WallWorld} (sound : world.Sound) {sync : PreviewWallSync} {id : Nat}
    {rest : List (Nat × Nat)} (stopping : world.receiver = .stopping sync id rest) (stopped : world.session.taskDone id = true) :
    { world with
      session := (continueSync sync rest (world.session.modify id ActivePreview.cleanupStopped)).1,
      receiver := (continueSync sync rest (world.session.modify id ActivePreview.cleanupStopped)).2 }.Sound := by
  have shrinks := modify_shrinks world.session id cleanupStopped_subscription
  exact sound.continued (sound.resumed_continued stopping stopped) (fun other out => out.shrinks shrinks) (cleanupStopped_tracked stopped (sound.tracked.more id)) rfl rfl
    fun awake => awake.quiet shrinks.toQuiet

/-- A change of an entry that is in no slot. -/
theorem Sound.modified {world : WallWorld} (sound : world.Sound) {id : Nat} {entry : ActivePreview}
    (known : world.session.previews[id]? = some entry) {change : ActivePreview → ActivePreview}
    (subscription : ∀ other, (change other).subscription = other.subscription)
    (runs : entry.Runs → (change entry).Runs) (tidy : entry.Tidy → (change entry).Tidy)
    (stops : entry.Stops → (change entry).Stops) :
    { world with session := world.session.modify id change }.Sound := by
  refine sound.shrinks (sound.session.modify subscription (fun other knownOther current => ?_) fun other knownOther => ?_)
    (modify_shrinks world.session id subscription) (sound.tracked.modify subscription fun other knownOther => ?_)
  · obtain ⟨running, knownRunning, -, isRunning⟩ := sound.session.current _ _ current
    rw [knownOther, Option.some.injEq] at knownRunning
    rw [known, Option.some.injEq] at knownOther
    subst knownRunning knownOther
    exact runs isRunning
  · rw [known, Option.some.injEq] at knownOther
    exact knownOther ▸ tidy
  · rw [known, Option.some.injEq] at knownOther
    exact knownOther ▸ stops

theorem ofSubscription {subscription : PreviewWallSubscription} {session : PreviewWallSession} (sound : session.Sound) {id : Nat}
    (current : session.entries.get? subscription.slot = some id) :
    session.previews[id]?.map (·.subscription.slot) = some subscription.slot := by
  obtain ⟨entry, known, isSlot, -⟩ := sound.current _ _ current
  rw [known, Option.map_some, isSlot]

theorem Sound.frame {world : WallWorld} (sound : world.Sound) {id : Nat} {entry : ActivePreview} (jpeg : Bytes)
    (known : world.session.previews[id]? = some entry) (phase : entry.phase = .streaming) :
    { world with
      session := world.session.frameRead id entry jpeg,
      produced := world.produced ++ producedBy world.session id entry jpeg }.Sound := by
  have soundAfter := frameRead_sound sound.session known phase jpeg
  have trackedAfter := @frameRead_tracked _ id entry sound.session jpeg _ sound.tracked
  rcases frameRead_cases world.session id entry jpeg with ⟨encoded, produces, current, same⟩ | ⟨produces, ends⟩
  · have announced := announce_shrinks world.session id entry
    have told := sound.shrinks (announce_sound sound.session id entry) announced
      (announce_tracked world.session id entry sound.tracked)
    obtain ⟨entries, previews, desired, closed, -, wake⟩ :=
      store_fields (world.session.announce id entry) entry.subscription encoded
    rw [same] at soundAfter trackedAfter ⊢
    rw [produces]
    exact {
      session := soundAfter
      listed := by
        rw [Listed, entries, previews]
        exact told.listed
      wanted := by
        rw [Wanted, entries, previews, desired]
        exact told.wanted
      syncing := fun sync other rest stopping => desired.trans (told.syncing sync other rest stopping)
      out := fun other awaited =>
        ⟨previews ▸ (told.out other awaited).known, fun slot => entries ▸ (told.out other awaited).outOfSlot slot⟩
      closing := fun other member =>
        ⟨previews ▸ (told.closing other member).known, fun slot => entries ▸ (told.closing other member).outOfSlot slot⟩
      tracked := trackedAfter
      closed := fun isSome => closed.trans (told.closed isSome)
      logs := told.logs.store entry.subscription encoded
      awake := fun _ _ => wake }
  · rw [produces, List.append_nil]
    refine sound.shrinks soundAfter ?_ trackedAfter
    rcases ends with same | ⟨code, message, same⟩
    · exact same ▸ finish_shrinks sound.session id entry true
    · exact same ▸ sourceFailed_shrinks sound.session id entry code message

theorem Sound.sent {world : WallWorld} (sound : world.Sound) {message : WallMessage}
    (taken : world.session.nextMessage.2 = some message) :
    { world with session := world.session.nextMessage.1, senderWaits := false, sent := world.sent ++ [message] }.Sound := by
  rcases nextMessage_cases sound.session with
    ⟨key, text, rest, control, -, same⟩ | ⟨slot, slots, pending, ready, found, same⟩ | ⟨-, -, nothing, -⟩
  · rw [same, Option.some.injEq] at taken
    subst taken
    rw [same]
    exact { sound with
      session := controlTaken_sound sound.session key
      out := fun id awaited => ⟨(sound.out id awaited).known, (sound.out id awaited).outOfSlot⟩
      closing := fun id member => ⟨(sound.closing id member).known, (sound.closing id member).outOfSlot⟩
      logs := by
        rw [framesSent_append, WallMessage.frame?, Option.toList_none, List.append_nil]
        exact sound.logs.quiet fun _ _ found => found
      awake := fun waits => by cases waits }
  · rw [same, Option.some.injEq] at taken
    subst taken
    rw [same]
    exact { sound with
      session := frameTaken_sound sound.session ready
      out := fun id awaited => ⟨(sound.out id awaited).known, (sound.out id awaited).outOfSlot⟩
      closing := fun id member => ⟨(sound.closing id member).known, (sound.closing id member).outOfSlot⟩
      logs := by
        rw [framesSent_append, WallMessage.frame?, Option.toList_some]
        exact sound.logs.taken sound.session found
      awake := fun waits => by cases waits }
  · rw [nothing] at taken
    cases taken

theorem Sound.waits {world : WallWorld} (sound : world.Sound) (none : world.session.nextMessage.2 = none) :
    { world with session := world.session.nextMessage.1, senderWaits := true }.Sound := by
  rcases nextMessage_cases sound.session with
    ⟨key, text, rest, -, -, same⟩ | ⟨slot, slots, pending, -, -, same⟩ | ⟨control, ready, -, same⟩
  · rw [same] at none
    cases none
  · rw [same] at none
    cases none
  · rw [same]
    exact { sound with
      session := { sound.session with }
      out := fun id awaited => ⟨(sound.out id awaited).known, (sound.out id awaited).outOfSlot⟩
      closing := fun id member => ⟨(sound.closing id member).known, (sound.closing id member).outOfSlot⟩
      logs := sound.logs.quiet fun _ _ found => found
      awake := fun _ messages => (messages.elim (absurd control) (absurd ready)) }

theorem Sound.close {world : WallWorld} (sound : world.Sound) (idle : world.receiver = .idle)
    (isOpen : world.session.closed = false) :
    { world with session := world.session.close.1, closer := world.session.close.2 }.Sound := by
  have notClosing : world.closer = none := by
    cases closer : world.closer with
    | none => rfl
    | some closing => exact absurd (sound.closed (by rw [closer]; rfl)) (by rw [isOpen]; exact Bool.false_ne_true)
  have tracked := sound.tracked
  rw [WallWorld.closing, notClosing] at tracked
  obtain ⟨soundAfter, trackedAfter, out⟩ := close_spec sound.session tracked
  have shrinks := close_shrinks world.session
  have cleared (id : Nat) (outBefore : world.session.Out id) : world.session.cleared.Out id :=
    ⟨outBefore.known, fun slot found => by cases found⟩
  have clearedLogs : Logs world.session.cleared world.produced (framesSent world.sent) :=
    sound.logs.quiet fun _ _ found => by cases found
  exact {
    session := soundAfter
    listed := fun pair member => by
      rw [idle] at member
      cases member
    wanted := fun slot id entry found => by cases shrinks.entries slot id found
    syncing := fun sync id rest stopping => by
      rw [idle] at stopping
      cases stopping
    out := fun id awaited => by
      rcases awaited with ⟨sync, rest, stopping⟩ | failing | ⟨rest, closer⟩
      · rw [idle] at stopping
        cases stopping
      · exact (cleared id (sound.out id (.inr (.inl failing)))).shrinks shrinks
      · exact out id rest closer id List.mem_cons_self
    closing := fun id member => by
      cases closer : world.session.close.2 with
      | none =>
        rw [WallWorld.closing, closer] at member
        cases member
      | some first =>
        rw [WallWorld.closing, closer] at member
        exact out first.1 first.2 closer id (List.mem_cons_of_mem _ member)
    tracked := trackedAfter
    closed := fun _ => shrinks.closed
    logs := {
      newest := fun slot pending found => by cases shrinks.latest slot pending found
      inOrder := (clearedLogs.quiet shrinks.latest).inOrder }
    awake := fun waits => by
      have clearedAwake : Awake world.session.cleared := fun messages =>
        sound.awake waits (.inl (messages.resolve_right fun ready => ready rfl))
      exact clearedAwake.quiet shrinks.toQuiet }

theorem Sound.closeResumed {world : WallWorld} (sound : world.Sound) {id : Nat} {rest : List Nat}
    (closer : world.closer = some (id, rest)) (stopped : world.session.taskDone id = true) :
    { world with
      session := (continueClose rest (world.session.modify id ActivePreview.cleanupStopped)).1,
      closer := (continueClose rest (world.session.modify id ActivePreview.cleanupStopped)).2 }.Sound := by
  have shrinks := modify_shrinks world.session id cleanupStopped_subscription
  have waiting := sound.closing
  have tracked := sound.tracked
  rw [WallWorld.closing, closer] at waiting tracked
  obtain ⟨soundAfter, trackedAfter, out⟩ := continueClose_spec rest
    (cleanupStopped_sound sound.session stopped) (fun other member => (waiting other member).shrinks shrinks)
    (cleanupStopped_tracked stopped (tracked.more id))
  have whole := shrinks.trans (continueClose_shrinks rest _)
  exact {
    session := soundAfter
    listed := sound.listed.shrinks whole
    wanted := by
      have wanted := sound.wanted.shrinks whole
      rwa [← whole.desired] at wanted
    syncing := fun sync other later stopping => whole.desired.trans (sound.syncing sync other later stopping)
    out := fun other awaited => by
      rcases awaited with stopping | failing | ⟨later, resumes⟩
      · exact (sound.out other (.inl stopping)).shrinks whole
      · exact (sound.out other (.inr (.inl failing))).shrinks whole
      · exact out other later resumes other List.mem_cons_self
    closing := fun other member => by
      cases resumes : (continueClose rest (world.session.modify id ActivePreview.cleanupStopped)).2 with
      | none =>
        rw [WallWorld.closing, resumes] at member
        cases member
      | some first =>
        rw [WallWorld.closing, resumes] at member
        exact out first.1 first.2 resumes other (List.mem_cons_of_mem _ member)
    tracked := trackedAfter
    closed := fun _ => whole.closed.trans (sound.closed (by rw [closer]; rfl))
    logs := sound.logs.quiet whole.latest
    awake := fun waits => Awake.quiet (sound.awake waits) whole.toQuiet }

theorem Sound.fail {world : WallWorld} (sound : world.Sound) {id : Nat} (subscription : PreviewWallSubscription)
    (code message : String) (current : world.session.entries.get? subscription.slot = some id) :
    { world with
      session := (world.session.popEntry subscription.slot).modify id ActivePreview.cancel,
      failing := { id, subscription, code, message } :: world.failing }.Sound := by
  have out := out_popEntry sound.session (ofSubscription sound.session current)
  have soundPopped := sound.session.popEntry subscription.slot
  have cancelled := cancel_shrinks (world.session.popEntry subscription.slot) id
  have popped := sound.shrinks (cancel_sound soundPopped out.outOfSlot)
    ((popEntry_shrinks sound.session subscription.slot).trans cancelled)
    (cancel_tracked ((sound.tracked.more id).popEntry sound.session fun other found => Option.some.inj (found.symm.trans current)))
  exact { popped with
    out := fun other awaited => by
      rcases awaited with stopping | ⟨failing, member, rfl⟩ | closes
      · exact popped.out other (.inl stopping)
      · rcases List.mem_cons.mp member with rfl | earlier
        · exact out.shrinks cancelled
        · exact popped.out _ (.inr (.inl ⟨failing, earlier, rfl⟩))
      · exact popped.out other (.inr (.inr closes)) }

theorem Sound.failResumed {world : WallWorld} (sound : world.Sound) {failing : Failing}
    (stopped : world.session.taskDone failing.id = true) :
    { world with
      session := (world.session.modify failing.id ActivePreview.cleanupStopped).queueEvent
        (.error failing.subscription.slot failing.subscription.subscriptionId failing.code failing.message),
      failing := world.failing.erase failing }.Sound := by
  have cleaned := cleanupStopped_tracked stopped (sound.tracked.more failing.id)
  have told := sound.shrinks ((cleanupStopped_sound sound.session stopped).queueEvent
      (.error failing.subscription.slot failing.subscription.subscriptionId failing.code failing.message))
    ((modify_shrinks world.session failing.id cleanupStopped_subscription).trans (queueEvent_shrinks _ _))
    (cleaned.congr (queueEvent_entries _ _) (queueEvent_previews _ _))
  exact { told with
    out := fun other awaited => by
      rcases awaited with stopping | ⟨remaining, member, same⟩ | closes
      · exact told.out other (.inl stopping)
      · exact told.out other (.inr (.inl ⟨remaining, List.mem_of_mem_erase member, same⟩))
      · exact told.out other (.inr (.inr closes)) }

theorem Sound.interrupted {world : WallWorld} (sound : world.Sound) {id : Nat} {entry : ActivePreview}
    (known : world.session.previews[id]? = some entry) (requested : entry.cancelRequested = true) :
    (world.session.modify id ActivePreview.interrupted).Sound := by
  refine sound.session.modify (fun _ => rfl) (fun other knownOther current => ?_) fun _ _ tidy => tidy
  obtain ⟨running, knownRunning, -, isRunning⟩ := sound.session.current _ _ current
  rw [knownOther, Option.some.injEq] at knownRunning
  rw [known, Option.some.injEq] at knownOther
  subst knownRunning knownOther
  exact absurd (isRunning.goesOn.symm.trans requested) Bool.false_ne_true

/-- Whatever happens next, the invariant goes on. -/
theorem Sound.step {world after : WallWorld} {action : WallAction} (sound : world.Sound) (step : WallStep world action after) :
    after.Sound := by
  cases step with
  | sync sync idle isOpen => exact sound.sync sync
  | syncResumed stopping stopped => exact sound.syncResumed stopping stopped
  | @started id entry known phase goesOn =>
    refine sound.modified known (fun _ => rfl) (fun _ => ⟨.inr (.inl rfl), goesOn⟩) (fun tidy => ?_) fun stops => ?_
    · simpa only [ActivePreview.Tidy, phase] using tidy
    · rcases stops with requested | closing | done
      · exact .inl requested
      · exact absurd (phase.symm.trans closing) (by decide)
      · exact absurd (phase.symm.trans done) (by decide)
  | @opened id entry known phase goesOn =>
    refine sound.shrinks (sourceOpened_sound sound.session known phase goesOn) ?_
      (sourceOpened_tracked known goesOn phase sound.tracked)
    rw [sourceOpened_eq]
    exact modify_shrinks _ id (openedEntry_subscription _)
  | frame jpeg known phase goesOn => exact sound.frame jpeg known phase
  | @ended id entry known phase goesOn =>
    exact sound.shrinks (finish_sound sound.session known (.inr phase) true) (finish_shrinks sound.session id entry true)
      (finish_tracked sound.session id entry true (sound.tracked.more id))
  | @failed id entry code message known phase goesOn =>
    exact sound.shrinks (sourceFailed_sound sound.session known phase code message)
      (sourceFailed_shrinks sound.session id entry code message)
      (sourceFailed_tracked sound.session id entry code message sound.tracked)
  | @neverRan id entry known phase requested =>
    refine sound.modified known (fun _ => rfl) (fun runs => ?_) (fun tidy => ?_) fun _ => .inr (.inr rfl)
    · exact absurd (runs.goesOn.symm.trans requested) Bool.false_ne_true
    · simp only [ActivePreview.Tidy, phase] at tidy
      simp [ActivePreview.Tidy, ActivePreview.interrupted, tidy]
  | @cancelled id entry known phase requested =>
    -- the preview is marked as interrupted first, and then finished
    have interrupted := sound.interrupted known requested
    have changed : Shrinks world.session (world.session.modify id ActivePreview.interrupted) :=
      modify_shrinks world.session id fun _ => rfl
    exact sound.shrinks (finish_sound interrupted (previews_modify_self known ActivePreview.interrupted) phase false)
      (changed.trans (finish_shrinks interrupted id entry.interrupted false))
      (finish_tracked interrupted id entry.interrupted false ((sound.tracked.more id).change _))
  | @previewClosed id entry known phase goesOn =>
    refine sound.modified known (fun _ => rfl) (fun runs => ?_) (fun tidy => ?_) fun _ => .inr (.inr rfl)
    · exact absurd runs.phase (by rw [phase]; decide)
    · simp only [ActivePreview.Tidy, phase] at tidy
      simp [ActivePreview.Tidy, tidy]
  | @closeInterrupted id entry known phase requested =>
    refine sound.modified known (fun _ => rfl) (fun runs => ?_) (fun tidy => ?_) fun _ => .inr (.inr rfl)
    · exact absurd runs.phase (by rw [phase]; decide)
    · simp only [ActivePreview.Tidy, phase] at tidy
      simp [ActivePreview.Tidy, ActivePreview.interrupted, tidy]
  | @cancelledAgain id awaited isRunning =>
    exact sound.shrinks (cancel_sound sound.session (sound.out id awaited).outOfSlot) (cancel_shrinks world.session id)
      (cancel_tracked (sound.tracked.more id))
  | sent awake taken => exact sound.sent taken
  | waits awake none => exact sound.waits none
  | fail subscription code message current known same => exact sound.fail subscription code message current
  | failResumed member stopped => exact sound.failResumed stopped
  | close idle isOpen => exact sound.close idle isOpen
  | closeResumed closing stopped => exact sound.closeResumed closing stopped

theorem Sound.run {world after : WallWorld} {actions : List WallAction} (run : Run WallStep world actions after)
    (sound : world.Sound) : after.Sound :=
  @Run.invariant _ _ _ WallWorld.Sound (fun _ _ _ kept step => kept.step step) _ _ _ run sound

end WallWorld

/-! ### A wall with one camera -/

theorem seven_is_uuid : 7 < 2 ^ 128 := by norm_num

def wallUuid : UUID := ⟨7, seven_is_uuid⟩

def wallSubscription : PreviewWallSubscription :=
  { slot := 2, subscriptionId := 40, cameraId := wallUuid, mediaSessionId := wallUuid, slotBound := by decide, idBound := by decide }

def wallSync : PreviewWallSync :=
  { layoutSlots := .four, streams := [wallSubscription], slotsNodup := List.nodup_singleton _, slotsInRange := by decide }

def wallJpeg : Bytes := [0xff, 0xd8, 0xff, 0xd9]

/-- The camera was opened, and produced a frame. -/
theorem wallRun : ∃ world, Run WallStep .initial [.sync wallSync, .started 0, .opened 0, .frame 0 wallJpeg] world ∧
    world.session.readySlots = [2] ∧ world.senderWaits = false ∧
    ∃ text rest, world.session.nextMessage.2 = some (.text text) ∧ world.session.nextMessage.1.readySlots = 2 :: rest := by
  refine ⟨_, .next (@WallStep.sync .initial wallSync rfl rfl) (.next (@WallStep.started _ 0 _ rfl rfl rfl)
    (.next (@WallStep.opened _ 0 _ rfl rfl rfl) (.next (@WallStep.frame _ 0 _ wallJpeg rfl rfl rfl) (.done _)))), rfl, rfl,
    _, _, rfl, rfl⟩

/-! ## Waiting for the sender -/

def WallAction.isSent : WallAction → Bool
  | .sent _ => true
  | _ => false

/-- How many messages are sent at most before the frame of a slot that is ready. -/
def patience (slot : Nat) (session : PreviewWallSession) : Nat :=
  2 * session.readySlots.idxOf slot + if session.lastMessageWasControl then 0 else 1

theorem idxOf_sublist {slot : Nat} {fewer slots : List Nat} (sublist : fewer.Sublist slots) (nodup : slots.Nodup)
    (member : slot ∈ fewer) : fewer.idxOf slot ≤ slots.idxOf slot := by
  induction sublist with
  | slnil => cases member
  | @cons fewer slots first sublist ih =>
    obtain ⟨isFirst, nodupRest⟩ := List.nodup_cons.mp nodup
    have differs : first ≠ slot := by
      rintro rfl
      exact isFirst (sublist.subset member)
    rw [List.idxOf_cons_ne _ differs]
    exact (ih nodupRest member).trans (Nat.le_succ _)
  | @cons_cons fewer slots first sublist ih =>
    by_cases same : first = slot
    · rw [same, List.idxOf_cons_self]
      exact Nat.zero_le _
    · rw [List.idxOf_cons_ne _ same, List.idxOf_cons_ne _ same]
      exact Nat.succ_le_succ (ih (List.nodup_cons.mp nodup).2 ((List.mem_cons.mp member).resolve_left (Ne.symm same)))

theorem patience_keepsTurn {before after : PreviewWallSession} (keeps : KeepsTurn before after) (sound : before.Sound) {slot : Nat}
    (isReady : slot ∈ before.readySlots) (staysReady : slot ∈ after.readySlots) :
    patience slot after ≤ patience slot before := by
  obtain ⟨last, slots⟩ := keeps
  rw [patience, patience, last]
  refine Nat.add_le_add_right (Nat.mul_le_mul_left 2 ?_) _
  rcases slots with sublist | ⟨later, append⟩
  · exact idxOf_sublist sublist sound.readyNodup staysReady
  · rw [append, List.idxOf_append_of_mem isReady]

/-- What a step that sends nothing does to the slots that are ready. -/
theorem WallStep.keepsTurn {world after : WallWorld} {action : WallAction} (sound : world.Sound)
    (step : WallStep world action after) (sendsNothing : action.isSent = false) : KeepsTurn world.session after.session := by
  cases step with
  | sync sync idle isOpen =>
    have quiet := (WallWorld.applySync_continued sound.session sync).quiet
    exact ⟨quiet.last, .inl quiet.ready⟩
  | syncResumed stopping stopped =>
    exact ((modify_shrinks _ _ cleanupStopped_subscription).toQuiet.trans (sound.resumed_continued stopping stopped).quiet).keepsTurn
  | started known phase goesOn => exact ⟨rfl, .inl (.refl _)⟩
  | opened known phase goesOn =>
    rw [sourceOpened_eq]
    exact ⟨rfl, .inl (.refl _)⟩
  | @frame id entry jpeg known phase goesOn => exact frameRead_keepsTurn sound.session id entry jpeg
  | @ended id entry known phase goesOn => exact (finish_shrinks sound.session id entry true).keepsTurn
  | @failed id entry code message known phase goesOn =>
    exact (sourceFailed_shrinks sound.session id entry code message).keepsTurn
  | neverRan known phase requested => exact ⟨rfl, .inl (.refl _)⟩
  | @cancelled id entry known phase requested =>
    exact (finish_shrinks (sound.interrupted known requested) id entry false).keepsTurn
  | previewClosed known phase goesOn => exact ⟨rfl, .inl (.refl _)⟩
  | closeInterrupted known phase requested => exact ⟨rfl, .inl (.refl _)⟩
  | cancelledAgain awaited isRunning => exact ⟨rfl, .inl (.refl _)⟩
  | sent awake taken => cases sendsNothing
  | waits awake none =>
    rcases nextMessage_cases sound.session with
      ⟨key, text, rest, -, -, same⟩ | ⟨slot, slots, pending, -, -, same⟩ | ⟨-, -, -, same⟩
    · rw [same] at none
      cases none
    · rw [same] at none
      cases none
    · rw [same]
      exact ⟨rfl, .inl (.refl _)⟩
  | fail subscription code message current known same =>
    exact (popEntry_shrinks sound.session subscription.slot).keepsTurn
  | failResumed member stopped => exact (queueEvent_shrinks _ _).keepsTurn
  | close idle isOpen =>
    have shrinks := close_shrinks world.session
    exact ⟨shrinks.last, .inl (shrinks.ready.trans (List.nil_sublist _))⟩
  | @closeResumed id rest closing stopped =>
    exact ((modify_shrinks world.session id cleanupStopped_subscription).trans (continueClose_shrinks rest _)).keepsTurn

/-- A slot that stays ready pays for every message with its patience. -/
theorem WallStep.patience {world after : WallWorld} {action : WallAction} (sound : world.Sound) (step : WallStep world action after)
    {slot : Nat} (isReady : slot ∈ world.session.readySlots) (staysReady : slot ∈ after.session.readySlots) :
    action.isSent.toNat + PreviewWall.patience slot after.session ≤ PreviewWall.patience slot world.session := by
  cases sends : action.isSent with
  | false =>
    rw [Bool.toNat_false, Nat.zero_add]
    exact patience_keepsTurn (step.keepsTurn sound sends) sound.session isReady staysReady
  | true =>
    cases step with
    | sent awake taken =>
      rcases nextMessage_cases sound.session with
        ⟨key, text, rest, -, turn, same⟩ | ⟨first, slots, pending, ready, -, same⟩ | ⟨-, -, nothing, -⟩
      · have last := turn.resolve_left (List.ne_nil_of_mem isReady)
        simp [PreviewWall.patience, same, controlTaken, last, Nat.add_comm]
      · have differs : first ≠ slot := by
          rintro rfl
          have nodup := sound.session.readyNodup
          rw [same] at staysReady
          rw [ready] at nodup
          exact (List.nodup_cons.mp nodup).1 staysReady
        simp only [PreviewWall.patience, same, frameTaken, ready, List.idxOf_cons_ne _ differs, Bool.toNat_true,
          Bool.false_eq_true, if_false]
        omega
      · rw [nothing] at taken
        cases taken
    | _ => cases sends

/-- A slot that is ready is a slot of the wall. -/
theorem slot_of_ready {session : PreviewWallSession} (sound : session.Sound) {slot : Nat} (isReady : slot ∈ session.readySlots) :
    slot < 16 := by
  obtain ⟨pending, found⟩ := Option.isSome_iff_exists.mp ((sound.pending slot).mp isReady)
  obtain ⟨id, entry, isEntry, -, -⟩ := sound.fresh slot pending found
  obtain ⟨current, -, ofSlot, -⟩ := sound.current slot id isEntry
  exact ofSlot ▸ current.subscription.slotBound

theorem readySlots_length {session : PreviewWallSession} (sound : session.Sound) : session.readySlots.length ≤ 16 := by
  have subset : session.readySlots.toFinset ⊆ Finset.range 16 := fun slot member =>
    Finset.mem_range.mpr (slot_of_ready sound (List.mem_toFinset.mp member))
  rw [← List.toFinset_card_of_nodup sound.readyNodup]
  exact (Finset.card_le_card subset).trans_eq (Finset.card_range 16)

/-- A step after which the slot is still ready. -/
def StaysReady (slot : Nat) (world : WallWorld) (action : WallAction) (after : WallWorld) : Prop :=
  WallStep world action after ∧ slot ∈ after.session.readySlots

theorem messages_le_patience {slot : Nat} {world after : WallWorld} {actions : List WallAction} (sound : world.Sound)
    (isReady : slot ∈ world.session.readySlots) (run : Run (StaysReady slot) world actions after) :
    actions.countP WallAction.isSent + patience slot after.session ≤ patience slot world.session := by
  induction run with
  | done world => rw [List.countP_nil, Nat.zero_add]
  | @next world between after action actions first _ ih =>
    obtain ⟨step, staysReady⟩ := first
    have later := ih (sound.step step) staysReady
    have paid := step.patience sound isReady staysReady
    rw [List.countP_cons]
    cases sends : action.isSent with
    | true =>
      rw [sends, Bool.toNat_true] at paid
      simp only [if_true]
      omega
    | false =>
      rw [sends, Bool.toNat_false] at paid
      simp only [Bool.false_eq_true, if_false]
      omega

/-- While the frame of a slot waits, at most two messages are sent for each of the slots before it
    and one more, and the sender does not sleep. -/
theorem ready_slot_waits {slot : Nat} {before after : WallWorld} {earlier actions : List WallAction}
    (start : Run WallStep .initial earlier before) (isReady : slot ∈ before.session.readySlots)
    (run : Run (StaysReady slot) before actions after) :
    actions.countP WallAction.isSent ≤ 2 * before.session.readySlots.idxOf slot + 1 ∧
      before.session.readySlots.idxOf slot < 16 ∧
      (after.senderWaits = true → after.session.wake = true) := by
  have sound := WallWorld.Sound.run start WallWorld.sound_initial
  have spent := messages_le_patience sound isReady run
  have soundAfter : after.Sound := WallWorld.Sound.run (run.mono fun _ _ _ step => step.1) sound
  have staysReady : slot ∈ after.session.readySlots :=
    @Run.invariant _ _ _ (fun world => slot ∈ world.session.readySlots) (fun _ _ _ _ step => step.2) _ _ _ run isReady
  refine ⟨?_, (List.idxOf_lt_length_iff.mpr isReady).trans_le (readySlots_length sound.session), fun waits =>
    soundAfter.awake waits (.inr (List.ne_nil_of_mem staysReady))⟩
  refine (Nat.le_add_right _ _).trans (spent.trans ?_)
  rw [patience]
  split <;> omega

theorem ready_slot_waits_once : ∃ (before after : WallWorld) (action : WallAction), WallStep before action after ∧
    before.session.readySlots = [2] ∧ [action].countP WallAction.isSent ≤ 2 * before.session.readySlots.idxOf 2 + 1 := by
  obtain ⟨before, start, ready, awake, text, rest, taken, staysReady⟩ := wallRun
  have step := @WallStep.sent before (.text text) (.inl awake) taken
  have stays : StaysReady 2 before (.sent (.text text)) _ := ⟨step, staysReady ▸ List.mem_cons_self⟩
  exact ⟨before, _, _, step, ready, (ready_slot_waits start (ready ▸ List.mem_cons_self) (.next stays (.done _))).1⟩

/-! ## The frames of a run -/

/-- Frames are sent slot by slot as they were produced, some left out, and the next one is the
    newest of the entry that its slot has now, which between two syncs is what the last one wants. -/
theorem frames_in_order {world : WallWorld} {actions : List WallAction} (run : Run WallStep .initial actions world) :
    (∀ slot, (ofSlot slot (framesSent world.sent)).Sublist (ofSlot slot world.produced)) ∧
      ∀ subscription encoded, world.session.nextMessage.2 = some (.frame subscription encoded) →
        (ofSlot subscription.slot world.produced).getLast? = some (subscription, encoded) ∧
        (∃ (id : Nat) (entry : ActivePreview), world.session.entries.get? subscription.slot = some id ∧
          world.session.previews[id]? = some entry ∧ entry.subscription = subscription ∧ entry.Runs) ∧
        (world.receiver = .idle → world.session.desired.get? subscription.slot = some subscription) := by
  have sound := WallWorld.Sound.run run WallWorld.sound_initial
  refine ⟨fun slot => (List.sublist_append_left _ _).trans (sound.logs.inOrder slot), fun subscription encoded taken => ?_⟩
  rcases nextMessage_cases sound.session with
    ⟨key, text, rest, -, -, same⟩ | ⟨slot, slots, pending, -, found, same⟩ | ⟨-, -, nothing, -⟩
  · rw [same] at taken
    cases taken
  · rw [same] at taken
    cases taken
    obtain ⟨id, entry, isEntry, known, sameSubscription⟩ := sound.session.fresh slot pending found
    obtain ⟨current, knownCurrent, ofSlot, runs⟩ := sound.session.current slot id isEntry
    rw [known, Option.some.injEq] at knownCurrent
    subst knownCurrent
    rw [sameSubscription] at ofSlot
    rw [ofSlot]
    refine ⟨sound.logs.newest slot pending found, ⟨id, entry, isEntry, known, sameSubscription, runs⟩, fun idle => ?_⟩
    have wanted := sound.wanted slot id entry isEntry known
    rw [idle] at wanted
    exact sameSubscription ▸ wanted.resolve_left List.not_mem_nil
  · rw [nothing] at taken
    cases taken

theorem frames_in_order_once : ∃ world : WallWorld, framesSent world.sent = [(wallSubscription, [1, 2, 0, 0, 0, 40] ++ wallJpeg)] ∧
    (ofSlot 2 (framesSent world.sent)).Sublist (ofSlot 2 world.produced) := by
  have run := Run.next (@WallStep.sync .initial wallSync rfl rfl)
    (.next (@WallStep.started _ 0 _ rfl rfl rfl) (.next (@WallStep.opened _ 0 _ rfl rfl rfl)
      (.next (@WallStep.frame _ 0 _ wallJpeg rfl rfl rfl)
        (.next (.sent (.inl rfl) rfl) (.next (.sent (.inl rfl) rfl) (.done _))))))
  exact ⟨_, rfl, (frames_in_order run).1 2⟩

/-- A preview that was opened is closed once its task is done, and once only; until then its entry
    is in its slot, with the preview open, or its task stops. -/
theorem opened_previews_closed {world : WallWorld} {actions : List WallAction} (run : Run WallStep .initial actions world)
    {id : Nat} {entry : ActivePreview} (known : world.session.previews[id]? = some entry) :
    entry.closes ≤ entry.opened.toNat ∧ entry.releases ≤ entry.closes ∧
      (entry.phase = .done → entry.closes = entry.opened.toNat) ∧
      (world.session.entries.get? entry.subscription.slot = some id ∧ entry.closes = 0 ∨ entry.Stops ∨ id ∈ world.closing) := by
  have sound := WallWorld.Sound.run run WallWorld.sound_initial
  obtain ⟨closes, releases, whileRunning, whenDone⟩ := (sound.session.tidy id entry known).counts
  refine ⟨closes, releases, whenDone, (sound.tracked id entry known).imp_left fun current => ⟨current, ?_⟩⟩
  obtain ⟨running, knownRunning, -, runs⟩ := sound.session.current _ _ current
  rw [known, Option.some.injEq] at knownRunning
  exact whileRunning (knownRunning ▸ runs)

theorem opened_previews_closed_once : ∃ (world : WallWorld) (entry : ActivePreview), world.session.previews[0]? = some entry ∧
    entry.opened = true ∧ entry.closes = entry.opened.toNat := by
  obtain ⟨world, run, entry, known, opened, done⟩ : ∃ world, Run WallStep .initial
      [.sync wallSync, .started 0, .opened 0, .ended 0, .previewClosed 0] world ∧
      ∃ entry : ActivePreview, world.session.previews[0]? = some entry ∧ entry.opened = true ∧ entry.phase = .done :=
    ⟨_, .next (@WallStep.sync .initial wallSync rfl rfl) (.next (@WallStep.started _ 0 _ rfl rfl rfl)
      (.next (@WallStep.opened _ 0 _ rfl rfl rfl) (.next (@WallStep.ended _ 0 _ rfl rfl rfl)
        (.next (@WallStep.previewClosed _ 0 _ rfl rfl rfl) (.done _))))), _, rfl, rfl, rfl⟩
  exact ⟨world, entry, known, opened, (opened_previews_closed run known).2.2.1 done⟩

end ZeroNvr.PreviewWall
