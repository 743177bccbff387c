import ZeroNvr.Lib.OrderedDict

/-! # Throttles

A throttle keeps the marks that a key got within a sliding window.  A key whose
marks reach the limit is blocked for a while.  Both tables are capped: the entry
that was made first goes first.

Under the lock-outs lies a table of ends that grow with their place, so that a
capped table loses no end that is still to come while there is room for those.
The marks have no such order.
-/

set_option linter.unusedSectionVars false

namespace ZeroNvr.Lib

structure Throttle (κ τ : Type) where
  buckets : OrderedDict κ (List τ)
  blocked : OrderedDict κ τ

namespace Throttle

structure Limits (τ : Type) where
  limit : Nat
  window : τ
  lockout : τ
  capacity : Nat

variable {κ τ : Type} [DecidableEq κ] [AddCommGroup τ] [LinearOrder τ]

/-- Pop the oldest marks up to the cutoff. -/
def prune (bucket : List τ) (cutoff : τ) : List τ := bucket.dropWhile fun mark => decide (mark ≤ cutoff)

def empty : Throttle κ τ := ⟨.empty, .empty⟩

def bucket (throttle : Throttle κ τ) (key : κ) : List τ := (throttle.buckets.get? key).getD []

def blockedUntil (throttle : Throttle κ τ) (key : κ) : τ := (throttle.blocked.get? key).getD 0

/-- Forget a lock-out that has ended, and the marks that led to it. -/
def release (throttle : Throttle κ τ) (key : κ) : Throttle κ τ :=
  if throttle.blockedUntil key = 0 then throttle else ⟨throttle.buckets.pop key, throttle.blocked.pop key⟩

def forgive (throttle : Throttle κ τ) (key : κ) : Throttle κ τ :=
  ⟨throttle.buckets.pop key, throttle.blocked.pop key⟩

/-- The bucket of a key with one more mark. -/
def struck (limits : Limits τ) (throttle : Throttle κ τ) (key : κ) (now : τ) : List τ :=
  prune (throttle.bucket key) (now - limits.window) ++ [now]

/-- The table of lock-outs before it is capped. -/
def marked (limits : Limits τ) (throttle : Throttle κ τ) (key : κ) (now : τ) : OrderedDict κ τ :=
  if limits.limit ≤ (throttle.struck limits key now).length then throttle.blocked.set key (now + limits.lockout)
  else throttle.blocked

def strike (limits : Limits τ) (throttle : Throttle κ τ) (key : κ) (now : τ) : Throttle κ τ :=
  ⟨(throttle.buckets.set key (throttle.struck limits key now)).cap limits.capacity,
    (throttle.marked limits key now).cap limits.capacity⟩

/-! ## Marks in a window -/

/-- The marks that have not expired. -/
def recent (window now : τ) (marks : List τ) : List τ := marks.filter fun mark => decide (now - window < mark)

def within (start window : τ) (marks : List τ) : List τ :=
  marks.filter fun mark => decide (start ≤ mark ∧ mark < start + window)

omit [AddCommGroup τ] in
theorem prune_eq_filter {bucket : List τ} (sorted : bucket.Pairwise (· ≤ ·)) (cutoff : τ) :
    prune bucket cutoff = bucket.filter fun mark => decide (cutoff < mark) := by
  rw [prune]
  induction bucket with
  | nil => rfl
  | cons mark rest ih =>
    obtain ⟨least, sortedRest⟩ := List.pairwise_cons.mp sorted
    by_cases isOld : mark ≤ cutoff
    · rw [List.dropWhile_cons, if_pos (decide_eq_true isOld), ih sortedRest, List.filter_cons_of_neg]
      rwa [decide_eq_true_iff, not_lt]
    · rw [List.dropWhile_cons, if_neg (by rwa [decide_eq_true_iff]), List.filter_eq_self.mpr]
      intro other member
      rcases List.mem_cons.mp member with rfl | inRest
      · exact decide_eq_true (not_le.mp isOld)
      · exact decide_eq_true ((not_le.mp isOld).trans_le (least other inRest))

variable [IsOrderedAddMonoid τ]

theorem recent_recent {window clock now : τ} (later : clock ≤ now) (marks : List τ) :
    recent window now (recent window clock marks) = recent window now marks := by
  rw [recent, recent, recent, List.filter_filter]
  refine List.filter_congr fun mark _ => ?_
  rw [Bool.and_eq_left_iff_imp, decide_eq_true_iff, decide_eq_true_iff]
  exact (sub_le_sub_right later window).trans_lt

theorem recent_length_anti {window clock now : τ} (later : clock ≤ now) (marks : List τ) :
    (recent window now marks).length ≤ (recent window clock marks).length := by
  rw [← recent_recent later]
  exact List.length_filter_le _ _

theorem recent_cons (window now mark : τ) (marks : List τ) :
    recent window now (mark :: marks) =
      if now - window < mark then mark :: recent window now marks else recent window now marks := by
  rw [recent, List.filter_cons]
  simp only [decide_eq_true_iff]
  rfl

theorem recent_of_expired {window now : τ} {marks : List τ} (expired : ∀ mark ∈ marks, mark + window ≤ now) :
    recent window now marks = [] :=
  List.filter_eq_nil_iff.mpr fun mark member => by
    rw [decide_eq_true_iff, not_lt, le_sub_iff_add_le]
    exact expired mark member

theorem mem_recent {window now mark : τ} {marks : List τ} :
    mark ∈ recent window now marks ↔ mark ∈ marks ∧ now < mark + window := by
  rw [recent, List.mem_filter, decide_eq_true_iff, sub_lt_iff_lt_add]

/-- The marks of a window that has not passed are recent. -/
theorem within_length_le {start window now : τ} (opened : now < start + window) (marks : List τ) :
    (within start window marks).length ≤ (recent window now marks).length := by
  refine List.Sublist.length_le (List.monotone_filter_right _ fun mark inWindow => ?_)
  rw [decide_eq_true_iff] at inWindow ⊢
  rw [sub_lt_iff_lt_add]
  exact opened.trans_le (add_le_add_left inWindow.1 window)

/-! ## Lock-outs

`marks` are the marks of each key that were not forgiven, `ends` all ends of lock-outs. -/

structure Sound (limits : Limits τ) (throttle : Throttle κ τ) (marks : κ → List τ) (ends : List (κ × τ)) (clock : τ) :
    Prop where
  past : ∀ key, ∀ mark ∈ marks key, mark ≤ clock
  stored : ∀ key until', throttle.blocked.get? key = some until' →
    (key, until') ∈ ends ∧ (∃ start, 0 ≤ start ∧ start ≤ clock ∧ until' = start + limits.lockout) ∧
      ∀ mark ∈ marks key, mark + limits.window ≤ until' ∨ limits.window ≤ 0
  ordered : throttle.blocked.entries.Pairwise fun a b => a.2 ≤ b.2 ∨ a.2 ≤ clock
  held : ∀ key until', (key, until') ∈ ends → throttle.blocked.get? key = some until' ∨ until' ≤ clock

/-- A key that was let through. -/
structure Ready (throttle : Throttle κ τ) (ends : List (κ × τ)) (clock : τ) (key : κ) : Prop where
  free : ∀ until', throttle.blocked.get? key = some until' → until' = 0
  ended : ∀ until', (key, until') ∈ ends → until' ≤ clock

/-- There is room for the lock-outs that have not ended. -/
def Room (capacity : Nat) (ends : List (κ × τ)) (clock : τ) : Prop :=
  ∀ keys : List κ, keys.Nodup → (∀ key ∈ keys, ∃ until', (key, until') ∈ ends ∧ clock < until') → keys.length ≤ capacity

/-- The ends after a strike. -/
def endsAfter (limits : Limits τ) (throttle : Throttle κ τ) (key : κ) (now : τ) (ends : List (κ × τ)) : List (κ × τ) :=
  if limits.limit ≤ (throttle.struck limits key now).length then (key, now + limits.lockout) :: ends else ends

variable {limits : Limits τ} {throttle : Throttle κ τ} {marks : κ → List τ} {ends : List (κ × τ)} {clock now : τ} {key : κ}

theorem Sound.empty (limits : Limits τ) (clock : τ) : Sound limits (empty : Throttle κ τ) (fun _ => []) [] clock where
  past _ _ member := by cases member
  stored _ _ found := by cases found
  ordered := List.Pairwise.nil
  held _ _ member := by cases member

theorem Sound.advance (sound : Sound limits throttle marks ends clock) (later : clock ≤ now) :
    Sound limits throttle marks ends now where
  past key mark member := (sound.past key mark member).trans later
  stored key until' found := by
    obtain ⟨isEnd, ⟨start, nonneg, started, isSum⟩, covers⟩ := sound.stored key until' found
    exact ⟨isEnd, ⟨start, nonneg, started.trans later, isSum⟩, covers⟩
  ordered := sound.ordered.imp fun grows => grows.imp id fun ended => ended.trans later
  held key until' isEnd := (sound.held key until' isEnd).imp id fun ended => ended.trans later

theorem Ready.advance (ready : Ready throttle ends clock key) (later : clock ≤ now) : Ready throttle ends now key where
  free := ready.free
  ended until' isEnd := (ready.ended until' isEnd).trans later

/-! ### Releasing a key -/

theorem release_cases (throttle : Throttle κ τ) (key : κ) :
    (throttle.release key = throttle ∧ throttle.blockedUntil key = 0) ∨
      throttle.release key = throttle.forgive key ∧ throttle.blocked.get? key = some (throttle.blockedUntil key) := by
  rw [release]
  split
  · next isZero => exact .inl ⟨rfl, isZero⟩
  · next notZero =>
    refine .inr ⟨rfl, ?_⟩
    rw [blockedUntil] at notZero ⊢
    cases found : throttle.blocked.get? key with
    | none => exact absurd (by rw [found, Option.getD_none]) notZero
    | some until' => rw [Option.getD_some]

theorem get?_eq_some_of_release {other : κ} {until' : τ}
    (found : (throttle.release key).blocked.get? other = some until') : throttle.blocked.get? other = some until' := by
  rcases throttle.release_cases key with ⟨same, _⟩ | ⟨popped, _⟩
  · rwa [same] at found
  · rw [popped] at found
    exact (OrderedDict.get?_pop_eq_some_iff.mp found).2

theorem blockedUntil_of_get? {until' : τ} (found : throttle.blocked.get? key = some until') :
    throttle.blockedUntil key = until' := by
  rw [blockedUntil, found, Option.getD_some]

theorem Sound.ended_of_blockedUntil (sound : Sound limits throttle marks ends clock)
    (free : throttle.blockedUntil key ≤ clock) {until' : τ} (isEnd : (key, until') ∈ ends) : until' ≤ clock := by
  rcases sound.held key until' isEnd with found | ended
  · exact blockedUntil_of_get? found ▸ free
  · exact ended

/-- The clock has started when a key is free. -/
theorem Sound.nonneg_of_free (sound : Sound limits throttle marks ends clock) (later : clock ≤ now)
    (free : throttle.blockedUntil key ≤ now) : 0 ≤ now := by
  cases found : throttle.blocked.get? key with
  | none => rwa [blockedUntil, found, Option.getD_none] at free
  | some until' =>
    obtain ⟨_, ⟨start, nonneg, started, _⟩, _⟩ := sound.stored key until' found
    exact nonneg.trans (started.trans later)

theorem Sound.release (sound : Sound limits throttle marks ends clock) (free : throttle.blockedUntil key ≤ clock) :
    Sound limits (throttle.release key) marks ends clock where
  past := sound.past
  stored other until' found := sound.stored other until' (get?_eq_some_of_release found)
  ordered := by
    rcases throttle.release_cases key with ⟨same, _⟩ | ⟨popped, _⟩
    · rw [same]
      exact sound.ordered
    · rw [popped]
      exact sound.ordered.sublist List.filter_sublist
  held other until' isEnd := by
    rcases throttle.release_cases key with ⟨same, _⟩ | ⟨popped, _⟩
    · rw [same]
      exact sound.held other until' isEnd
    by_cases isKey : other = key
    · subst isKey
      exact .inr (sound.ended_of_blockedUntil free isEnd)
    · rw [popped, Throttle.forgive, OrderedDict.get?_pop_of_ne _ isKey]
      exact sound.held other until' isEnd

theorem Sound.ready_release (sound : Sound limits throttle marks ends clock) (free : throttle.blockedUntil key ≤ clock) :
    Ready (throttle.release key) ends clock key where
  free until' found := by
    rcases throttle.release_cases key with ⟨same, isZero⟩ | ⟨popped, _⟩
    · rw [same] at found
      rw [← blockedUntil_of_get? found, isZero]
    · rw [popped, Throttle.forgive, OrderedDict.get?_pop_self] at found
      cases found
  ended _ isEnd := sound.ended_of_blockedUntil free isEnd

theorem Ready.release {other : κ} (ready : Ready throttle ends clock other) (key : κ) :
    Ready (throttle.release key) ends clock other where
  free until' found := ready.free until' (get?_eq_some_of_release found)
  ended := ready.ended

/-! ### Forgiving a key -/

theorem Sound.forgive (sound : Sound limits throttle marks ends clock) (ready : Ready throttle ends clock key) :
    Sound limits (throttle.forgive key) (Function.update marks key []) ends clock where
  past other mark member := by
    by_cases isKey : other = key
    · rw [isKey, Function.update_self] at member
      cases member
    · rw [Function.update_of_ne isKey] at member
      exact sound.past other mark member
  stored other until' found := by
    obtain ⟨isOther, foundBefore⟩ := OrderedDict.get?_pop_eq_some_iff.mp found
    rw [Function.update_of_ne isOther]
    exact sound.stored other until' foundBefore
  ordered := sound.ordered.sublist List.filter_sublist
  held other until' isEnd := by
    by_cases isKey : other = key
    · subst isKey
      exact .inr (ready.ended until' isEnd)
    · rw [Throttle.forgive, OrderedDict.get?_pop_of_ne _ isKey]
      exact sound.held other until' isEnd

theorem Ready.forgive {other : κ} (ready : Ready throttle ends clock other) (key : κ) :
    Ready (throttle.forgive key) ends clock other where
  free until' found := ready.free until' (OrderedDict.get?_pop_eq_some_iff.mp found).2
  ended := ready.ended

/-! ### Striking a key -/

theorem get?_marked_of_ne {other : κ} (isOther : other ≠ key) :
    (throttle.marked limits key now).get? other = throttle.blocked.get? other := by
  rw [marked]
  split
  · exact OrderedDict.get?_set_of_ne _ isOther _
  · rfl

theorem get?_marked_self :
    (throttle.marked limits key now).get? key =
      if limits.limit ≤ (throttle.struck limits key now).length then some (now + limits.lockout)
      else throttle.blocked.get? key := by
  rw [marked]
  split
  · exact OrderedDict.get?_set_self _ _ _
  · rfl

/-- What the table of lock-outs holds before it is capped. -/
theorem marked_cases {other : κ} {until' : τ} (found : (throttle.marked limits key now).get? other = some until') :
    (other = key ∧ until' = now + limits.lockout ∧ limits.limit ≤ (throttle.struck limits key now).length) ∨
      throttle.blocked.get? other = some until' := by
  by_cases isKey : other = key
  · subst isKey
    rw [get?_marked_self] at found
    split at found
    · next full => exact .inl ⟨rfl, (Option.some.inj found).symm, full⟩
    · exact .inr found
  · rw [get?_marked_of_ne isKey] at found
    exact .inr found

theorem mem_endsAfter {other : κ} {until' : τ} :
    (other, until') ∈ throttle.endsAfter limits key now ends ↔
      (other = key ∧ until' = now + limits.lockout ∧ limits.limit ≤ (throttle.struck limits key now).length) ∨
        (other, until') ∈ ends := by
  rw [endsAfter]
  split
  · next full =>
    rw [List.mem_cons, Prod.mk.injEq]
    tauto
  · next notFull => tauto

/-- The mark of the strike is the newest. -/
def mark (marks : κ → List τ) (key : κ) (now : τ) : κ → List τ := Function.update marks key (now :: marks key)

theorem mem_mark {other : κ} {time : τ} :
    time ∈ mark marks key now other ↔ (other = key ∧ time = now) ∨ time ∈ marks other := by
  rw [mark]
  by_cases isKey : other = key
  · subst isKey
    rw [Function.update_self, List.mem_cons]
    tauto
  · rw [Function.update_of_ne isKey]
    tauto

theorem Sound.stored_marked (sound : Sound limits throttle marks ends now) (short : limits.window ≤ limits.lockout)
    (nonneg : 0 ≤ now) (ready : Ready throttle ends now key) {other : κ} {until' : τ}
    (found : (throttle.marked limits key now).get? other = some until') :
    (other, until') ∈ throttle.endsAfter limits key now ends ∧
      (∃ start, 0 ≤ start ∧ start ≤ now ∧ until' = start + limits.lockout) ∧
        ∀ time ∈ mark marks key now other, time + limits.window ≤ until' ∨ limits.window ≤ 0 := by
  rcases marked_cases found with ⟨rfl, rfl, full⟩ | before
  · refine ⟨mem_endsAfter.mpr (.inl ⟨rfl, rfl, full⟩), ⟨now, nonneg, le_rfl, rfl⟩, fun time member => .inl ?_⟩
    have isPast : time ≤ now := by
      rcases mem_mark.mp member with ⟨_, rfl⟩ | earlier
      · exact le_rfl
      · exact sound.past _ _ earlier
    exact add_le_add isPast short
  · obtain ⟨isEnd, ⟨start, startNonneg, started, isSum⟩, covers⟩ := sound.stored other until' before
    refine ⟨mem_endsAfter.mpr (.inr isEnd), ⟨start, startNonneg, started, isSum⟩, fun time member => ?_⟩
    rcases mem_mark.mp member with ⟨rfl, rfl⟩ | earlier
    · -- the entry that was left is one that ended at the start of the clock
      have isZero := ready.free until' before
      rw [isSum] at isZero
      have noLockout : limits.lockout ≤ 0 := by
        rw [← isZero]
        exact le_add_of_nonneg_left startNonneg
      exact .inr (short.trans noLockout)
    · exact covers time earlier

theorem Sound.ordered_marked (sound : Sound limits throttle marks ends now) (short : limits.window ≤ limits.lockout)
    (nonneg : 0 ≤ now) (ready : Ready throttle ends now key) :
    (throttle.marked limits key now).entries.Pairwise fun a b => a.2 ≤ b.2 ∨ a.2 ≤ now := by
  by_cases noLockout : limits.lockout ≤ 0
  · refine List.pairwise_of_forall_mem_list fun a isEntry _ _ => .inr ?_
    obtain ⟨_, ⟨start, _, started, isSum⟩, _⟩ :=
      sound.stored_marked short nonneg ready (OrderedDict.get?_eq_some_iff.mpr isEntry)
    rw [isSum]
    exact (add_le_of_nonpos_right noLockout).trans started
  · have isNew : throttle.blocked.get? key = none := by
      rw [Option.eq_none_iff_forall_not_mem]
      intro until' found
      obtain ⟨_, ⟨start, startNonneg, _, isSum⟩, _⟩ := sound.stored key until' found
      have isZero := ready.free until' found
      rw [isSum] at isZero
      exact noLockout (isZero ▸ le_add_of_nonneg_left startNonneg)
    rw [marked]
    split
    · rw [OrderedDict.entries_set_of_none isNew]
      refine List.pairwise_append.mpr ⟨sound.ordered, List.pairwise_singleton _ _, fun a isEntry b isLast => .inl ?_⟩
      obtain ⟨_, ⟨start, _, started, isSum⟩, _⟩ := sound.stored a.1 a.2 (OrderedDict.get?_eq_some_iff.mpr isEntry)
      rw [List.mem_singleton.mp isLast, isSum]
      exact add_le_add_left started limits.lockout
    · exact sound.ordered

/-- With room for the lock-outs that have not ended, the cap drops none of them. -/
theorem Sound.get?_strike (sound : Sound limits throttle marks ends now) (short : limits.window ≤ limits.lockout)
    (nonneg : 0 ≤ now) (ready : Ready throttle ends now key)
    (room : Room limits.capacity (throttle.endsAfter limits key now ends) now) {other : κ} {until' : τ}
    (found : (throttle.marked limits key now).get? other = some until') :
    (throttle.strike limits key now).blocked.get? other = some until' ∨ until' ≤ now := by
  refine (OrderedDict.get?_cap_or_overflow limits.capacity found).imp id fun dropped => not_lt.mp ?_
  refine @OrderedDict.not_live_of_mem_overflow _ _ _ _ (fun entry => now < entry.2) ?_ ?_ _ dropped
  · refine (sound.ordered_marked short nonneg ready).imp fun grows isLive => ?_
    rcases grows with le | ended
    · exact isLive.trans_le le
    · exact absurd isLive (not_lt.mpr ended)
  · refine fun keys nodup live => room keys nodup fun each member => ?_
    obtain ⟨value, isLive, isEntry⟩ := live each member
    exact ⟨value, (sound.stored_marked short nonneg ready (OrderedDict.get?_eq_some_iff.mpr isEntry)).1, isLive⟩

theorem Sound.strike (sound : Sound limits throttle marks ends now) (short : limits.window ≤ limits.lockout)
    (nonneg : 0 ≤ now) (ready : Ready throttle ends now key)
    (room : Room limits.capacity (throttle.endsAfter limits key now ends) now) :
    Sound limits (throttle.strike limits key now) (mark marks key now) (throttle.endsAfter limits key now ends) now where
  past other time member := by
    rcases mem_mark.mp member with ⟨_, rfl⟩ | earlier
    · exact le_rfl
    · exact sound.past other time earlier
  stored other until' found := sound.stored_marked short nonneg ready (OrderedDict.get?_of_get?_cap found)
  ordered := (sound.ordered_marked short nonneg ready).sublist (List.drop_sublist _ _)
  held other until' isEnd := by
    rcases mem_endsAfter.mp isEnd with ⟨rfl, rfl, full⟩ | before
    · exact sound.get?_strike short nonneg ready room (by rw [get?_marked_self, if_pos full])
    rcases sound.held other until' before with found | ended
    · by_cases isKey : other = key
      · subst isKey
        exact .inr (ready.ended until' before)
      · exact sound.get?_strike short nonneg ready room (by rwa [get?_marked_of_ne isKey])
    · exact .inr ended

theorem Ready.strike {other : κ} (ready : Ready throttle ends now other) (isOther : other ≠ key) :
    Ready (throttle.strike limits key now) (throttle.endsAfter limits key now ends) now other where
  free until' found := by
    have before := OrderedDict.get?_of_get?_cap found
    rw [get?_marked_of_ne isOther] at before
    exact ready.free until' before
  ended until' isEnd := by
    rcases mem_endsAfter.mp isEnd with ⟨same, _⟩ | before
    · exact absurd same isOther
    · exact ready.ended until' before

/-! ## Counting the marks -/

structure Counted (limits : Limits τ) (throttle : Throttle κ τ) (marks : κ → List τ) (clock : τ) : Prop where
  sorted : ∀ key, (throttle.bucket key).Pairwise (· ≤ ·) ∧ ∀ time ∈ throttle.bucket key, time ≤ clock
  counted : ∀ key, (recent limits.window clock (marks key)).Perm (recent limits.window clock (throttle.bucket key))
  full : ∀ key now, clock ≤ now → limits.limit ≤ (recent limits.window now (marks key)).length →
    ∃ until', throttle.blocked.get? key = some until' ∧ now < until'
  bound : ∀ key start, (within start limits.window (marks key)).length ≤ limits.limit

/-- The cap drops no bucket with a recent mark. -/
def Spares (limits : Limits τ) (throttle : Throttle κ τ) (key : κ) (now : τ) : Prop :=
  ∀ entry ∈ (throttle.buckets.set key (throttle.struck limits key now)).overflow limits.capacity,
    ∀ time ∈ entry.2, time ≤ now - limits.window

theorem Counted.empty (positive : 0 < limits.limit) (clock : τ) :
    Counted limits (empty : Throttle κ τ) (fun _ => []) clock where
  sorted _ := ⟨List.Pairwise.nil, fun _ member => by cases member⟩
  counted _ := .refl _
  full _ _ _ few := absurd few (Nat.not_le.mpr positive)
  bound _ _ := Nat.zero_le _

theorem Counted.advance (counted : Counted limits throttle marks clock) (later : clock ≤ now) :
    Counted limits throttle marks now where
  sorted key := ⟨(counted.sorted key).1, fun time member => ((counted.sorted key).2 time member).trans later⟩
  counted key := by
    rw [← recent_recent later, ← recent_recent later (throttle.bucket key)]
    exact (counted.counted key).filter _
  full key now' isLater := counted.full key now' (later.trans isLater)
  bound := counted.bound

theorem bucket_forgive (throttle : Throttle κ τ) (key other : κ) :
    (throttle.forgive key).bucket other = if other = key then [] else throttle.bucket other := by
  rw [bucket, Throttle.forgive]
  split
  · next same => rw [same, OrderedDict.get?_pop_self, Option.getD_none]
  · next isOther => rw [OrderedDict.get?_pop_of_ne _ isOther, bucket]

/-- Marks that are no longer recent, or forgiven, may go with their bucket. -/
theorem Counted.forgive (counted : Counted limits throttle marks clock) {kept : κ → List τ}
    (same : ∀ other, other ≠ key → kept other = marks other) (part : (kept key).Sublist (marks key))
    (gone : recent limits.window clock (kept key) = []) (positive : 0 < limits.limit) :
    Counted limits (throttle.forgive key) kept clock where
  sorted other := by
    rw [bucket_forgive]
    split
    · exact ⟨List.Pairwise.nil, fun _ member => by cases member⟩
    · exact counted.sorted other
  counted other := by
    rw [bucket_forgive]
    split
    · next isKey => rw [isKey, gone, recent, List.filter_nil]
    · next isOther =>
      rw [same other isOther]
      exact counted.counted other
  full other now later few := by
    by_cases isKey : other = key
    · have none : (recent limits.window now (kept key)).length ≤ (recent limits.window clock (kept key)).length :=
        recent_length_anti later (kept key)
      rw [gone, ← isKey] at none
      exact absurd (few.trans none) (Nat.not_le.mpr positive)
    · rw [same other isKey] at few
      obtain ⟨until', found, isLater⟩ := counted.full other now later few
      exact ⟨until', OrderedDict.get?_pop_eq_some_iff.mpr ⟨isKey, found⟩, isLater⟩
  bound other start := by
    by_cases isKey : other = key
    · rw [isKey]
      exact (part.filter _).length_le.trans (counted.bound key start)
    · rw [same other isKey]
      exact counted.bound other start

/-- The marks that led to a lock-out have expired when it ends. -/
theorem Counted.release (counted : Counted limits throttle marks clock) (sound : Sound limits throttle marks ends clock)
    (free : throttle.blockedUntil key ≤ clock) (positive : 0 < limits.limit) :
    Counted limits (throttle.release key) marks clock := by
  rcases throttle.release_cases key with ⟨same, _⟩ | ⟨popped, found⟩
  · rwa [same]
  · rw [popped]
    refine counted.forgive (fun _ _ => rfl) (.refl _) (recent_of_expired fun time member => ?_) positive
    rcases (sound.stored key _ found).2.2 time member with covered | noWindow
    · exact covered.trans free
    · exact (add_le_of_nonpos_right noWindow).trans (sound.past key time member)

/-- A key that is let through is below its limit. -/
theorem Counted.below (counted : Counted limits throttle marks clock) (free : throttle.blockedUntil key ≤ clock) :
    (recent limits.window clock (marks key)).length < limits.limit := by
  refine Nat.not_le.mp fun few => ?_
  obtain ⟨until', found, isLater⟩ := counted.full key clock le_rfl few
  rw [blockedUntil_of_get? found] at free
  exact absurd isLater (not_lt.mpr free)

theorem Counted.struck_eq (counted : Counted limits throttle marks now) (key : κ) :
    throttle.struck limits key now = recent limits.window now (throttle.bucket key) ++ [now] := by
  rw [struck, prune_eq_filter (counted.sorted key).1, recent]

theorem Counted.length_struck (counted : Counted limits throttle marks now) (key : κ) :
    (throttle.struck limits key now).length = (recent limits.window now (marks key)).length + 1 := by
  rw [counted.struck_eq, List.length_append, List.length_singleton, (counted.counted key).length_eq]

/-- The bucket before the cap. -/
theorem Counted.counted_struck (counted : Counted limits throttle marks now) (key : κ) :
    (recent limits.window now (now :: marks key)).Perm (recent limits.window now (throttle.struck limits key now)) := by
  have sameRecent : recent limits.window now (now :: marks key) =
      recent limits.window now (now :: recent limits.window now (marks key)) := by
    rw [recent_cons, recent_cons, recent_recent le_rfl]
  rw [sameRecent, counted.struck_eq]
  exact (((counted.counted key).cons now).trans (List.perm_append_singleton now _).symm).filter _

/-- A bucket that the strike leaves is the old one or the struck one; one that it drops holds nothing recent. -/
theorem bucket_strike (spares : throttle.Spares limits key now) (other : κ) :
    ((throttle.strike limits key now).bucket other =
        if other = key then throttle.struck limits key now else throttle.bucket other) ∨
      (throttle.strike limits key now).bucket other = [] ∧
        recent limits.window now (if other = key then throttle.struck limits key now else throttle.bucket other) = [] := by
  have before : ((throttle.buckets.set key (throttle.struck limits key now)).get? other).getD [] =
      if other = key then throttle.struck limits key now else throttle.bucket other := by
    split
    · next isKey => rw [isKey, OrderedDict.get?_set_self, Option.getD_some]
    · next isOther => rw [OrderedDict.get?_set_of_ne _ isOther, bucket]
  rw [← before, bucket, Throttle.strike]
  dsimp only
  cases isSet : (throttle.buckets.set key (throttle.struck limits key now)).get? other with
  | none =>
    refine .inl ?_
    cases capped : ((throttle.buckets.set key (throttle.struck limits key now)).cap limits.capacity).get? other with
    | none => rfl
    | some kept =>
      have still := OrderedDict.get?_of_get?_cap capped
      rw [isSet] at still
      cases still
  | some times =>
    cases capped : ((throttle.buckets.set key (throttle.struck limits key now)).cap limits.capacity).get? other with
    | some kept =>
      have still := OrderedDict.get?_of_get?_cap capped
      rw [isSet] at still
      exact .inl (by rw [Option.some.inj still])
    | none =>
      rcases OrderedDict.get?_cap_or_overflow limits.capacity isSet with found | dropped
      · rw [capped] at found
        cases found
      · refine .inr ⟨rfl, recent_of_expired fun time member => ?_⟩
        rw [← le_sub_iff_add_le]
        exact spares _ dropped time member

theorem Counted.strike (counted : Counted limits throttle marks now) (sound : Sound limits throttle marks ends now)
    (short : limits.window ≤ limits.lockout) (nonneg : 0 ≤ now) (ready : Ready throttle ends now key)
    (room : Room limits.capacity (throttle.endsAfter limits key now ends) now)
    (below : (recent limits.window now (marks key)).length < limits.limit) (spares : throttle.Spares limits key now) :
    Counted limits (throttle.strike limits key now) (mark marks key now) now where
  sorted other := by
    have old := counted.sorted other
    rcases throttle.bucket_strike spares other with same | ⟨gone, _⟩
    · rw [same]
      split
      · next isKey =>
        rw [counted.struck_eq]
        refine ⟨List.pairwise_append.mpr ⟨(counted.sorted key).1.filter _, List.pairwise_singleton _ _,
          fun time member last isLast => ?_⟩, fun time member => ?_⟩
        · rw [List.mem_singleton.mp isLast]
          exact (counted.sorted key).2 time (List.mem_of_mem_filter member)
        · rcases List.mem_append.mp member with inBucket | isLast
          · exact (counted.sorted key).2 time (List.mem_of_mem_filter inBucket)
          · exact (List.mem_singleton.mp isLast).le
      · exact old
    · rw [gone]
      exact ⟨List.Pairwise.nil, fun _ member => by cases member⟩
  counted other := by
    have before : (recent limits.window now (mark marks key now other)).Perm
        (recent limits.window now (if other = key then throttle.struck limits key now else throttle.bucket other)) := by
      rw [mark]
      split
      · next isKey =>
        rw [isKey, Function.update_self]
        exact counted.counted_struck key
      · next isOther =>
        rw [Function.update_of_ne isOther]
        exact counted.counted other
    rcases throttle.bucket_strike spares other with same | ⟨gone, noneRecent⟩
    · rwa [same]
    · rw [gone, recent.eq_def limits.window now [], List.filter_nil]
      rwa [noneRecent] at before
  full other later isLater few := by
    have kept : ∀ until', (throttle.marked limits key now).get? other = some until' → later < until' →
        ∃ until', (throttle.strike limits key now).blocked.get? other = some until' ∧ later < until' := by
      intro until' found isAhead
      rcases sound.get?_strike short nonneg ready room found with still | ended
      · exact ⟨until', still, isAhead⟩
      · exact absurd (isLater.trans_lt isAhead) (not_lt.mpr ended)
    by_cases isKey : other = key
    · subst isKey
      rw [mark, Function.update_self] at few
      have positive : 0 < limits.limit := (Nat.zero_le _).trans_lt below
      obtain ⟨time, member⟩ := List.exists_mem_of_length_pos (positive.trans_le few)
      obtain ⟨isMark, isRecent⟩ := mem_recent.mp member
      have isPast : time ≤ now := by
        rcases List.mem_cons.mp isMark with rfl | earlier
        · exact le_rfl
        · exact sound.past other time earlier
      have many : limits.limit ≤ (throttle.struck limits other now).length := by
        rw [counted.length_struck]
        refine (few.trans (recent_length_anti isLater _)).trans ?_
        rw [recent_cons]
        split
        · exact le_rfl
        · exact Nat.le_succ _
      exact kept (now + limits.lockout) (by rw [get?_marked_self, if_pos many])
        (isRecent.trans_le (add_le_add isPast short))
    · rw [mark, Function.update_of_ne isKey] at few
      obtain ⟨until', found, isAhead⟩ := counted.full other later isLater few
      exact kept until' (by rwa [get?_marked_of_ne isKey]) isAhead
  bound other start := by
    by_cases isKey : other = key
    · subst isKey
      rw [mark, Function.update_self, within, List.filter_cons]
      split
      · next inWindow =>
        exact (Nat.succ_le_succ (within_length_le (decide_eq_true_iff.mp inWindow).2 _)).trans below
      · exact counted.bound other start
    · rw [mark, Function.update_of_ne isKey]
      exact counted.bound other start

end Throttle

end ZeroNvr.Lib
