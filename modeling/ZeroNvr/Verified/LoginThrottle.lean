import ZeroNvr.Auth.RateLimit
import ZeroNvr.Lib.Run

/-! # Runs of login attempts

An attempt is a check and, when it is let through, one record of its outcome.
The attempts of an address follow one another; those of other addresses come in
between.  A lock-out is kept to its end, since the ends in its table grow.  The
failures are counted in tables without an order of time, and what was first
entered is dropped first even while it counts.
-/

namespace ZeroNvr.Auth.RateLimit

open Lib (Run Throttle)
open Lib.Throttle (Room Ready recent within)

/-! ## Attempts -/

structure Attempt where
  pair : Pair
  time : ℚ
  succeeded : Bool
  deriving DecidableEq

/-- The failures of an address, newest first. -/
def failuresOf (attempts : List Attempt) (ip : String) : List ℚ :=
  attempts.filterMap fun attempt => if attempt.pair.1 = ip ∧ ¬attempt.succeeded then some attempt.time else none

/-- The failures of a pair since its last success. -/
def failuresSince : List Attempt → Pair → List ℚ
  | [], _ => []
  | attempt :: earlier, pair =>
    if attempt.pair ≠ pair then failuresSince earlier pair
    else if attempt.succeeded then [] else attempt.time :: failuresSince earlier pair

/-- `pairEnds` and `ipEnds` are the ends of all lock-outs that were set. -/
structure LoginState where
  limiter : AuthRateLimiter
  clock : ℚ
  pending : List Pair
  attempts : List Attempt
  pairEnds : List (Pair × ℚ)
  ipEnds : List (String × ℚ)

def LoginState.fresh (clock : ℚ) : LoginState := ⟨.new, clock, [], [], [], []⟩

inductive Method
  | checkLogin
  | recordLoginFailure
  | recordLoginSuccess

/-- A call, the time it reads and what it answers. -/
structure Call where
  method : Method
  sourceIp : Option String
  loginIdentifier : String
  now : ℚ
  decision : RateLimitDecision

section Steps

variable (casefold : String → String) (settings : Settings)

/-- One call.  An address has one attempt at a time. -/
inductive LoginStep : LoginState → Call → LoginState → Prop
  | check {state : LoginState} (sourceIp : Option String) (loginIdentifier : String) {now : ℚ} (later : state.clock ≤ now)
      (idle : ∀ pair ∈ state.pending, pair.1 ≠ source sourceIp) :
      LoginStep state
        ⟨.checkLogin, sourceIp, loginIdentifier, now, (checkLogin casefold state.limiter sourceIp loginIdentifier now).1⟩
        { state with
          limiter := (checkLogin casefold state.limiter sourceIp loginIdentifier now).2
          clock := now
          pending :=
            if (checkLogin casefold state.limiter sourceIp loginIdentifier now).1.allowed then
              pairOf casefold sourceIp loginIdentifier :: state.pending
            else state.pending }
  | failure {state : LoginState} (sourceIp : Option String) (loginIdentifier : String) {now : ℚ} (later : state.clock ≤ now)
      (admitted : pairOf casefold sourceIp loginIdentifier ∈ state.pending) :
      LoginStep state
        ⟨.recordLoginFailure, sourceIp, loginIdentifier, now,
          (recordLoginFailure casefold settings state.limiter sourceIp loginIdentifier now).1⟩
        { limiter := (recordLoginFailure casefold settings state.limiter sourceIp loginIdentifier now).2
          clock := now
          pending := state.pending.filter (· ≠ pairOf casefold sourceIp loginIdentifier)
          attempts := ⟨pairOf casefold sourceIp loginIdentifier, now, false⟩ :: state.attempts
          pairEnds := state.limiter.pairs.endsAfter settings.pairLimits (pairOf casefold sourceIp loginIdentifier) now
            state.pairEnds
          ipEnds := state.limiter.ips.endsAfter settings.ipLimits (source sourceIp) now state.ipEnds }
  | success {state : LoginState} (sourceIp : Option String) (loginIdentifier : String) {now : ℚ} (later : state.clock ≤ now)
      (admitted : pairOf casefold sourceIp loginIdentifier ∈ state.pending) :
      LoginStep state ⟨.recordLoginSuccess, sourceIp, loginIdentifier, now, { allowed := true }⟩
        { state with
          limiter := recordLoginSuccess casefold state.limiter sourceIp loginIdentifier
          clock := now
          pending := state.pending.filter (· ≠ pairOf casefold sourceIp loginIdentifier)
          attempts := ⟨pairOf casefold sourceIp loginIdentifier, now, true⟩ :: state.attempts }

end Steps

/-! ## Keys -/

inductive Key
  | ip (ip : String)
  | pair (pair : Pair)
  deriving DecidableEq

namespace LoginState

def keys (state : LoginState) : List Key :=
  (state.attempts.flatMap fun attempt => [.ip attempt.pair.1, .pair attempt.pair]) ++
    state.pairEnds.map (.pair ·.1) ++ state.ipEnds.map (.ip ·.1)

/-- The key has an unexpired failure or block. -/
def unexpired (settings : Settings) (state : LoginState) : Key → Bool
  | .ip ip =>
    (failuresOf state.attempts ip).any (fun time => state.clock < time + settings.loginWindowSeconds) ||
      state.ipEnds.any fun blocked => blocked.1 = ip && state.clock < blocked.2
  | .pair pair =>
    (failuresSince state.attempts pair).any (fun time => state.clock < time + settings.loginWindowSeconds) ||
      state.pairEnds.any fun blocked => blocked.1 = pair && state.clock < blocked.2

/-- At most `max_keys` distinct keys have an unexpired failure or block. -/
def Fits (settings : Settings) (state : LoginState) : Prop :=
  (state.keys.dedup.filter (state.unexpired settings)).length ≤ settings.maxKeys

instance (settings : Settings) (state : LoginState) : Decidable (state.Fits settings) :=
  inferInstanceAs (Decidable (_ ≤ _))

theorem Fits.pairRoom {settings : Settings} {state : LoginState} (fits : state.Fits settings) :
    Room settings.maxKeys state.pairEnds state.clock := by
  intro keys nodup live
  rw [← List.length_map (Key.pair)]
  refine le_trans (List.Subperm.length_le (List.subperm_of_subset ?_ ?_)) fits
  · exact nodup.map fun _ _ same => Key.pair.inj same
  · intro key member
    obtain ⟨pair, inKeys, rfl⟩ := List.mem_map.mp member
    obtain ⟨until', isEnd, isLater⟩ := live pair inKeys
    refine List.mem_filter.mpr ⟨List.mem_dedup.mpr ?_, ?_⟩
    · exact List.mem_append_left _ (List.mem_append_right _ (List.mem_map.mpr ⟨_, isEnd, rfl⟩))
    · rw [unexpired, Bool.or_eq_true, List.any_eq_true, List.any_eq_true]
      exact .inr ⟨_, isEnd, by simpa using isLater⟩

theorem Fits.ipRoom {settings : Settings} {state : LoginState} (fits : state.Fits settings) :
    Room settings.maxKeys state.ipEnds state.clock := by
  intro keys nodup live
  rw [← List.length_map (Key.ip)]
  refine le_trans (List.Subperm.length_le (List.subperm_of_subset ?_ ?_)) fits
  · exact nodup.map fun _ _ same => Key.ip.inj same
  · intro key member
    obtain ⟨ip, inKeys, rfl⟩ := List.mem_map.mp member
    obtain ⟨until', isEnd, isLater⟩ := live ip inKeys
    refine List.mem_filter.mpr ⟨List.mem_dedup.mpr ?_, ?_⟩
    · exact List.mem_append_right _ (List.mem_map.mpr ⟨_, isEnd, rfl⟩)
    · rw [unexpired, Bool.or_eq_true, List.any_eq_true, List.any_eq_true]
      exact .inr ⟨_, isEnd, by simpa using isLater⟩

end LoginState

/-! ## Marks -/

theorem failuresOf_failure (attempts : List Attempt) (pair : Pair) (now : ℚ) :
    failuresOf (⟨pair, now, false⟩ :: attempts) = Throttle.mark (failuresOf attempts) pair.1 now := by
  funext ip
  rw [Throttle.mark]
  by_cases isIp : ip = pair.1
  · subst isIp
    rw [Function.update_self]
    exact List.filterMap_cons_some (if_pos ⟨rfl, Bool.false_ne_true⟩)
  · rw [Function.update_of_ne isIp]
    exact List.filterMap_cons_none (if_neg fun same => isIp same.1.symm)

theorem failuresOf_success (attempts : List Attempt) (pair : Pair) (now : ℚ) :
    failuresOf (⟨pair, now, true⟩ :: attempts) = failuresOf attempts := by
  funext ip
  exact List.filterMap_cons_none (if_neg fun same => same.2 rfl)

theorem failuresSince_failure (attempts : List Attempt) (pair : Pair) (now : ℚ) :
    failuresSince (⟨pair, now, false⟩ :: attempts) = Throttle.mark (failuresSince attempts) pair now := by
  funext other
  rw [Throttle.mark, failuresSince]
  by_cases isPair : other = pair
  · subst isPair
    rw [if_neg (not_not.mpr rfl), if_neg Bool.false_ne_true, Function.update_self]
  · rw [if_pos (Ne.symm isPair), Function.update_of_ne isPair]

theorem failuresSince_success (attempts : List Attempt) (pair : Pair) (now : ℚ) :
    failuresSince (⟨pair, now, true⟩ :: attempts) = Function.update (failuresSince attempts) pair [] := by
  funext other
  rw [failuresSince]
  by_cases isPair : other = pair
  · subst isPair
    rw [if_neg (not_not.mpr rfl), if_pos rfl, Function.update_self]
  · rw [if_pos (Ne.symm isPair), Function.update_of_ne isPair]

/-! ## Lock-outs -/

namespace LoginState

variable {casefold : String → String} {settings : Settings} {state after : LoginState} {call : Call}

structure Sound (settings : Settings) (state : LoginState) : Prop where
  pairs : Throttle.Sound settings.pairLimits state.limiter.pairs (failuresSince state.attempts) state.pairEnds state.clock
  ips : Throttle.Sound settings.ipLimits state.limiter.ips (failuresOf state.attempts) state.ipEnds state.clock
  pairReady : ∀ pair ∈ state.pending, Ready state.limiter.pairs state.pairEnds state.clock pair
  ipReady : ∀ pair ∈ state.pending, Ready state.limiter.ips state.ipEnds state.clock pair.1
  started : ∀ pair ∈ state.pending, 0 ≤ state.clock
  apart : state.pending.Pairwise fun a b => a.1 ≠ b.1

theorem Sound.fresh (settings : Settings) (clock : ℚ) : Sound settings (fresh clock) where
  pairs := .empty _ _
  ips := .empty _ _
  pairReady _ member := by cases member
  ipReady _ member := by cases member
  started _ member := by cases member
  apart := .nil

theorem Sound.ip_ne (sound : state.Sound settings) {pair other : Pair} (isPending : pair ∈ state.pending)
    (otherPending : other ∈ state.pending) (differs : other ≠ pair) : other.1 ≠ pair.1 :=
  have : Std.Symm fun a b : Pair => a.1 ≠ b.1 := ⟨fun _ _ => Ne.symm⟩
  sound.apart.forall otherPending isPending differs

theorem Sound.step (lockout : settings.loginWindowSeconds ≤ settings.loginLockoutSeconds) (sound : state.Sound settings)
    (step : LoginStep casefold settings state call after) (fits : after.Fits settings) : after.Sound settings := by
  have short : (settings.loginWindowSeconds : ℚ) ≤ settings.loginLockoutSeconds := Int.cast_le.mpr lockout
  cases step with
  | @check sourceIp loginIdentifier now later idle =>
    rcases AuthRateLimiter.checkLogin_cases casefold state.limiter sourceIp loginIdentifier now with
      ⟨_, refused⟩ | ⟨free, admitted, pairs, ips⟩
    · rw [refused]
      exact {
        pairs := sound.pairs.advance later
        ips := sound.ips.advance later
        pairReady := fun pair member => (sound.pairReady pair member).advance later
        ipReady := fun pair member => (sound.ipReady pair member).advance later
        started := fun pair member => (sound.started pair member).trans later
        apart := sound.apart }
    · have pairFree := (le_max_left _ _).trans free
      have ipFree := (le_max_right _ _).trans free
      have pairReady : ∀ pair ∈ pairOf casefold sourceIp loginIdentifier :: state.pending,
          Ready (state.limiter.pairs.release (pairOf casefold sourceIp loginIdentifier)) state.pairEnds now pair := by
        intro pair member
        rcases List.mem_cons.mp member with rfl | pending
        · exact (sound.pairs.advance later).ready_release pairFree
        · exact ((sound.pairReady pair pending).advance later).release _
      have ipReady : ∀ pair ∈ pairOf casefold sourceIp loginIdentifier :: state.pending,
          Ready (state.limiter.ips.release (source sourceIp)) state.ipEnds now pair.1 := by
        intro pair member
        rcases List.mem_cons.mp member with rfl | pending
        · exact (sound.ips.advance later).ready_release ipFree
        · exact ((sound.ipReady pair pending).advance later).release _
      have isAllowed : (checkLogin casefold state.limiter sourceIp loginIdentifier now).1.allowed = true := by
        rw [admitted]
      rw [if_pos isAllowed]
      exact {
        pairs := pairs ▸ (sound.pairs.advance later).release pairFree
        ips := ips ▸ (sound.ips.advance later).release ipFree
        pairReady := pairs ▸ pairReady
        ipReady := ips ▸ ipReady
        started := fun _ _ => sound.pairs.nonneg_of_free later pairFree
        apart := List.pairwise_cons.mpr ⟨fun pair member => (idle pair member).symm, sound.apart⟩ }
  | @failure sourceIp loginIdentifier now later admitted =>
    obtain ⟨pairs, ips⟩ := @AuthRateLimiter.recordLoginFailure_snd casefold settings state.limiter sourceIp loginIdentifier now
    have nonneg := (sound.started _ admitted).trans later
    have remaining : ∀ other ∈ state.pending.filter (· ≠ pairOf casefold sourceIp loginIdentifier),
        other ∈ state.pending ∧ other ≠ pairOf casefold sourceIp loginIdentifier := fun other member => by
      obtain ⟨pending, differs⟩ := List.mem_filter.mp member
      exact ⟨pending, of_decide_eq_true differs⟩
    exact {
      pairs := by
        rw [failuresSince_failure, pairs]
        exact (sound.pairs.advance later).strike short nonneg ((sound.pairReady _ admitted).advance later) fits.pairRoom
      ips := by
        rw [failuresOf_failure, ips]
        exact (sound.ips.advance later).strike short nonneg ((sound.ipReady _ admitted).advance later) fits.ipRoom
      pairReady := fun other member => by
        rw [pairs]
        exact ((sound.pairReady other (remaining other member).1).advance later).strike (remaining other member).2
      ipReady := fun other member => by
        rw [ips]
        obtain ⟨pending, differs⟩ := remaining other member
        exact ((sound.ipReady other pending).advance later).strike (sound.ip_ne admitted pending differs)
      started := fun _ _ => nonneg
      apart := sound.apart.filter _ }
  | @success sourceIp loginIdentifier now later admitted =>
    have pending : ∀ other ∈ state.pending.filter (· ≠ pairOf casefold sourceIp loginIdentifier), other ∈ state.pending :=
      fun other member => List.mem_of_mem_filter member
    exact {
      pairs := by
        rw [failuresSince_success]
        exact (sound.pairs.advance later).forgive ((sound.pairReady _ admitted).advance later)
      ips := by
        rw [failuresOf_success]
        exact sound.ips.advance later
      pairReady := fun other member => ((sound.pairReady other (pending other member)).advance later).forgive _
      ipReady := fun other member => (sound.ipReady other (pending other member)).advance later
      started := fun other member => (sound.started other (pending other member)).trans later
      apart := sound.apart.filter _ }

/-- No lock-out of the pair or its address lasts longer. -/
def FreeAt (state : LoginState) (pair : Pair) (time : ℚ) : Prop :=
  (∀ until', state.limiter.pairs.blocked.get? pair = some until' → until' ≤ time) ∧
    ∀ until', state.limiter.ips.blocked.get? pair.1 = some until' → until' ≤ time

/-- The attempts of other addresses set no lock-out here. -/
theorem FreeAt.step {pair : Pair} {time : ℚ} (free : state.FreeAt pair time)
    (step : LoginStep casefold settings state call after) (other : source call.sourceIp ≠ pair.1) :
    after.FreeAt pair time := by
  cases step with
  | @check sourceIp loginIdentifier now later idle =>
    rcases AuthRateLimiter.checkLogin_cases casefold state.limiter sourceIp loginIdentifier now with
      ⟨_, refused⟩ | ⟨_, _, pairs, ips⟩
    · exact ⟨fun until' found => free.1 until' (by rwa [refused] at found),
        fun until' found => free.2 until' (by rwa [refused] at found)⟩
    · exact ⟨fun until' found => free.1 until' (Throttle.get?_eq_some_of_release (pairs ▸ found)),
        fun until' found => free.2 until' (Throttle.get?_eq_some_of_release (ips ▸ found))⟩
  | @failure sourceIp loginIdentifier now later admitted =>
    obtain ⟨pairs, ips⟩ := @AuthRateLimiter.recordLoginFailure_snd casefold settings state.limiter sourceIp loginIdentifier now
    refine ⟨fun until' found => free.1 until' ?_, fun until' found => free.2 until' ?_⟩
    · rw [pairs] at found
      have marked := Lib.OrderedDict.get?_of_get?_cap found
      rwa [Throttle.get?_marked_of_ne] at marked
      rintro rfl
      exact other rfl
    · rw [ips] at found
      have marked := Lib.OrderedDict.get?_of_get?_cap found
      rwa [Throttle.get?_marked_of_ne] at marked
      exact Ne.symm other
  | @success sourceIp loginIdentifier now later admitted =>
    exact ⟨fun until' found => free.1 until' (Lib.OrderedDict.get?_pop_eq_some_iff.mp found).2, free.2⟩

theorem FreeAt.run {pair : Pair} {time : ℚ} {calls : List Call} (free : state.FreeAt pair time)
    (run : Run (LoginStep casefold settings) state calls after) (others : ∀ call ∈ calls, source call.sourceIp ≠ pair.1) :
    after.FreeAt pair time := by
  induction run with
  | done _ => exact free
  | next step _ ih =>
    exact ih (free.step step (others _ List.mem_cons_self)) fun call member => others call (List.mem_cons_of_mem _ member)

end LoginState

/-! ## Counting -/

def failuresOfPair (attempts : List Attempt) (pair : Pair) : List ℚ :=
  attempts.filterMap fun attempt => if attempt.pair = pair ∧ ¬attempt.succeeded then some attempt.time else none

/-- The failures at the head that no success of the pair precedes. -/
theorem failuresOfPair_sublist {attempts segment : List Attempt} {pair : Pair} (isPrefix : segment <+: attempts)
    (noSuccess : ∀ attempt ∈ segment, ¬(attempt.pair = pair ∧ attempt.succeeded = true)) :
    (failuresOfPair segment pair).Sublist (failuresSince attempts pair) := by
  induction attempts generalizing segment with
  | nil =>
    rw [List.prefix_nil.mp isPrefix]
    exact List.Sublist.slnil
  | cons attempt earlier ih =>
    rcases List.prefix_cons_iff.mp isPrefix with rfl | ⟨rest, rfl, isRest⟩
    · exact List.nil_sublist _
    have later := ih isRest fun other member => noSuccess other (List.mem_cons_of_mem _ member)
    rw [failuresSince]
    split
    · next isOther =>
      have skipped : failuresOfPair (attempt :: rest) pair = failuresOfPair rest pair :=
        List.filterMap_cons_none (if_neg fun same => isOther same.1)
      rwa [skipped]
    · next isPair =>
      have isPair := not_not.mp isPair
      have failed : ¬attempt.succeeded = true := fun succeeded =>
        noSuccess attempt List.mem_cons_self ⟨isPair, succeeded⟩
      have counted : failuresOfPair (attempt :: rest) pair = attempt.time :: failuresOfPair rest pair :=
        List.filterMap_cons_some (if_pos ⟨isPair, failed⟩)
      rw [if_neg failed, counted]
      exact later.cons_cons _

/-- An interval as long as the window holds no more failures than the limits say, for a pair between two
    successes. -/
structure Bounded (settings : Settings) (attempts : List Attempt) : Prop where
  ips : ∀ ip start, (within start (settings.loginWindowSeconds : ℚ) (failuresOf attempts ip)).length ≤ settings.loginIpLimit
  pairs : ∀ pair segment, segment <:+: attempts →
    (∀ attempt ∈ segment, ¬(attempt.pair = pair ∧ attempt.succeeded = true)) → ∀ start,
      (within start (settings.loginWindowSeconds : ℚ) (failuresOfPair segment pair)).length ≤ settings.loginPairLimit

namespace LoginState

variable {casefold : String → String} {settings : Settings} {state after : LoginState} {call : Call}

structure Counted (settings : Settings) (state : LoginState) : Prop where
  pairs : Throttle.Counted settings.pairLimits state.limiter.pairs (failuresSince state.attempts) state.clock
  ips : Throttle.Counted settings.ipLimits state.limiter.ips (failuresOf state.attempts) state.clock
  pairBelow : ∀ pair ∈ state.pending,
    (recent settings.pairLimits.window state.clock (failuresSince state.attempts pair)).length < settings.loginPairLimit
  ipBelow : ∀ pair ∈ state.pending,
    (recent settings.ipLimits.window state.clock (failuresOf state.attempts pair.1)).length < settings.loginIpLimit
  bounded : Bounded settings state.attempts

/-- What has no place in a table of failures has no unexpired failure. -/
def Spares (casefold : String → String) (settings : Settings) (state : LoginState) (call : Call) : Prop :=
  match call.method with
  | .recordLoginFailure =>
    state.limiter.pairs.Spares settings.pairLimits (pairOf casefold call.sourceIp call.loginIdentifier) call.now ∧
      state.limiter.ips.Spares settings.ipLimits (source call.sourceIp) call.now
  | _ => True

theorem Counted.fresh (pairPositive : 0 < settings.loginPairLimit) (ipPositive : 0 < settings.loginIpLimit) (clock : ℚ) :
    Counted settings (fresh clock) where
  pairs := .empty pairPositive _
  ips := .empty ipPositive _
  pairBelow _ member := by cases member
  ipBelow _ member := by cases member
  bounded :=
    { ips := fun _ _ => Nat.zero_le _
      pairs := fun pair segment isSegment _ start => by
        rw [List.infix_nil.mp isSegment]
        exact Nat.zero_le _ }

/-- One more attempt keeps the bounds when the tables count it. -/
theorem bounded_cons {attempt : Attempt} {attempts : List Attempt} (bounded : Bounded settings attempts)
    (ips : ∀ ip start,
      (within start settings.ipLimits.window (failuresOf (attempt :: attempts) ip)).length ≤ settings.loginIpLimit)
    (pairs : ∀ pair start,
      (within start settings.pairLimits.window (failuresSince (attempt :: attempts) pair)).length ≤
        settings.loginPairLimit) : Bounded settings (attempt :: attempts) where
  ips := ips
  pairs pair segment isSegment noSuccess start := by
    rcases List.infix_cons_iff.mp isSegment with isPrefix | isEarlier
    · exact ((failuresOfPair_sublist isPrefix noSuccess).filter _).length_le.trans (pairs pair start)
    · exact bounded.pairs pair segment isEarlier noSuccess start

theorem Counted.step (pairPositive : 0 < settings.loginPairLimit) (ipPositive : 0 < settings.loginIpLimit)
    (lockout : settings.loginWindowSeconds ≤ settings.loginLockoutSeconds) (counted : state.Counted settings)
    (sound : state.Sound settings) (step : LoginStep casefold settings state call after) (fits : after.Fits settings)
    (spares : state.Spares casefold settings call) : after.Counted settings := by
  have short : (settings.loginWindowSeconds : ℚ) ≤ settings.loginLockoutSeconds := Int.cast_le.mpr lockout
  have pairLater {now : ℚ} (later : state.clock ≤ now) : ∀ pair ∈ state.pending,
      (recent settings.pairLimits.window now (failuresSince state.attempts pair)).length < settings.loginPairLimit :=
    fun pair member => (Throttle.recent_length_anti later _).trans_lt (counted.pairBelow pair member)
  have ipLater {now : ℚ} (later : state.clock ≤ now) : ∀ pair ∈ state.pending,
      (recent settings.ipLimits.window now (failuresOf state.attempts pair.1)).length < settings.loginIpLimit :=
    fun pair member => (Throttle.recent_length_anti later _).trans_lt (counted.ipBelow pair member)
  cases step with
  | @check sourceIp loginIdentifier now later idle =>
    rcases AuthRateLimiter.checkLogin_cases casefold state.limiter sourceIp loginIdentifier now with
      ⟨_, refused⟩ | ⟨free, admitted, pairs, ips⟩
    · rw [refused]
      exact {
        pairs := counted.pairs.advance later
        ips := counted.ips.advance later
        pairBelow := pairLater later
        ipBelow := ipLater later
        bounded := counted.bounded }
    · have pairFree := (le_max_left _ _).trans free
      have ipFree := (le_max_right _ _).trans free
      have isAllowed : (checkLogin casefold state.limiter sourceIp loginIdentifier now).1.allowed = true := by
        rw [admitted]
      rw [if_pos isAllowed]
      exact {
        pairs := pairs ▸ (counted.pairs.advance later).release (sound.pairs.advance later) pairFree pairPositive
        ips := ips ▸ (counted.ips.advance later).release (sound.ips.advance later) ipFree ipPositive
        pairBelow := fun pair member => by
          rcases List.mem_cons.mp member with rfl | pending
          · exact (counted.pairs.advance later).below pairFree
          · exact pairLater later pair pending
        ipBelow := fun pair member => by
          rcases List.mem_cons.mp member with rfl | pending
          · exact (counted.ips.advance later).below ipFree
          · exact ipLater later pair pending
        bounded := counted.bounded }
  | @failure sourceIp loginIdentifier now later admitted =>
    obtain ⟨pairs, ips⟩ := @AuthRateLimiter.recordLoginFailure_snd casefold settings state.limiter sourceIp loginIdentifier now
    have nonneg := (sound.started _ admitted).trans later
    have pairsAfter := (counted.pairs.advance later).strike (sound.pairs.advance later) short nonneg
      ((sound.pairReady _ admitted).advance later) fits.pairRoom (pairLater later _ admitted) spares.1
    have ipsAfter := (counted.ips.advance later).strike (sound.ips.advance later) short nonneg
      ((sound.ipReady _ admitted).advance later) fits.ipRoom (ipLater later _ admitted) spares.2
    rw [← failuresSince_failure, ← pairs] at pairsAfter
    exact {
      pairs := pairsAfter
      ips := by
        rw [failuresOf_failure, ips]
        exact ipsAfter
      pairBelow := fun other member => by
        obtain ⟨pending, differs⟩ := List.mem_filter.mp member
        rw [failuresSince_failure, Throttle.mark, Function.update_of_ne (of_decide_eq_true differs)]
        exact pairLater later other pending
      ipBelow := fun other member => by
        obtain ⟨pending, differs⟩ := List.mem_filter.mp member
        have isOther : other.1 ≠ (pairOf casefold sourceIp loginIdentifier).1 :=
          sound.ip_ne admitted pending (of_decide_eq_true differs)
        rw [failuresOf_failure, Throttle.mark, Function.update_of_ne isOther]
        exact ipLater later other pending
      bounded := bounded_cons counted.bounded (by rw [failuresOf_failure]; exact ipsAfter.bound) pairsAfter.bound }
  | @success sourceIp loginIdentifier now later admitted =>
    have pending : ∀ other ∈ state.pending.filter (· ≠ pairOf casefold sourceIp loginIdentifier), other ∈ state.pending :=
      fun other member => List.mem_of_mem_filter member
    have pairsAfter := @Throttle.Counted.forgive _ _ _ _ _ _ _ _ _ _
      (pairOf casefold sourceIp loginIdentifier) (counted.pairs.advance later)
      (Function.update (failuresSince state.attempts) (pairOf casefold sourceIp loginIdentifier) [])
      (fun other isOther => Function.update_of_ne isOther _ _)
      (by rw [Function.update_self]; exact List.nil_sublist _)
      (by rw [Function.update_self]; rfl) pairPositive
    rw [← failuresSince_success _ _ now] at pairsAfter
    have ipsAfter := counted.ips.advance later
    rw [← failuresOf_success state.attempts (pairOf casefold sourceIp loginIdentifier) now] at ipsAfter
    exact {
      pairs := pairsAfter
      ips := ipsAfter
      pairBelow := fun other member => by
        obtain ⟨isPending, differs⟩ := List.mem_filter.mp member
        rw [failuresSince_success, Function.update_of_ne (of_decide_eq_true differs)]
        exact pairLater later other isPending
      ipBelow := fun other member => by
        rw [failuresOf_success]
        exact ipLater later other (pending other member)
      bounded := bounded_cons counted.bounded ipsAfter.bound pairsAfter.bound }

end LoginState

/-! ## Runs -/

section Runs

variable (casefold : String → String) (settings : Settings)

/-- A failed login: its address, its identifier and its time. -/
structure Failed where
  sourceIp : String
  loginIdentifier : String
  now : ℚ

def LoginState.checked (state : LoginState) (failed : Failed) : LoginState :=
  { state with
    limiter := (checkLogin casefold state.limiter failed.sourceIp failed.loginIdentifier failed.now).2
    clock := failed.now
    pending := pairOf casefold failed.sourceIp failed.loginIdentifier :: state.pending }

def LoginState.failed (state : LoginState) (failed : Failed) : LoginState where
  limiter := (recordLoginFailure casefold settings state.limiter failed.sourceIp failed.loginIdentifier failed.now).2
  clock := failed.now
  pending := state.pending.filter (· ≠ pairOf casefold failed.sourceIp failed.loginIdentifier)
  attempts := ⟨pairOf casefold failed.sourceIp failed.loginIdentifier, failed.now, false⟩ :: state.attempts
  pairEnds := state.limiter.pairs.endsAfter settings.pairLimits (pairOf casefold failed.sourceIp failed.loginIdentifier)
    failed.now state.pairEnds
  ipEnds := state.limiter.ips.endsAfter settings.ipLimits (source failed.sourceIp) failed.now state.ipEnds

end Runs

end ZeroNvr.Auth.RateLimit
