import ZeroNvr.Core.Json
import ZeroNvr.Lib.Throttle

/-! # The login rate limiter

Failed logins are counted for an address, and for an address with an identifier.
Each method reads the clock and then holds the lock, so a call is one step.  The
clock counts seconds; `casefold` is `str.casefold`.
-/

namespace ZeroNvr.Auth.RateLimit

open Lib (OrderedDict Throttle)

structure RateLimitDecision where
  allowed : Bool
  retryAfterSeconds : Int := 0
  newlyBlocked : Bool := false
  deriving DecidableEq, Repr

/-- The arguments of the constructor that logins are limited with. -/
structure Settings where
  loginWindowSeconds : Int := 300
  loginPairLimit : Nat := 5
  loginIpLimit : Nat := 20
  loginLockoutSeconds : Int := 300
  maxKeys : Nat := 4096

/-- An address and an identifier. -/
abbrev Pair := String × String

structure AuthRateLimiter where
  loginPair : OrderedDict Pair (List ℚ)
  loginIp : OrderedDict String (List ℚ)
  loginBlockedPair : OrderedDict Pair ℚ
  loginBlockedIp : OrderedDict String ℚ

def AuthRateLimiter.new : AuthRateLimiter := ⟨.empty, .empty, .empty, .empty⟩

def source (value : Option String) : String :=
  let value := value.getD ""
  String.ofList ((if value = "" then "unknown" else value).toList.take 64)

def identifier (casefold : String → String) (value : String) : String :=
  String.ofList ((casefold (strip value)).toList.take 320)

def blockedDecision (now blockedUntil : ℚ) : RateLimitDecision where
  allowed := false
  retryAfterSeconds := max 1 ⌈blockedUntil - now⌉

/-- `blocked_until` of a failure that leaves the buckets. -/
def failureBlockedUntil (settings : Settings) (pairBucket ipBucket : List ℚ) (candidate : ℚ) : ℚ :=
  let blockedUntil := if settings.loginPairLimit ≤ pairBucket.length then max 0 candidate else 0
  if settings.loginIpLimit ≤ ipBucket.length then max blockedUntil candidate else blockedUntil

section Calls

variable (casefold : String → String) (settings : Settings) (limiter : AuthRateLimiter) (sourceIp : Option String)
  (loginIdentifier : String) (now : ℚ)

def pairOf : Pair := (source sourceIp, identifier casefold loginIdentifier)

def checkLogin : RateLimitDecision × AuthRateLimiter :=
  let ip := source sourceIp
  let pair := pairOf casefold sourceIp loginIdentifier
  let pairUntil := (limiter.loginBlockedPair.get? pair).getD 0
  let ipUntil := (limiter.loginBlockedIp.get? ip).getD 0
  let blockedUntil := max pairUntil ipUntil
  if now < blockedUntil then (blockedDecision now blockedUntil, limiter)
  else
    ({ allowed := true },
      { loginPair := if pairUntil ≠ 0 then limiter.loginPair.pop pair else limiter.loginPair
        loginBlockedPair := if pairUntil ≠ 0 then limiter.loginBlockedPair.pop pair else limiter.loginBlockedPair
        loginIp := if ipUntil ≠ 0 then limiter.loginIp.pop ip else limiter.loginIp
        loginBlockedIp := if ipUntil ≠ 0 then limiter.loginBlockedIp.pop ip else limiter.loginBlockedIp })

def recordLoginFailure : RateLimitDecision × AuthRateLimiter :=
  let ip := source sourceIp
  let pair := pairOf casefold sourceIp loginIdentifier
  let pairBucket := Throttle.prune ((limiter.loginPair.get? pair).getD []) (now - settings.loginWindowSeconds) ++ [now]
  let ipBucket := Throttle.prune ((limiter.loginIp.get? ip).getD []) (now - settings.loginWindowSeconds) ++ [now]
  let candidate := now + settings.loginLockoutSeconds
  let newlyBlocked :=
    settings.loginPairLimit ≤ pairBucket.length ∧ (limiter.loginBlockedPair.get? pair).getD 0 ≤ now ∨
      settings.loginIpLimit ≤ ipBucket.length ∧ (limiter.loginBlockedIp.get? ip).getD 0 ≤ now
  let blockedUntil := failureBlockedUntil settings pairBucket ipBucket candidate
  (if now < blockedUntil then { blockedDecision now blockedUntil with newlyBlocked := decide newlyBlocked }
    else { allowed := true },
    { loginPair := (limiter.loginPair.set pair pairBucket).cap settings.maxKeys
      loginIp := (limiter.loginIp.set ip ipBucket).cap settings.maxKeys
      loginBlockedPair :=
        (if settings.loginPairLimit ≤ pairBucket.length then limiter.loginBlockedPair.set pair candidate
          else limiter.loginBlockedPair).cap settings.maxKeys
      loginBlockedIp :=
        (if settings.loginIpLimit ≤ ipBucket.length then limiter.loginBlockedIp.set ip candidate
          else limiter.loginBlockedIp).cap settings.maxKeys })

def recordLoginSuccess : AuthRateLimiter :=
  let pair := pairOf casefold sourceIp loginIdentifier
  { limiter with loginPair := limiter.loginPair.pop pair, loginBlockedPair := limiter.loginBlockedPair.pop pair }

end Calls

/-! ## Two throttles

A pair is throttled by one pair of tables and an address by the other. -/

def Settings.pairLimits (settings : Settings) : Throttle.Limits ℚ where
  limit := settings.loginPairLimit
  window := settings.loginWindowSeconds
  lockout := settings.loginLockoutSeconds
  capacity := settings.maxKeys

def Settings.ipLimits (settings : Settings) : Throttle.Limits ℚ where
  limit := settings.loginIpLimit
  window := settings.loginWindowSeconds
  lockout := settings.loginLockoutSeconds
  capacity := settings.maxKeys

namespace AuthRateLimiter

variable {casefold : String → String} {settings : Settings} {limiter : AuthRateLimiter} {sourceIp : Option String}
  {loginIdentifier : String} {now : ℚ}

def pairs (limiter : AuthRateLimiter) : Throttle Pair ℚ := ⟨limiter.loginPair, limiter.loginBlockedPair⟩

def ips (limiter : AuthRateLimiter) : Throttle String ℚ := ⟨limiter.loginIp, limiter.loginBlockedIp⟩

/-- The instant until which a login of the pair is refused. -/
def refusedUntil (limiter : AuthRateLimiter) (pair : Pair) : ℚ :=
  max (limiter.pairs.blockedUntil pair) (limiter.ips.blockedUntil pair.1)

theorem popped_eq_release {κ : Type} [DecidableEq κ] (buckets : OrderedDict κ (List ℚ)) (blocked : OrderedDict κ ℚ)
    (key : κ) :
    (⟨if (blocked.get? key).getD 0 ≠ 0 then buckets.pop key else buckets,
      if (blocked.get? key).getD 0 ≠ 0 then blocked.pop key else blocked⟩ : Throttle κ ℚ) =
        Throttle.release ⟨buckets, blocked⟩ key := by
  rw [Throttle.release, Throttle.blockedUntil]
  by_cases isZero : (blocked.get? key).getD 0 = 0
  · rw [if_pos isZero, if_neg (not_not.mpr isZero), if_neg (not_not.mpr isZero)]
  · rw [if_neg isZero, if_pos isZero, if_pos isZero]

theorem checkLogin_cases (casefold : String → String) (limiter : AuthRateLimiter) (sourceIp : Option String)
    (loginIdentifier : String) (now : ℚ) :
    (now < limiter.refusedUntil (pairOf casefold sourceIp loginIdentifier) ∧
      checkLogin casefold limiter sourceIp loginIdentifier now =
        (blockedDecision now (limiter.refusedUntil (pairOf casefold sourceIp loginIdentifier)), limiter)) ∨
    (limiter.refusedUntil (pairOf casefold sourceIp loginIdentifier) ≤ now ∧
      (checkLogin casefold limiter sourceIp loginIdentifier now).1 = { allowed := true } ∧
      (checkLogin casefold limiter sourceIp loginIdentifier now).2.pairs =
        limiter.pairs.release (pairOf casefold sourceIp loginIdentifier) ∧
      (checkLogin casefold limiter sourceIp loginIdentifier now).2.ips = limiter.ips.release (source sourceIp)) := by
  by_cases refused : now < limiter.refusedUntil (pairOf casefold sourceIp loginIdentifier)
  · exact .inl ⟨refused, if_pos refused⟩
  · have admitted : checkLogin casefold limiter sourceIp loginIdentifier now = (_, _) := if_neg refused
    refine .inr ⟨not_lt.mp refused, by rw [admitted], ?_, ?_⟩
    · rw [admitted]
      exact popped_eq_release _ _ _
    · rw [admitted]
      exact popped_eq_release _ _ _

theorem recordLoginFailure_snd :
    (recordLoginFailure casefold settings limiter sourceIp loginIdentifier now).2.pairs =
        limiter.pairs.strike settings.pairLimits (pairOf casefold sourceIp loginIdentifier) now ∧
      (recordLoginFailure casefold settings limiter sourceIp loginIdentifier now).2.ips =
        limiter.ips.strike settings.ipLimits (source sourceIp) now := ⟨rfl, rfl⟩

theorem recordLoginSuccess_pairs :
    (recordLoginSuccess casefold limiter sourceIp loginIdentifier).pairs =
      limiter.pairs.forgive (pairOf casefold sourceIp loginIdentifier) := rfl

theorem recordLoginSuccess_ips : (recordLoginSuccess casefold limiter sourceIp loginIdentifier).ips = limiter.ips := rfl

end AuthRateLimiter

end ZeroNvr.Auth.RateLimit
