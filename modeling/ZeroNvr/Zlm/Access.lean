import ZeroNvr.Cameras.MediaSessions
import ZeroNvr.Core.UrlQuery
import ZeroNvr.Core.UuidText

/-! # Media grants

`ZlmMediaAccess` signs the address of a stream and verifies the query a player comes
with.  `hmac.new(key, message, sha256)` is a parameter.  An address is taken in the
parts that `urlsplit` gives and `urlunsplit` puts together again.
-/

namespace ZeroNvr

open JsonText (hexDigit hexValue? hexValue?_hexDigit)

/-- The settings that grants depend on. -/
structure AccessSettings where
  secretKey : String
  secretKeyPrevious : List String
  zlmHookSecret : Option String

structure SplitResult where
  scheme : String
  netloc : String
  path : String
  query : List Char
  fragment : String

inductive HookReply where
  | ack
  | unauthorized
deriving DecidableEq

structure ZlmPlayHook where
  mediaServerId : String
  app : String
  stream : String
  params : List Char

namespace ZlmMediaAccess

def signatureParam : List Char := "zn_sig".toList
def expiryParam : List Char := "zn_exp".toList
def sessionParam : List Char := "zn_sid".toList
def maxTtlSeconds : Int := 24 * 60 * 60

/-- `bytes.hex()`. -/
def hexdigest (bytes : Bytes) : List Char :=
  bytes.flatMap fun byte => [hexDigit (byte.toNat / 16), hexDigit byte.toNat]

def message (app stream : String) (expiresAt : Int) (sessionId : Option UUID) : Bytes :=
  match sessionId with
  | none => utf8 ("zlm-play-v1\n".toList ++ app.toList ++ '\n' :: stream.toList ++ '\n' :: (toString expiresAt).toList)
  | some sessionId =>
    utf8 ("zlm-play-v2\n".toList ++ app.toList ++ '\n' :: stream.toList ++ '\n' :: (toString expiresAt).toList ++
      '\n' :: sessionId.str)

/-- `datetime.fromtimestamp(epoch, tz=UTC)`, in seconds: the years go from 1 to 9999. -/
def fromTimestamp (epoch : Int) : Result Int :=
  if epoch < -2 ^ 63 ∨ 2 ^ 63 ≤ epoch then .error .overflowError
  else if epoch < -62135596800 ∨ 253402300799 < epoch then .error (.valueError "year is out of range")
  else .ok epoch

section
variable (hmacSha256 : Bytes → Bytes → Bytes)

def signature (key : String) (app stream : String) (expiresAt : Int) (sessionId : Option UUID) : List Char :=
  hexdigest (hmacSha256 (utf8 key.toList) (message app stream expiresAt sessionId))

def issueParams (settings : AccessSettings) (app stream : String) (ttlSeconds nowEpoch : Int) (sessionId : Option UUID) :
    Result (QueryPairs × Int) :=
  if ttlSeconds ≤ 0 ∨ maxTtlSeconds < ttlSeconds then .error (.valueError "invalid ZLM media token TTL")
  else
    let expiresAt := nowEpoch + ttlSeconds
    let supplied := signature hmacSha256 settings.secretKey app stream expiresAt sessionId
    let issued := [(expiryParam, (toString expiresAt).toList), (signatureParam, supplied)] ++
      sessionId.toList.map fun sessionId => (sessionParam, sessionId.str)
    (fromTimestamp expiresAt).map fun instant => (issued, instant)

def signUrl (settings : AccessSettings) (url : SplitResult) (app stream : String) (ttlSeconds nowEpoch : Int)
    (sessionId : Option UUID) : Result (SplitResult × Int) :=
  (issueParams hmacSha256 settings app stream ttlSeconds nowEpoch sessionId).map fun (issued, expiresAt) =>
    let query := (parseQsl url.query).filter fun pair => pair.1 ∉ [expiryParam, signatureParam, sessionParam]
    ({ url with query := urlencode (query ++ issued) }, expiresAt)

/-- `hmac.compare_digest` of two texts. -/
def compareDigest (supplied expected : List Char) : Result Bool :=
  if supplied.all isAscii && expected.all isAscii then .ok (supplied = expected)
  else .error (.typeError "comparing strings with non-ASCII characters is not supported")

/-- The loop over the keys, which ends with the first that fits. -/
def verifyKeys (supplied : List Char) (expected : String → List Char) : List String → Result Bool
  | [] => .ok false
  | key :: rest => do
    let fits ← compareDigest supplied (expected key)
    if fits then .ok true else verifyKeys supplied expected rest

/-- The session id of a query that has at most one; `none` where it cannot be read. -/
def readSession : List (List Char) → Option (Option UUID)
  | [] => some none
  | value :: _ => (UUID.parse value).map some

def queryOf (params : List Char) : QueryPairs := parseQsl (params.dropWhile (· = '?'))

def keys (settings : AccessSettings) : List String := settings.secretKey :: settings.secretKeyPrevious

def verify (settings : AccessSettings) (app stream : String) (params : List Char) (now : Int) (allowExpired : Bool) :
    Result Bool :=
  let query := queryOf params
  let expiryValues := queryValues query expiryParam
  let signatureValues := queryValues query signatureParam
  let sessionValues := queryValues query sessionParam
  match expiryValues, signatureValues with
  | [expiry], [supplied] =>
    if 1 < sessionValues.length then .ok false
    else
      match readSession sessionValues with
      | none => .ok false
      | some sessionId =>
        match int10 expiry with
        | none => .ok false
        | some expiresAt =>
          if now + maxTtlSeconds < expiresAt then .ok false
          else if !allowExpired && expiresAt < now then .ok false
          else
            verifyKeys supplied (fun key => signature hmacSha256 key app stream expiresAt sessionId) (keys settings)
  | _, _ => .ok false

def sessionIdFromParams (params : List Char) : Option UUID :=
  match queryValues (queryOf params) sessionParam with
  | [value] => UUID.parse value
  | _ => none

/-! ## The hook -/

/-- `_authenticate_hook`. -/
def authenticateHook (settings : AccessSettings) (mediaServerId : String) : Result Unit :=
  match settings.zlmHookSecret with
  | none => .error (apiError 503 "zlm_hook_not_configured" "ZLMediaKit hook authentication is not configured.")
  | some expected =>
    if mediaServerId ≠ expected then
      .error (apiError 401 "zlm_hook_unauthorized" "ZLMediaKit hook authentication failed.")
    else .ok ()

/-- The applications a player may ask for. -/
def playedApps : List String := ["zero-nvr", "zero-nvr-vod", "zero-nvr-compat"]

def zlmPlay {Cleanup : Type} (settings : AccessSettings) (mediaSessions : MediaSessionRegistry Cleanup) (body : ZlmPlayHook)
    (now : Int) : Result HookReply := do
  authenticateHook settings body.mediaServerId
  if body.app ∉ playedApps then .ok .unauthorized
  else
    let mediaSessionId := sessionIdFromParams body.params
    if mediaSessionId.any fun id => !mediaSessions.active id.int then .ok .unauthorized
    else
      let verified ← verify hmacSha256 settings body.app body.stream body.params now mediaSessionId.isSome
      if verified then .ok .ack else .ok .unauthorized

end

end ZlmMediaAccess

end ZeroNvr
