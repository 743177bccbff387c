import ZeroNvr.Lib.Outcome
import ZeroNvr.Zlm.Access

/-! # Media grants

The query of a signed address is read back as it was signed, and the message under
a tag determines the application, the stream, the expiry and the session.  What is
left open is the comparison of the tags, which raises on a tag outside ASCII.
-/

namespace ZeroNvr

open Lib

open JsonText (hexDigit hexValue? hexValue?_hexDigit)

namespace ZlmMediaAccess

/-! ## Messages -/

/-- The lines of a message. -/
def messageLines (app stream : String) (expiresAt : Int) : Option UUID → List (List Char)
  | none => ["zlm-play-v1".toList, app.toList, stream.toList, (toString expiresAt).toList]
  | some sessionId => ["zlm-play-v2".toList, app.toList, stream.toList, (toString expiresAt).toList, sessionId.str]

theorem message_eq_lines (app stream : String) (expiresAt : Int) (sessionId : Option UUID) :
    message app stream expiresAt sessionId = utf8 (['\n'].intercalate (messageLines app stream expiresAt sessionId)) := by
  cases sessionId <;> simp [message, messageLines, List.intercalate_cons_cons, List.intercalate_singleton]

theorem newline_notMem_toString (n : Int) : '\n' ∉ (toString n).toList := by
  have noDigit (m : Nat) : '\n' ∉ m.repr.toList := fun member => absurd (isDigit_of_mem_toString member) (by decide)
  cases n with
  | ofNat n => exact noDigit n
  | negSucc n =>
    rw [show toString (Int.negSucc n) = "-" ++ (n + 1).repr from rfl, String.toList_append]
    intro member
    rcases List.mem_append.mp member with inSign | inDigits
    · exact absurd inSign (by simp)
    · exact noDigit (n + 1) inDigits

theorem newline_notMem_str (id : UUID) : '\n' ∉ id.str := by
  intro member
  rcases UUID.mem_str member with digit | isDash
  · exact UUID.ne_of_mem_hexDigits (by decide) digit rfl
  · exact absurd isDash (by decide)

theorem newline_notMem_lines {app stream : String} (plainApp : '\n' ∉ app.toList) (plainStream : '\n' ∉ stream.toList)
    (expiresAt : Int) (sessionId : Option UUID) : ∀ line ∈ messageLines app stream expiresAt sessionId, '\n' ∉ line := by
  cases sessionId with
  | none =>
    simp only [messageLines, List.forall_mem_cons]
    exact ⟨by simp, plainApp, plainStream, newline_notMem_toString _, by simp⟩
  | some sessionId =>
    simp only [messageLines, List.forall_mem_cons]
    exact ⟨by simp, plainApp, plainStream, newline_notMem_toString _, newline_notMem_str _, by simp⟩

theorem str_injective {left right : UUID} (same : left.str = right.str) : left = right := by
  have read := UUID.parse_str left
  rw [same, UUID.parse_str] at read
  exact (Option.some.inj read).symm

theorem messageLines_injective {app stream app' stream' : String} {expiresAt expiresAt' : Int}
    {sessionId sessionId' : Option UUID}
    (same : messageLines app stream expiresAt sessionId = messageLines app' stream' expiresAt' sessionId') :
    app = app' ∧ stream = stream' ∧ expiresAt = expiresAt' ∧ sessionId = sessionId' := by
  have number {n m : Int} (sameText : (toString n).toList = (toString m).toList) : n = m :=
    Int.repr_injective (String.toList_injective sameText)
  cases sessionId with
  | none =>
    cases sessionId' with
    | none =>
      simp only [messageLines, List.cons.injEq] at same
      obtain ⟨_, sameApp, sameStream, sameExpiry, _⟩ := same
      exact ⟨String.toList_injective sameApp, String.toList_injective sameStream, number sameExpiry, rfl⟩
    | some sessionId' => exact absurd (congrArg List.length same) (by simp [messageLines])
  | some sessionId =>
    cases sessionId' with
    | none => exact absurd (congrArg List.length same) (by simp [messageLines])
    | some sessionId' =>
      simp only [messageLines, List.cons.injEq] at same
      obtain ⟨_, sameApp, sameStream, sameExpiry, sameSession, _⟩ := same
      exact ⟨String.toList_injective sameApp, String.toList_injective sameStream, number sameExpiry,
        congrArg some (str_injective sameSession)⟩

/-- A message determines what it is about. -/
theorem message_injective {app stream app' stream' : String} {expiresAt expiresAt' : Int}
    {sessionId sessionId' : Option UUID} (plainApp : '\n' ∉ app.toList) (plainStream : '\n' ∉ stream.toList)
    (plainApp' : '\n' ∉ app'.toList) (plainStream' : '\n' ∉ stream'.toList)
    (same : message app stream expiresAt sessionId = message app' stream' expiresAt' sessionId') :
    app = app' ∧ stream = stream' ∧ expiresAt = expiresAt' ∧ sessionId = sessionId' := by
  rw [message_eq_lines, message_eq_lines] at same
  have split (app stream : String) (expiresAt : Int) (sessionId : Option UUID) (plainApp : '\n' ∉ app.toList)
      (plainStream : '\n' ∉ stream.toList) :
      (['\n'].intercalate (messageLines app stream expiresAt sessionId)).splitOn '\n' =
        messageLines app stream expiresAt sessionId := by
    refine List.splitOn_intercalate '\n' (newline_notMem_lines plainApp plainStream expiresAt sessionId) ?_
    cases sessionId <;> simp [messageLines]
  have sameSplit := congrArg (·.splitOn '\n') (utf8_injective same)
  rw [split _ _ _ _ plainApp plainStream, split _ _ _ _ plainApp' plainStream'] at sameSplit
  exact messageLines_injective sameSplit

/-! ## Tags -/

theorem isAscii_hexDigit (n : Nat) : isAscii (hexDigit n) = true := (UUID.plain_hexDigit n).1

theorem hexdigest_ascii (bytes : Bytes) : (hexdigest bytes).all isAscii = true := by
  rw [List.all_eq_true]
  intro c member
  obtain ⟨byte, _, inByte⟩ := List.mem_flatMap.mp member
  simp only [List.mem_cons, List.not_mem_nil, or_false] at inByte
  rcases inByte with rfl | rfl
  · exact isAscii_hexDigit _
  · exact isAscii_hexDigit _

theorem hexDigit_injective {n m : Nat} (same : hexDigit n = hexDigit m) : n % 16 = m % 16 :=
  Option.some.inj ((hexValue?_hexDigit n).symm.trans (same ▸ hexValue?_hexDigit m))

theorem hexdigest_injective {left right : Bytes} (same : hexdigest left = hexdigest right) : left = right := by
  induction left generalizing right with
  | nil =>
    cases right with
    | nil => rfl
    | cons byte right => cases same
  | cons byte left ih =>
    cases right with
    | nil => cases same
    | cons byte' right =>
      simp only [hexdigest, List.flatMap_cons, List.cons_append, List.nil_append, List.cons.injEq] at same
      obtain ⟨high, low, rest⟩ := same
      have sameByte : byte = byte' := by
        have sameHigh := hexDigit_injective high
        have sameLow := hexDigit_injective low
        have small := byte.toNat_lt
        have small' := byte'.toNat_lt
        exact UInt8.toNat_inj.mp (by omega)
      rw [sameByte, ih rest]

section
variable {hmacSha256 : Bytes → Bytes → Bytes}

theorem compareDigest_ascii {supplied expected : List Char} (ascii : supplied.all isAscii = true)
    (asciiExpected : expected.all isAscii = true) : compareDigest supplied expected = .ok (supplied = expected) := by
  rw [compareDigest, ascii, asciiExpected]
  rfl

/-- A tag of ASCII characters is compared with each of the keys. -/
theorem verifyKeys_ascii {supplied : List Char} {expected : String → List Char} (ascii : supplied.all isAscii = true)
    (asciiExpected : ∀ key, (expected key).all isAscii = true) (keys : List String) :
    verifyKeys supplied expected keys = .ok (keys.any fun key => supplied = expected key) := by
  induction keys with
  | nil => rfl
  | cons key rest ih =>
    rw [verifyKeys, compareDigest_ascii ascii (asciiExpected key), List.any_cons]
    by_cases fits : supplied = expected key
    · simp [fits, bind, Except.bind]
    · simpa [fits, bind, Except.bind] using ih

/-- Any other tag makes the first comparison raise. -/
theorem verifyKeys_not_ascii {supplied : List Char} {expected : String → List Char}
    (notAscii : supplied.all isAscii = false) (key : String) (rest : List String) (answer : Bool) :
    verifyKeys supplied expected (key :: rest) ≠ .ok answer := by
  rw [verifyKeys, compareDigest, notAscii]
  intro answered
  cases answered

/-! ## Verification -/

/-- What `verify` takes from a params string. -/
structure Presents (params : List Char) (expiresAt : Int) (sessionId : Option UUID) (supplied : List Char) : Prop where
  expiry : ∃ text, queryValues (queryOf params) expiryParam = [text] ∧ int10 text = some expiresAt
  tag : queryValues (queryOf params) signatureParam = [supplied]
  atMostOne : (queryValues (queryOf params) sessionParam).length ≤ 1
  session : readSession (queryValues (queryOf params) sessionParam) = some sessionId

/-- The expiries that `verify` takes at a time. -/
def InWindow (now : Int) (allowExpired : Bool) (expiresAt : Int) : Prop :=
  expiresAt ≤ now + maxTtlSeconds ∧ (allowExpired = true ∨ now ≤ expiresAt)

instance (now : Int) (allowExpired : Bool) (expiresAt : Int) : Decidable (InWindow now allowExpired expiresAt) :=
  inferInstanceAs (Decidable (_ ∧ _))

theorem verify_of_presents {params : List Char} {expiresAt : Int} {sessionId : Option UUID} {supplied : List Char}
    (presents : Presents params expiresAt sessionId supplied) (settings : AccessSettings) (app stream : String) (now : Int)
    (allowExpired : Bool) :
    verify hmacSha256 settings app stream params now allowExpired =
      if InWindow now allowExpired expiresAt then
        verifyKeys supplied (fun key => signature hmacSha256 key app stream expiresAt sessionId) (keys settings)
      else .ok false := by
  obtain ⟨text, isExpiry, isNumber⟩ := presents.expiry
  have few : ¬1 < (queryValues (queryOf params) sessionParam).length := not_lt.mpr presents.atMostOne
  simp only [verify, isExpiry, presents.tag, if_neg few, presents.session, isNumber]
  by_cases late : now + maxTtlSeconds < expiresAt
  · rw [if_pos late, if_neg fun window => absurd window.1 (not_le.mpr late)]
  · rw [if_neg late]
    by_cases expired : allowExpired = true ∨ now ≤ expiresAt
    · have notExpired : ¬((!allowExpired && decide (expiresAt < now)) = true) := by
        rw [Bool.and_eq_true, Bool.not_eq_true', decide_eq_true_eq]
        rintro ⟨notAllowed, before⟩
        rcases expired with allowed | inTime
        · rw [allowed] at notAllowed
          cases notAllowed
        · exact absurd inTime (not_le.mpr before)
      rw [if_neg notExpired, if_pos ⟨not_lt.mp late, expired⟩]
    · obtain ⟨notAllowed, before⟩ := not_or.mp expired
      have isExpired : (!allowExpired && decide (expiresAt < now)) = true := by
        rw [Bool.and_eq_true, Bool.not_eq_true', decide_eq_true_eq]
        exact ⟨Bool.not_eq_true _ ▸ notAllowed, not_le.mp before⟩
      rw [if_pos isExpired, if_neg fun window => expired window.2]

/-- A params string without these is refused. -/
theorem verify_of_not_presents {params : List Char}
    (notPresents : ∀ expiresAt sessionId supplied, ¬Presents params expiresAt sessionId supplied)
    (settings : AccessSettings) (app stream : String) (now : Int) (allowExpired : Bool) :
    verify hmacSha256 settings app stream params now allowExpired = .ok false := by
  simp only [verify]
  split
  · next expiry supplied isExpiry isTag =>
    split
    · rfl
    · next few =>
      split
      · rfl
      · next sessionId isSession =>
        split
        · rfl
        · next expiresAt isNumber =>
          exact absurd ⟨⟨expiry, isExpiry, isNumber⟩, isTag, not_lt.mp few, isSession⟩
            (notPresents expiresAt sessionId supplied)
  · rfl

theorem signature_ascii (key app stream : String) (expiresAt : Int) (sessionId : Option UUID) :
    (signature hmacSha256 key app stream expiresAt sessionId).all isAscii = true := hexdigest_ascii _

/-- When `verify` answers. -/
theorem verify_answers_iff (settings : AccessSettings) (app stream : String) (params : List Char) (now : Int)
    (allowExpired : Bool) :
    (∃ answer, verify hmacSha256 settings app stream params now allowExpired = .ok answer) ↔
      ∀ expiresAt sessionId supplied, Presents params expiresAt sessionId supplied → InWindow now allowExpired expiresAt →
        supplied.all isAscii = true := by
  constructor
  · rintro ⟨answer, answered⟩ expiresAt sessionId supplied presents window
    rw [verify_of_presents presents, if_pos window] at answered
    by_contra notAscii
    exact verifyKeys_not_ascii (Bool.not_eq_true _ ▸ notAscii) _ _ answer answered
  · intro ascii
    by_cases isPresented : ∃ expiresAt sessionId supplied, Presents params expiresAt sessionId supplied
    · obtain ⟨expiresAt, sessionId, supplied, presents⟩ := isPresented
      rw [verify_of_presents presents]
      split
      · next window =>
        exact ⟨_, verifyKeys_ascii (ascii _ _ _ presents window) (fun key => signature_ascii key _ _ _ _) _⟩
      · exact ⟨false, rfl⟩
    · refine ⟨false, verify_of_not_presents (fun expiresAt sessionId supplied presents => ?_) _ _ _ _ _⟩
      exact isPresented ⟨expiresAt, sessionId, supplied, presents⟩

/-- What is accepted carries a tag under one of the keys. -/
theorem verify_accepts {settings : AccessSettings} {app stream : String} {params : List Char} {now : Int}
    {allowExpired : Bool} (accepted : verify hmacSha256 settings app stream params now allowExpired = .ok true) :
    ∃ expiresAt sessionId supplied, Presents params expiresAt sessionId supplied ∧
      ∃ key ∈ keys settings, supplied = signature hmacSha256 key app stream expiresAt sessionId := by
  by_cases isPresented : ∃ expiresAt sessionId supplied, Presents params expiresAt sessionId supplied
  · obtain ⟨expiresAt, sessionId, supplied, presents⟩ := isPresented
    refine ⟨expiresAt, sessionId, supplied, presents, ?_⟩
    have ascii := (verify_answers_iff settings app stream params now allowExpired).mp ⟨true, accepted⟩ _ _ _ presents
    rw [verify_of_presents presents] at accepted
    split at accepted
    · next window =>
      rw [verifyKeys_ascii (ascii window) fun key => signature_ascii key _ _ _ _] at accepted
      obtain ⟨key, isKey, fits⟩ := List.any_eq_true.mp (Except.ok.inj accepted)
      exact ⟨key, isKey, of_decide_eq_true fits⟩
    · cases Except.ok.inj accepted
  · have refused := @verify_of_not_presents hmacSha256 params
      (fun expiresAt sessionId supplied presents => isPresented ⟨expiresAt, sessionId, supplied, presents⟩)
      settings app stream now allowExpired
    rw [refused] at accepted
    cases accepted

/-! ## Grants -/

theorem issueParams_eq_ok {settings : AccessSettings} {app stream : String} {ttlSeconds nowEpoch : Int}
    {sessionId : Option UUID} {issued : QueryPairs} {instant : Int}
    (done : issueParams hmacSha256 settings app stream ttlSeconds nowEpoch sessionId = .ok (issued, instant)) :
    instant = nowEpoch + ttlSeconds ∧ ttlSeconds ≤ maxTtlSeconds ∧ instant.natAbs < 10 ^ maxStrDigits ∧
      issued = [(expiryParam, (toString instant).toList),
        (signatureParam, signature hmacSha256 settings.secretKey app stream instant sessionId)] ++
          sessionId.toList.map fun sessionId => (sessionParam, sessionId.str) := by
  rw [issueParams] at done
  split at done
  · cases done
  · next valid =>
    simp only [fromTimestamp] at done
    split at done
    · cases done
    · split at done
      · cases done
      · next inRange =>
        obtain ⟨rfl, rfl⟩ := Prod.mk.inj (Except.ok.inj done)
        have few : (10 : Nat) ^ 12 ≤ 10 ^ maxStrDigits := Nat.pow_le_pow_right (by decide) (by decide)
        refine ⟨rfl, by omega, lt_of_lt_of_le ?_ few, rfl⟩
        omega

/-- A successful call of `issue_params`. -/
structure MediaGrant (hmacSha256 : Bytes → Bytes → Bytes) where
  settings : AccessSettings
  app : String
  stream : String
  ttlSeconds : Int
  nowEpoch : Int
  sessionId : Option UUID
  issued : ∃ params, issueParams hmacSha256 settings app stream ttlSeconds nowEpoch sessionId = .ok params

namespace MediaGrant

def expiresAt (grant : MediaGrant hmacSha256) : Int := grant.nowEpoch + grant.ttlSeconds

def tag (grant : MediaGrant hmacSha256) : List Char :=
  signature hmacSha256 grant.settings.secretKey grant.app grant.stream grant.expiresAt grant.sessionId

end MediaGrant

/-- A params string that was put together without the keys: a tag under one of them is in it only
    when one of the grants carries this tag. -/
def Keyless (issued : Set (MediaGrant hmacSha256)) (keys : List String) (params : List Char) : Prop :=
  ∀ key ∈ keys, ∀ text, queryValues (queryOf params) signatureParam = [hexdigest (hmacSha256 (utf8 key.toList) text)] →
    ∃ grant ∈ issued, grant.settings.secretKey = key ∧ grant.tag = hexdigest (hmacSha256 (utf8 key.toList) text)

/-- What a keyless params string is accepted for is what one of the grants was issued for. -/
theorem verify_sound (ideal : ∀ key, Function.Injective (hmacSha256 key)) {issued : Set (MediaGrant hmacSha256)}
    (plain : ∀ grant ∈ issued, '\n' ∉ grant.app.toList ∧ '\n' ∉ grant.stream.toList) {settings : AccessSettings}
    {app stream : String} {params : List Char} (keyless : Keyless issued (keys settings) params)
    (plainApp : '\n' ∉ app.toList) (plainStream : '\n' ∉ stream.toList) {now : Int} {allowExpired : Bool}
    (accepted : verify hmacSha256 settings app stream params now allowExpired = .ok true) :
    ∃ grant ∈ issued, grant.app = app ∧ grant.stream = stream ∧
      Presents params grant.expiresAt grant.sessionId grant.tag := by
  obtain ⟨expiresAt, sessionId, supplied, presents, key, isKey, rfl⟩ := verify_accepts accepted
  obtain ⟨grant, isIssued, sameKey, sameTag⟩ := keyless key isKey _ presents.tag
  have sameMessage : message grant.app grant.stream grant.expiresAt grant.sessionId =
      message app stream expiresAt sessionId := by
    rw [MediaGrant.tag, signature, sameKey] at sameTag
    exact ideal _ (hexdigest_injective sameTag)
  obtain ⟨plainGrantApp, plainGrantStream⟩ := plain grant isIssued
  obtain ⟨sameApp, sameStream, sameExpiry, sameSession⟩ :=
    message_injective plainGrantApp plainGrantStream plainApp plainStream sameMessage
  refine ⟨grant, isIssued, sameApp, sameStream, ?_⟩
  rw [sameTag, sameExpiry, sameSession]
  exact presents

/-! ## Signed addresses -/

theorem queryOf_urlencode (pairs : QueryPairs) : queryOf (urlencode pairs) = pairs := by
  have noMark : (urlencode pairs).dropWhile (· = '?') = urlencode pairs := by
    rw [List.dropWhile_eq_self_iff]
    intro nonempty
    simpa using mem_urlencode (List.getElem_mem nonempty)
  rw [queryOf, noMark, parseQsl_urlencode]

/-- A name that the old query was cleared of has the values it was given. -/
theorem queryValues_signed {name : List Char} (cleared : name ∈ [expiryParam, signatureParam, sessionParam])
    (query issued : QueryPairs) :
    queryValues ((query.filter fun pair => pair.1 ∉ [expiryParam, signatureParam, sessionParam]) ++ issued) name =
      queryValues issued name := by
  have noOther : ((query.filter fun pair => pair.1 ∉ [expiryParam, signatureParam, sessionParam]).filter
      fun pair => pair.1 = name) = [] := by
    rw [List.filter_eq_nil_iff]
    intro pair member isName
    have kept := of_decide_eq_true (List.mem_filter.mp member).2
    exact kept (of_decide_eq_true isName ▸ cleared)
  rw [queryValues, List.filter_append, noOther, List.nil_append, queryValues]

theorem queryValues_cons_self (name value : List Char) (rest : QueryPairs) :
    queryValues ((name, value) :: rest) name = value :: queryValues rest name := by
  simp [queryValues]

theorem queryValues_cons_other {name other : List Char} (isOther : other ≠ name) (value : List Char) (rest : QueryPairs) :
    queryValues ((other, value) :: rest) name = queryValues rest name := by
  simp [queryValues, isOther]

/-- The values of the three names in what is issued. -/
theorem queryValues_issued (expiry tag : List Char) (sessionId : Option UUID) :
    let issued := [(expiryParam, expiry), (signatureParam, tag)] ++
      sessionId.toList.map fun sessionId => (sessionParam, sessionId.str)
    queryValues issued expiryParam = [expiry] ∧ queryValues issued signatureParam = [tag] ∧
      queryValues issued sessionParam = sessionId.toList.map UUID.str := by
  have expiryTag : expiryParam ≠ signatureParam := by decide
  have expirySession : expiryParam ≠ sessionParam := by decide
  have tagSession : signatureParam ≠ sessionParam := by decide
  cases sessionId with
  | none =>
    refine ⟨?_, ?_, ?_⟩
    · exact (queryValues_cons_self _ _ _).trans (congrArg _ (queryValues_cons_other expiryTag.symm _ _))
    · exact (queryValues_cons_other expiryTag _ _).trans (queryValues_cons_self _ _ _)
    · exact (queryValues_cons_other expirySession _ _).trans (queryValues_cons_other tagSession _ _)
  | some sessionId =>
    refine ⟨?_, ?_, ?_⟩
    · exact (queryValues_cons_self _ _ _).trans (congrArg _ ((queryValues_cons_other expiryTag.symm _ _).trans
        (queryValues_cons_other expirySession.symm _ _)))
    · exact (queryValues_cons_other expiryTag _ _).trans ((queryValues_cons_self _ _ _).trans
        (congrArg _ (queryValues_cons_other tagSession.symm _ _)))
    · exact (queryValues_cons_other expirySession _ _).trans ((queryValues_cons_other tagSession _ _).trans
        (queryValues_cons_self _ _ _))

theorem signUrl_eq_ok {settings : AccessSettings} {url signed : SplitResult} {app stream : String}
    {ttlSeconds nowEpoch expiresAt : Int} {sessionId : Option UUID}
    (done : signUrl hmacSha256 settings url app stream ttlSeconds nowEpoch sessionId = .ok (signed, expiresAt)) :
    ∃ issued, issueParams hmacSha256 settings app stream ttlSeconds nowEpoch sessionId = .ok (issued, expiresAt) ∧
      ∀ name ∈ [expiryParam, signatureParam, sessionParam],
        queryValues (queryOf signed.query) name = queryValues issued name := by
  rw [signUrl] at done
  cases made : issueParams hmacSha256 settings app stream ttlSeconds nowEpoch sessionId with
  | error error =>
    rw [made] at done
    cases done
  | ok outcome =>
    rw [made] at done
    obtain ⟨issued, instant⟩ := outcome
    obtain ⟨rfl, rfl⟩ := Prod.mk.inj (Except.ok.inj done)
    refine ⟨issued, rfl, fun name cleared => ?_⟩
    rw [queryOf_urlencode, queryValues_signed cleared]

/-- A signed query presents what was signed. -/
theorem signUrl_presents {settings : AccessSettings} {url signed : SplitResult} {app stream : String}
    {ttlSeconds nowEpoch expiresAt : Int} {sessionId : Option UUID}
    (done : signUrl hmacSha256 settings url app stream ttlSeconds nowEpoch sessionId = .ok (signed, expiresAt)) :
    expiresAt ≤ nowEpoch + maxTtlSeconds ∧ sessionIdFromParams signed.query = sessionId ∧
      Presents signed.query expiresAt sessionId (signature hmacSha256 settings.secretKey app stream expiresAt sessionId) := by
  obtain ⟨issued, made, values⟩ := signUrl_eq_ok done
  obtain ⟨isExpiry, shortTtl, small, rfl⟩ := issueParams_eq_ok made
  obtain ⟨expiry, tag, session⟩ := queryValues_issued (toString expiresAt).toList
    (signature hmacSha256 settings.secretKey app stream expiresAt sessionId) sessionId
  rw [← values _ (by simp)] at expiry tag session
  refine ⟨by omega, ?_, ⟨_, expiry, int10_toString small⟩, tag, ?_, ?_⟩
  · rw [sessionIdFromParams, session]
    cases sessionId with
    | none => rfl
    | some sessionId => exact UUID.parse_str sessionId
  · rw [session, List.length_map]
    cases sessionId <;> simp
  · rw [session]
    cases sessionId with
    | none => rfl
    | some sessionId => simp only [Option.toList_some, List.map_cons, readSession, UUID.parse_str, Option.map_some]

/-- A signed query is accepted under the issuing key as long as it is in time. -/
theorem verify_signUrl {settings : AccessSettings} {url signed : SplitResult} {app stream : String}
    {ttlSeconds nowEpoch expiresAt : Int} {sessionId : Option UUID}
    (done : signUrl hmacSha256 settings url app stream ttlSeconds nowEpoch sessionId = .ok (signed, expiresAt))
    {verifier : AccessSettings} (isKey : settings.secretKey ∈ keys verifier) {now : Int} (issuedBefore : nowEpoch ≤ now)
    (allowExpired : Bool) :
    verify hmacSha256 verifier app stream signed.query now allowExpired =
      .ok (decide (allowExpired = true ∨ now ≤ expiresAt)) := by
  obtain ⟨bounded, _, presents⟩ := signUrl_presents done
  have fits : ((keys verifier).any fun key =>
      signature hmacSha256 settings.secretKey app stream expiresAt sessionId =
        signature hmacSha256 key app stream expiresAt sessionId) = true :=
    List.any_eq_true.mpr ⟨_, isKey, decide_eq_true rfl⟩
  rw [verify_of_presents presents]
  by_cases inTime : allowExpired = true ∨ now ≤ expiresAt
  · rw [if_pos ⟨by omega, inTime⟩, verifyKeys_ascii (signature_ascii _ _ _ _ _) fun key => signature_ascii key _ _ _ _,
      decide_eq_true inTime, fits]
  · rw [if_neg fun window => inTime window.2, decide_eq_false inTime]

/-- What a grant depends on: the session it is bound to, else the time. -/
def StillGranted {Cleanup : Type} (mediaSessions : MediaSessionRegistry Cleanup) (now expiresAt : Int) : Option UUID → Prop
  | some sessionId => mediaSessions.active sessionId.int = true
  | none => now ≤ expiresAt

/-- When a player with a signed query is let in. -/
theorem zlmPlay_signUrl {settings : AccessSettings} {url signed : SplitResult} {app stream : String}
    {ttlSeconds nowEpoch expiresAt : Int} {sessionId : Option UUID}
    (done : signUrl hmacSha256 settings url app stream ttlSeconds nowEpoch sessionId = .ok (signed, expiresAt))
    {verifier : AccessSettings} (isKey : settings.secretKey ∈ keys verifier) {now : Int} (issuedBefore : nowEpoch ≤ now)
    {mediaServerId : String} (authentic : verifier.zlmHookSecret = some mediaServerId) {Cleanup : Type}
    (mediaSessions : MediaSessionRegistry Cleanup) :
    zlmPlay hmacSha256 verifier mediaSessions ⟨mediaServerId, app, stream, signed.query⟩ now = .ok .ack ↔
      app ∈ playedApps ∧ StillGranted mediaSessions now expiresAt sessionId := by
  have isAuthentic : authenticateHook verifier mediaServerId = .ok () := by
    simp only [authenticateHook, authentic, ne_eq, not_true_eq_false, if_false]
  have verified := verify_signUrl done isKey issuedBefore sessionId.isSome
  rw [zlmPlay, isAuthentic, (signUrl_presents done).2.1]
  simp only [bind, Except.bind]
  by_cases played : app ∈ playedApps
  · rw [if_neg (not_not.mpr played), verified]
    cases sessionId with
    | none =>
      by_cases inTime : now ≤ expiresAt
      · simp [StillGranted, inTime, played]
      · simp [StillGranted, inTime]
    | some sessionId =>
      by_cases isActive : mediaSessions.active sessionId.int = true
      · simp [StillGranted, isActive, played]
      · simp [StillGranted, isActive]
  · rw [if_pos played]
    simp [played]

/-! ## The result -/

/-- A grant authorizes what it was issued for.  `verify` answers for every params string whose one
    tag, where everything before the comparison is in order, consists of ASCII characters. -/
theorem media_grants_authorize (ideal : ∀ key, Function.Injective (hmacSha256 key)) :
    (∀ settings url app stream ttlSeconds nowEpoch sessionId signed expiresAt,
      signUrl hmacSha256 settings url app stream ttlSeconds nowEpoch sessionId = .ok (signed, expiresAt) →
        sessionIdFromParams signed.query = sessionId ∧
        ∀ verifier, settings.secretKey ∈ keys verifier → ∀ now, nowEpoch ≤ now →
          (∀ allowExpired, verify hmacSha256 verifier app stream signed.query now allowExpired =
            .ok (decide (allowExpired = true ∨ now ≤ expiresAt))) ∧
          ∀ mediaServerId, verifier.zlmHookSecret = some mediaServerId →
            ∀ (Cleanup : Type) (mediaSessions : MediaSessionRegistry Cleanup),
              zlmPlay hmacSha256 verifier mediaSessions ⟨mediaServerId, app, stream, signed.query⟩ now = .ok .ack ↔
                app ∈ playedApps ∧ StillGranted mediaSessions now expiresAt sessionId) ∧
    (∀ issued : Set (MediaGrant hmacSha256),
      (∀ grant ∈ issued, '\n' ∉ grant.app.toList ∧ '\n' ∉ grant.stream.toList) →
        ∀ settings app stream params now allowExpired, '\n' ∉ app.toList → '\n' ∉ stream.toList →
          Keyless issued (keys settings) params →
            verify hmacSha256 settings app stream params now allowExpired = .ok true →
              ∃ grant ∈ issued, grant.app = app ∧ grant.stream = stream ∧
                Presents params grant.expiresAt grant.sessionId grant.tag) ∧
    ∀ settings app stream params now allowExpired,
      (∃ answer, verify hmacSha256 settings app stream params now allowExpired = .ok answer) ↔
        ∀ expiresAt sessionId supplied, Presents params expiresAt sessionId supplied →
          InWindow now allowExpired expiresAt → supplied.all isAscii = true := by
  refine ⟨?_, ?_, ?_⟩
  · intro settings url app stream ttlSeconds nowEpoch sessionId signed expiresAt done
    refine ⟨(signUrl_presents done).2.1, fun verifier isKey now issuedBefore => ⟨?_, ?_⟩⟩
    · exact verify_signUrl done isKey issuedBefore
    · exact fun mediaServerId authentic _ mediaSessions =>
        zlmPlay_signUrl done isKey issuedBefore authentic mediaSessions
  · intro issued plain settings app stream params now allowExpired plainApp plainStream keyless accepted
    exact verify_sound ideal plain keyless plainApp plainStream accepted
  · exact verify_answers_iff

end

/-! ## The query that is not answered -/

/-- A tag of its own for each message under a key. -/
def plainTag (key text : Bytes) : Bytes := key ++ text

def oneKey : AccessSettings := { secretKey := "key", secretKeyPrevious := [], zlmHookSecret := some "hook" }

def cameraUrl : SplitResult := ⟨"http", "zlm", "/live", "zn_sid=old&a=b".toList, ""⟩

theorem sessionId_fits : 7 < 2 ^ 128 := by decide

def cameraGrant : MediaGrant plainTag :=
  ⟨oneKey, "zero-nvr", "camera", 300, 1000, some ⟨7, sessionId_fits⟩, _, rfl⟩

/-- A signed address of a camera is good for five minutes, and a player without the key can only
    come with what was issued. -/
theorem media_grants_authorize_camera :
    ∃ signed, signUrl plainTag oneKey cameraUrl "zero-nvr" "camera" 300 1000 (some ⟨7, by decide⟩) = .ok (signed, 1300) ∧
      sessionIdFromParams signed.query = some ⟨7, by decide⟩ ∧
      verify plainTag oneKey "zero-nvr" "camera" signed.query 1300 false = .ok true ∧
      verify plainTag oneKey "zero-nvr" "camera" signed.query 1301 false = .ok false ∧
      Keyless {cameraGrant} (keys oneKey) signed.query ∧
      Presents signed.query 1300 (some ⟨7, by decide⟩) cameraGrant.tag := by
  have ideal (key : Bytes) : Function.Injective (plainTag key) := fun _ _ same => List.append_cancel_left same
  obtain ⟨genuine, sound, _⟩ := media_grants_authorize ideal
  obtain ⟨signed, done⟩ : ∃ signed, signUrl plainTag oneKey cameraUrl "zero-nvr" "camera" 300 1000 (some ⟨7, by decide⟩) =
      .ok (signed, 1300) := ⟨_, rfl⟩
  obtain ⟨sameSession, verifies⟩ := genuine oneKey cameraUrl "zero-nvr" "camera" 300 1000 (some ⟨7, by decide⟩) _ 1300 done
  have accepted := (verifies oneKey List.mem_cons_self 1300 (by decide)).1 false
  have keyless : Keyless {cameraGrant} (keys oneKey) signed.query := by
    intro key isKey text carried
    have sameTag := List.singleton_injective ((signUrl_presents done).2.2.tag.symm.trans carried)
    exact ⟨cameraGrant, rfl, (List.mem_singleton.mp isKey).symm, sameTag⟩
  have plain : ∀ grant ∈ ({cameraGrant} : Set (MediaGrant plainTag)),
      '\n' ∉ grant.app.toList ∧ '\n' ∉ grant.stream.toList := by
    rintro grant rfl
    decide
  obtain ⟨grant, rfl, _, _, presents⟩ := sound {cameraGrant} plain oneKey "zero-nvr" "camera" _ 1300 false (by decide)
    (by decide) keyless accepted
  exact ⟨signed, done, sameSession, accepted, (verifies oneKey List.mem_cons_self 1301 (by decide)).1 false, keyless, presents⟩

/-- A tag outside ASCII makes `verify` raise. -/
theorem verify_raises :
    ¬∀ params, ∃ answer, verify plainTag oneKey "zero-nvr" "camera" params 1000 false = .ok answer := by
  intro answers
  obtain ⟨answer, answered⟩ := answers "zn_exp=1300&zn_sig=%C3%A9".toList
  have raised : verify plainTag oneKey "zero-nvr" "camera" "zn_exp=1300&zn_sig=%C3%A9".toList 1000 false =
      .error (.typeError "comparing strings with non-ASCII characters is not supported") := by
    decide +kernel
  rw [raised] at answered
  cases answered

end ZlmMediaAccess

end ZeroNvr
