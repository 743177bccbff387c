import ZeroNvr.Core.JsonText
import ZeroNvr.Core.Numbers

/-! # Query strings

`urlencode` and `parse_qsl`.  Between the characters of a text and the escapes of
a query stand the bytes of the text in UTF-8; bytes that are no UTF-8 are read as
replacement characters.
-/

namespace ZeroNvr

open JsonText (hexDigit hexValue? hexValue?_hexDigit)

/-! ## Bytes -/

/-- Whether a byte can follow the first byte of a sequence of three or four. -/
def followsFirst (first second : UInt8) : Bool :=
  if first = 0xe0 then 0xa0 ≤ second ∧ second ≤ 0xbf
  else if first = 0xed then 0x80 ≤ second ∧ second ≤ 0x9f
  else if first = 0xf0 then 0x90 ≤ second ∧ second ≤ 0xbf
  else if first = 0xf4 then 0x80 ≤ second ∧ second ≤ 0x8f
  else 0x80 ≤ second ∧ second ≤ 0xbf

/-- How many bytes of a malformed sequence one replacement character stands for. -/
def malformed : Bytes → Nat
  | first :: second :: rest =>
    if 0xe0 ≤ first ∧ first ≤ 0xf4 ∧ followsFirst first second then
      match rest with
      | third :: _ => if 0xf0 ≤ first ∧ 0x80 ≤ third ∧ third ≤ 0xbf then 3 else 2
      | [] => 2
    else 1
  | _ => 1

def replacement : Char := '\uFFFD'

def decodeFrom : (fuel : Nat) → Bytes → List Char
  | 0, _ => []
  | _, [] => []
  | fuel + 1, bytes =>
    match bytes.toByteArray.utf8DecodeChar? 0 with
    | some c => c :: decodeFrom fuel (bytes.drop c.utf8Size)
    | none => replacement :: decodeFrom fuel (bytes.drop (malformed bytes))

/-- `bytes.decode("utf-8", errors="replace")`. -/
def decode (bytes : Bytes) : List Char := decodeFrom bytes.length bytes

theorem utf8_cons (c : Char) (text : List Char) : utf8 (c :: text) = String.utf8EncodeChar c ++ utf8 text := rfl

theorem decodeFrom_utf8 {text : List Char} {fuel : Nat} (enough : text.length ≤ fuel) :
    decodeFrom fuel (utf8 text) = text := by
  induction text generalizing fuel with
  | nil => cases fuel <;> rfl
  | cons c text ih =>
    cases fuel with
    | zero => cases enough
    | succ fuel =>
      have nonempty : utf8 (c :: text) ≠ [] := by
        intro isEmpty
        have noBytes := congrArg List.length isEmpty
        rw [utf8_cons, List.length_append, String.length_utf8EncodeChar] at noBytes
        exact absurd noBytes (by have := c.utf8Size_pos; simp; omega)
      have first : (utf8 (c :: text)).toByteArray.utf8DecodeChar? 0 = some c := by
        rw [utf8_cons, List.toByteArray_append]
        exact ByteArray.utf8DecodeChar?_utf8EncodeChar_append
      have rest : (utf8 (c :: text)).drop c.utf8Size = utf8 text := by
        rw [utf8_cons, ← String.length_utf8EncodeChar c, List.drop_left]
      rw [decodeFrom, first]
      · dsimp only
        rw [rest, ih (Nat.le_of_succ_le_succ enough)]
      · exact nonempty

theorem length_le_utf8 (text : List Char) : text.length ≤ (utf8 text).length := by
  induction text with
  | nil => exact Nat.zero_le _
  | cons c text ih =>
    rw [utf8_cons, List.length_append, String.length_utf8EncodeChar, List.length_cons]
    have := c.utf8Size_pos
    omega

theorem decode_utf8 (text : List Char) : decode (utf8 text) = text := decodeFrom_utf8 (length_le_utf8 text)

/-! ## Quoting -/

/-- A letter, a digit or one of `_.-~`. -/
def isUnreserved (c : Char) : Bool := c.isAlphanum || c == '_' || c == '.' || c == '-' || c == '~'

/-- `{:02X}`, one digit of it. -/
def hexDigitUpper (n : Nat) : Char := (hexDigit n).toUpper

def quoteByte (byte : UInt8) : List Char :=
  let c := Char.ofNat byte.toNat
  if c = ' ' then ['+']
  else if isUnreserved c then [c]
  else ['%', hexDigitUpper (byte.toNat / 16), hexDigitUpper byte.toNat]

def quotePlus (text : List Char) : List Char := (utf8 text).flatMap quoteByte

/-- The pairs of names and values in a query. -/
abbrev QueryPairs := List (List Char × List Char)

def quotePair (pair : List Char × List Char) : List Char := quotePlus pair.1 ++ '=' :: quotePlus pair.2

def urlencode (pairs : QueryPairs) : List Char := ['&'].intercalate (pairs.map quotePair)

/-! ## Unquoting -/

def unquoteToBytes : List Char → Bytes
  | '%' :: high :: low :: rest =>
    match hexValue? high, hexValue? low with
    | some h, some l => UInt8.ofNat (h * 16 + l) :: unquoteToBytes rest
    | _, _ => UInt8.ofNat '%'.toNat :: unquoteToBytes (high :: low :: rest)
  | c :: rest => UInt8.ofNat c.toNat :: unquoteToBytes rest
  | [] => []

/-- `_generate_unquoted_parts`: runs of ASCII characters are unquoted, others stay. -/
def unquoteFrom : (run : List Char) → List Char → List Char
  | run, [] => decode (unquoteToBytes run.reverse)
  | run, c :: rest =>
    if isAscii c then unquoteFrom (c :: run) rest
    else decode (unquoteToBytes run.reverse) ++ c :: unquoteFrom [] rest

def unquote (text : List Char) : List Char := unquoteFrom [] text

def plusToSpace (c : Char) : Char := if c = '+' then ' ' else c

def unquotePlus (text : List Char) : List Char := unquote (text.map plusToSpace)

/-- `text.partition("=")`, without the separator. -/
def partition (text : List Char) : List Char × List Char :=
  (text.takeWhile (· != '='), (text.dropWhile (· != '=')).drop 1)

/-- `parse_qsl(text, keep_blank_values=True)`. -/
def parseQsl (text : List Char) : QueryPairs :=
  ((text.splitOn '&').filter (· ≠ [])).map fun nameValue =>
    let (name, value) := partition nameValue
    (unquotePlus name, unquotePlus value)

/-- `parse_qs(text, keep_blank_values=True).get(name, [])`. -/
def queryValues (pairs : QueryPairs) (name : List Char) : List (List Char) :=
  (pairs.filter fun pair => pair.1 = name).map Prod.snd

/-! ## What is written -/

theorem hexDigitUpper_facts (n : Nat) :
    hexValue? (hexDigitUpper n) = some (n % 16) ∧ isAscii (hexDigitUpper n) = true ∧
      hexDigitUpper n ∉ ['&', '=', '?', '+', '%'] := by
  have every : ∀ m : Fin 16, let c := (Char.ofNat (if m.val < 10 then 48 + m.val else 87 + m.val)).toUpper
      hexValue? c = some m.val ∧ isAscii c = true ∧ c ∉ ['&', '=', '?', '+', '%'] := by decide
  exact every ⟨n % 16, Nat.mod_lt _ (by decide)⟩

/-- The bytes of the unreserved characters. -/
theorem unreserved_facts (byte : UInt8) (unreserved : isUnreserved (Char.ofNat byte.toNat) = true) :
    isAscii (Char.ofNat byte.toNat) = true ∧ Char.ofNat byte.toNat ∉ ['&', '=', '?', '+', '%'] ∧
      UInt8.ofNat (Char.ofNat byte.toNat).toNat = byte := by
  have every : ∀ n : Fin 256, isUnreserved (Char.ofNat n.val) = true →
      isAscii (Char.ofNat n.val) = true ∧ Char.ofNat n.val ∉ ['&', '=', '?', '+', '%'] ∧
        (Char.ofNat n.val).toNat = n.val := by decide +kernel
  obtain ⟨ascii, plain, value⟩ := every ⟨byte.toNat, byte.toNat_lt⟩ unreserved
  exact ⟨ascii, plain, by rw [value, UInt8.ofNat_toNat]⟩

theorem mem_quoteByte {byte : UInt8} {c : Char} (member : c ∈ quoteByte byte) :
    isAscii c = true ∧ c ∉ ['&', '=', '?'] := by
  simp only [quoteByte] at member
  split at member
  · rw [List.mem_singleton.mp member]
    decide
  · split at member
    · next unreserved =>
      obtain ⟨ascii, plain, _⟩ := unreserved_facts byte unreserved
      rw [List.mem_singleton.mp member]
      exact ⟨ascii, fun isMark => plain (List.mem_append_left ['+', '%'] isMark)⟩
    · simp only [List.mem_cons, List.not_mem_nil, or_false] at member
      rcases member with rfl | rfl | rfl
      · decide
      · obtain ⟨_, ascii, plain⟩ := hexDigitUpper_facts (byte.toNat / 16)
        exact ⟨ascii, fun isMark => plain (List.mem_append_left ['+', '%'] isMark)⟩
      · obtain ⟨_, ascii, plain⟩ := hexDigitUpper_facts byte.toNat
        exact ⟨ascii, fun isMark => plain (List.mem_append_left ['+', '%'] isMark)⟩

theorem mem_quotePlus {text : List Char} {c : Char} (member : c ∈ quotePlus text) :
    isAscii c = true ∧ c ∉ ['&', '=', '?'] := by
  obtain ⟨byte, _, inByte⟩ := List.mem_flatMap.mp member
  exact mem_quoteByte inByte

/-! ## Reading what was written -/

theorem unquoteToBytes_cons {c : Char} (plain : c ≠ '%') (rest : List Char) :
    unquoteToBytes (c :: rest) = UInt8.ofNat c.toNat :: unquoteToBytes rest := by
  rw [unquoteToBytes]
  intro _ _ _ isPercent
  exact absurd isPercent plain

theorem unquoteToBytes_quoteByte (byte : UInt8) (rest : List Char) :
    unquoteToBytes ((quoteByte byte).map plusToSpace ++ rest) = byte :: unquoteToBytes rest := by
  simp only [quoteByte]
  split
  · next isSpace =>
    have value : byte = 32 := by
      have every : ∀ n : Fin 256, Char.ofNat n.val = ' ' → n.val = 32 := by decide +kernel
      exact UInt8.toNat_inj.mp (every ⟨byte.toNat, byte.toNat_lt⟩ isSpace)
    subst value
    exact unquoteToBytes_cons (by decide) rest
  · split
    · next unreserved =>
      obtain ⟨_, plain, value⟩ := unreserved_facts byte unreserved
      have noPlus : Char.ofNat byte.toNat ≠ '+' := fun isPlus => plain (by simp [isPlus])
      have noPercent : Char.ofNat byte.toNat ≠ '%' := fun isPercent => plain (by simp [isPercent])
      rw [List.map_singleton, plusToSpace, if_neg noPlus, List.singleton_append, unquoteToBytes_cons noPercent, value]
    · have digit (n : Nat) : plusToSpace (hexDigitUpper n) = hexDigitUpper n := by
        refine if_neg fun isPlus => (hexDigitUpper_facts n).2.2 ?_
        simp [isPlus]
      simp only [List.map_cons, List.map_nil, digit, List.cons_append, List.nil_append,
        show plusToSpace '%' = '%' from rfl, unquoteToBytes, (hexDigitUpper_facts _).1]
      refine congrArg (· :: _) (UInt8.toNat_inj.mp ?_)
      have small := byte.toNat_lt
      rw [UInt8.toNat_ofNat']
      omega

theorem unquoteToBytes_quote (bytes : Bytes) : unquoteToBytes ((bytes.flatMap quoteByte).map plusToSpace) = bytes := by
  induction bytes with
  | nil => rfl
  | cons byte bytes ih => rw [List.flatMap_cons, List.map_append, unquoteToBytes_quoteByte, ih]

/-- A text of ASCII characters is one run. -/
theorem unquoteFrom_ascii {text : List Char} (ascii : ∀ c ∈ text, isAscii c = true) (run : List Char) :
    unquoteFrom run text = decode (unquoteToBytes (run.reverse ++ text)) := by
  induction text generalizing run with
  | nil => rw [unquoteFrom, List.append_nil]
  | cons c rest ih =>
    rw [unquoteFrom, if_pos (ascii c List.mem_cons_self), ih fun c inRest => ascii c (List.mem_cons_of_mem _ inRest),
      List.reverse_cons, List.append_assoc, List.singleton_append]

theorem unquotePlus_quotePlus (text : List Char) : unquotePlus (quotePlus text) = text := by
  have ascii : ∀ c ∈ (quotePlus text).map plusToSpace, isAscii c = true := by
    intro c member
    obtain ⟨written, inQuoted, rfl⟩ := List.mem_map.mp member
    rw [plusToSpace]
    split
    · decide
    · exact (mem_quotePlus inQuoted).1
  rw [unquotePlus, unquote, unquoteFrom_ascii ascii [], List.reverse_nil, List.nil_append, quotePlus,
    unquoteToBytes_quote, decode_utf8]

theorem partition_quotePair (pair : List Char × List Char) :
    partition (quotePair pair) = (quotePlus pair.1, quotePlus pair.2) := by
  have noMark : ∀ c ∈ quotePlus pair.1, (c != '=') = true := by
    intro c member
    rw [bne_iff_ne]
    rintro rfl
    exact (mem_quotePlus member).2 (by decide)
  have stops : (('=' :: quotePlus pair.2).takeWhile (· != '=')) = [] := rfl
  rw [partition, quotePair, List.takeWhile_append_of_pos noMark, List.dropWhile_append_of_pos noMark, stops,
    List.append_nil]
  rfl

theorem mem_quotePair {pair : List Char × List Char} {c : Char} (member : c ∈ quotePair pair) :
    isAscii c = true ∧ c ∉ ['&', '?'] := by
  have marks : ['&', '?'] ⊆ ['&', '=', '?'] := by decide
  have plain {text : List Char} (inQuoted : c ∈ quotePlus text) : isAscii c = true ∧ c ∉ ['&', '?'] :=
    ⟨(mem_quotePlus inQuoted).1, fun isMark => (mem_quotePlus inQuoted).2 (marks isMark)⟩
  rcases List.mem_append.mp member with inName | inRest
  · exact plain inName
  · rcases List.mem_cons.mp inRest with rfl | inValue
    · decide
    · exact plain inValue

/-- What was written is read back. -/
theorem parseQsl_urlencode (pairs : QueryPairs) : parseQsl (urlencode pairs) = pairs := by
  cases pairs with
  | nil => rfl
  | cons first rest =>
    have noMark : ∀ part ∈ (first :: rest).map quotePair, '&' ∉ part := by
      intro part member inPart
      obtain ⟨pair, _, rfl⟩ := List.mem_map.mp member
      exact (mem_quotePair inPart).2 (by decide)
    have nonempty : ∀ part ∈ (first :: rest).map quotePair, decide (part ≠ []) = true := by
      intro part member
      obtain ⟨pair, _, rfl⟩ := List.mem_map.mp member
      simp [quotePair]
    have read (pair : List Char × List Char) :
        (unquotePlus (partition (quotePair pair)).1, unquotePlus (partition (quotePair pair)).2) = pair := by
      rw [partition_quotePair, unquotePlus_quotePlus, unquotePlus_quotePlus]
    rw [parseQsl, urlencode, List.splitOn_intercalate '&' noMark (by simp), List.filter_eq_self.mpr nonempty,
      List.map_map]
    exact (List.map_congr_left fun pair _ => read pair).trans (List.map_id _)

/-- No mark of a query string stands in a query. -/
theorem mem_urlencode {pairs : QueryPairs} {c : Char} (member : c ∈ urlencode pairs) : c ≠ '?' := by
  rintro rfl
  induction pairs with
  | nil => cases member
  | cons pair rest ih =>
    have inPair : '?' ∉ quotePair pair := fun inside => (mem_quotePair inside).2 (by decide)
    cases rest with
    | nil =>
      rw [urlencode, List.map_singleton, List.intercalate_singleton] at member
      exact inPair member
    | cons next rest =>
      rw [urlencode, List.map_cons, List.map_cons, List.intercalate_cons_cons, List.append_assoc] at member
      rcases List.mem_append.mp member with inside | inRest
      · exact inPair inside
      · rcases List.mem_cons.mp inRest with isMark | inQuery
        · exact absurd isMark (by decide)
        · exact ih inQuery

end ZeroNvr
