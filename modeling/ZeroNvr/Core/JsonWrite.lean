import ZeroNvr.Core.JsonText
import ZeroNvr.Core.Numbers

/-! # Writing JSON values

`json.dumps` with the compact separators, of whole values, with the texts in ASCII or
as they are.  Reading a written value gives the value back.
-/

namespace ZeroNvr.JsonText

/-! ## Texts -/

/-- A way to write the characters of a text, with what makes it readable. -/
structure Escaping where
  escape : Char → List Char
  scan : ∀ (text : String) (rest : List Char), scanString (text.toList.flatMap escape ++ '"' :: rest) = some (text, rest)

def Escaping.quoted (escaping : Escaping) (text : String) : List Char :=
  '"' :: text.toList.flatMap escaping.escape ++ ['"']

/-- `ensure_ascii=True`. -/
def ascii : Escaping := ⟨escapeChar, scanString_quoted⟩

/-- A character within a string that is written with `ensure_ascii=False`. -/
def escapeCharUtf8 (c : Char) : List Char :=
  if c = '"' then ['\\', '"']
  else if c = '\\' then ['\\', '\\']
  else if ' ' ≤ c then [c]
  else if c = '\n' then ['\\', 'n']
  else if c = '\r' then ['\\', 'r']
  else if c = '\t' then ['\\', 't']
  else if c = '\x0c' then ['\\', 'f']
  else if c = '\x08' then ['\\', 'b']
  else unitEscape c.toNat

theorem scanUnits_escapeCharUtf8 (c : Char) (rest : List Char) :
    scanUnits (escapeCharUtf8 c ++ rest) = (scanUnits rest).map fun (units, rest) => (c.toNat :: units, rest) := by
  by_cases quote : c = '"'
  · subst quote
    exact scanUnits_simple rfl rest
  by_cases backslash : c = '\\'
  · subst backslash
    exact scanUnits_simple rfl rest
  by_cases plain : ' ' ≤ c
  · have itself : escapeCharUtf8 c = [c] := by simp [escapeCharUtf8, quote, backslash, plain]
    rw [itself]
    exact scanUnits_plain quote backslash plain rest
  by_cases newline : c = '\n'
  · subst newline
    exact scanUnits_simple rfl rest
  by_cases carriageReturn : c = '\r'
  · subst carriageReturn
    exact scanUnits_simple rfl rest
  by_cases tab : c = '\t'
  · subst tab
    exact scanUnits_simple rfl rest
  by_cases formFeed : c = '\x0c'
  · subst formFeed
    exact scanUnits_simple rfl rest
  by_cases backspace : c = '\x08'
  · subst backspace
    exact scanUnits_simple rfl rest
  have control : c.toNat < 32 := not_le.mp plain
  have inUnits : escapeCharUtf8 c = unitEscape c.toNat := by
    simp [escapeCharUtf8, quote, backslash, plain, newline, carriageReturn, tab, formFeed, backspace]
  rw [inUnits]
  exact scanUnits_unitEscape (by omega) rest

theorem joinUnits_map (text : List Char) : joinUnits (text.map Char.toNat) = text := by
  have alone (c : Char) : charOf c.toNat = c := by
    have valid : c.toNat.isValidChar := c.valid
    rw [charOf, if_pos valid, Char.ofNat_toNat]
  induction text with
  | nil => rfl
  | cons c text ih =>
    cases text with
    | nil => rw [List.map_cons, List.map_nil, joinUnits, alone]
    | cons d text =>
      have valid : c.toNat.isValidChar := c.valid
      simp only [Nat.isValidChar] at valid
      rw [List.map_cons, List.map_cons, joinUnits, if_neg (by omega), alone, ← List.map_cons, ih]

theorem scanString_utf8 (text : String) (rest : List Char) :
    scanString (text.toList.flatMap escapeCharUtf8 ++ '"' :: rest) = some (text, rest) := by
  have scanned (chars : List Char) :
      scanUnits (chars.flatMap escapeCharUtf8 ++ '"' :: rest) = some (chars.map Char.toNat, rest) := by
    induction chars with
    | nil => rfl
    | cons c chars ih => rw [List.flatMap_cons, List.append_assoc, scanUnits_escapeCharUtf8, ih]; rfl
  simp only [scanString, scanned, Option.map_some, joinUnits_map, String.ofList_toList]

/-- `ensure_ascii=False`. -/
def unicode : Escaping := ⟨escapeCharUtf8, scanString_utf8⟩

/-! ## Values -/

section
variable (escaping : Escaping)

mutual

/-- `json.dumps(value, separators=(",", ":"))`. -/
def write : Value → List Char
  | .null => "null".toList
  | .bool true => "true".toList
  | .bool false => "false".toList
  | .int value => (toString value).toList
  | .float text => text.toList
  | .str text => escaping.quoted text
  | .arr items => '[' :: writeItems items ++ [']']
  | .obj fields => '{' :: writeFields fields ++ ['}']

def writeItems : List Value → List Char
  | [] => []
  | [item] => write item
  | item :: items => write item ++ ',' :: writeItems items

def writeFields : List (String × Value) → List Char
  | [] => []
  | [(key, value)] => escaping.quoted key ++ ':' :: write value
  | (key, value) :: fields => escaping.quoted key ++ ':' :: write value ++ ',' :: writeFields fields

end

end

mutual

/-- `sort_keys=True`: the members of every object in the order of their keys. -/
def sortKeys : Value → Value
  | .arr items => .arr (sortItems items)
  | .obj fields => .obj ((sortFields fields).insertionSort fun a b => a.1 ≤ b.1)
  | value => value

def sortItems : List Value → List Value
  | [] => []
  | item :: items => sortKeys item :: sortItems items

def sortFields : List (String × Value) → List (String × Value)
  | [] => []
  | (key, value) :: fields => (key, sortKeys value) :: sortFields fields

end

mutual

/-- A value without fractions and negative numbers, and without numbers that are too long to be read. -/
def plain : Value → Bool
  | .null => true
  | .bool _ => true
  | .int value => 0 ≤ value && value.natAbs < 10 ^ maxStrDigits
  | .float _ => false
  | .str _ => true
  | .arr items => plainItems items
  | .obj fields => plainFields fields

def plainItems : List Value → Bool
  | [] => true
  | item :: items => plain item && plainItems items

def plainFields : List (String × Value) → Bool
  | [] => true
  | (_, value) :: fields => plain value && plainFields fields

end

/-! ## Numbers -/

theorem isDigit_of_digit {c : Char} (digit : c.isDigit = true) : isDigit c = true := by
  have bounds := isDigit_bounds digit
  simp only [isDigit, Bool.and_eq_true, decide_eq_true_eq]
  exact ⟨bounds.1, bounds.2⟩

theorem natOfDigits_eq (digits : List Char) : natOfDigits digits = Nat.ofDigitChars 10 digits 0 := by
  have from_ (value : Nat) : digits.foldl (fun value c => value * 10 + (c.toNat - 48)) value =
      Nat.ofDigitChars 10 digits value := by
    induction digits generalizing value with
    | nil => rfl
    | cons c digits ih =>
      rw [List.foldl_cons, ih, Nat.ofDigitChars_cons, Nat.mul_comm 10 value]
      rfl
  exact from_ 0

/-- Only zero is written with a zero in front. -/
theorem toDigits_head {n : Nat} (positive : 0 < n) : (Nat.toDigits 10 n).head? ≠ some '0' := by
  induction n using Nat.strong_induction_on with
  | _ n ih =>
    by_cases small : n < 10
    · interval_cases n <;> decide
    · rw [Nat.toDigits_of_base_le (by decide) (not_lt.mp small), List.head?_append]
      have more := ih (n / 10) (by omega) (by omega)
      cases first : (Nat.toDigits 10 (n / 10)).head? with
      | none => exact absurd (List.head?_eq_none_iff.mp first) Nat.toDigits_ne_nil
      | some c => rwa [first] at more

/-- What may follow a value. -/
def Ended (rest : List Char) : Prop := rest.head?.all fun c => c = ',' ∨ c = ']' ∨ c = '}' ∨ c = '\n'

theorem scanNumber_ended {rest : List Char} (ended : Ended rest) :
    rest.takeWhile isDigit = [] ∧ rest.dropWhile isDigit = rest ∧ scanFraction rest = ([], rest) ∧
      scanExponent rest = ([], rest) := by
  cases rest with
  | nil => exact ⟨rfl, rfl, rfl, rfl⟩
  | cons c rest =>
    simp only [Ended, List.head?_cons, Option.all_some, decide_eq_true_eq] at ended
    rcases ended with rfl | rfl | rfl | rfl <;> exact ⟨rfl, rfl, rfl, rfl⟩

theorem scanNumber_write {n : Nat} (small : n < 10 ^ maxStrDigits) {rest : List Char} (ended : Ended rest) :
    scanNumber (n.repr.toList ++ rest) = some (.int n, rest) := by
  obtain ⟨noDigit, dropped, fraction, exponent⟩ := scanNumber_ended ended
  have every : ∀ c ∈ Nat.toDigits 10 n, c.isDigit = true := fun c member =>
    Nat.isDigit_of_mem_toDigits (by decide) (by decide) member
  have few : (Nat.toDigits 10 n).length ≤ maxStrDigits :=
    (Nat.length_toDigits_le_iff (by decide) (by decide)).mpr small
  have integer : scanInteger (Nat.toDigits 10 n ++ rest) = some (Nat.toDigits 10 n, rest) := by
    by_cases zero : n = 0
    · subst zero
      rfl
    · have positive := toDigits_head (Nat.pos_of_ne_zero zero)
      have taken : (Nat.toDigits 10 n ++ rest).takeWhile isDigit = Nat.toDigits 10 n := by
        rw [List.takeWhile_append_of_pos fun c member => isDigit_of_digit (every c member), noDigit, List.append_nil]
      have left : (Nat.toDigits 10 n ++ rest).dropWhile isDigit = rest := by
        rw [List.dropWhile_append_of_pos fun c member => isDigit_of_digit (every c member), dropped]
      rw [scanInteger, taken, left, if_neg Nat.toDigits_ne_nil]
      rintro others starts
      have first : (Nat.toDigits 10 n ++ rest).head? = (Nat.toDigits 10 n).head? := by
        rw [List.head?_append_of_ne_nil _ Nat.toDigits_ne_nil]
      rw [starts] at first
      exact positive first.symm
  have value : natOfDigits (Nat.toDigits 10 n) = n := by rw [natOfDigits_eq, Nat.ofDigitChars_ten_toDigits]
  have noSign : ∀ others, Nat.toDigits 10 n ++ rest ≠ '-' :: others := by
    intro others starts
    cases digits : Nat.toDigits 10 n with
    | nil => exact Nat.toDigits_ne_nil digits
    | cons c more =>
      rw [digits] at starts every
      obtain ⟨rfl, _⟩ := List.cons.inj starts
      exact absurd (every '-' List.mem_cons_self) (by decide)
  rw [Nat.toList_repr, scanNumber]
  · simp only [integer, fraction, exponent, Option.bind_eq_bind, Option.bind_some, and_self, if_true, value]
    exact if_neg (not_lt.mpr few)
  · exact noSign

theorem scanValue_digit {c : Char} (digit : c.isDigit = true) (fuel : Nat) (rest : List Char) :
    scanValue (fuel + 1) (c :: rest) = scanNumber (c :: rest) := by
  have bounds := isDigit_bounds digit
  have known : c = Char.ofNat c.toNat := (Char.ofNat_toNat c).symm
  generalize c.toNat = code at bounds known
  obtain ⟨lower, upper⟩ := bounds
  subst known
  interval_cases code <;> rfl

/-! ## Reading what was written -/

variable {escaping : Escaping}

/-- A value starts with a character that is no space and closes nothing. -/
theorem write_starts : ∀ value, plain value = true →
    ∃ c text, write escaping value = c :: text ∧ (c ≠ ' ' ∧ c ≠ '\t' ∧ c ≠ '\n' ∧ c ≠ '\r') ∧ c ≠ ']' ∧ c ≠ '}' := by
  intro value isPlain
  cases value with
  | null => exact ⟨'n', _, rfl, by decide⟩
  | bool value => cases value with
    | true => exact ⟨'t', _, rfl, by decide⟩
    | false => exact ⟨'f', _, rfl, by decide⟩
  | int value =>
    simp only [plain, Bool.and_eq_true, decide_eq_true_eq] at isPlain
    obtain ⟨n, rfl⟩ := Int.eq_ofNat_of_zero_le isPlain.1
    have text : write escaping (.int n) = Nat.toDigits 10 n := Nat.toList_repr
    cases digits : Nat.toDigits 10 n with
    | nil => exact absurd digits Nat.toDigits_ne_nil
    | cons c rest =>
      have digit : c.isDigit = true :=
        Nat.isDigit_of_mem_toDigits (b := 10) (n := n) (by decide) (by decide) (by rw [digits]; exact List.mem_cons_self)
      refine ⟨c, rest, text.trans digits, ?_⟩
      refine ⟨⟨?_, ?_, ?_, ?_⟩, ?_, ?_⟩ <;> · rintro rfl; exact absurd digit (by decide)
  | float text => cases isPlain
  | str text => exact ⟨'"', _, rfl, by decide⟩
  | arr items => exact ⟨'[', _, rfl, by decide⟩
  | obj fields => exact ⟨'{', _, rfl, by decide⟩

theorem skipSpace_write {value : Value} (isPlain : plain value = true) (rest : List Char) :
    skipSpace (write escaping value ++ rest) = write escaping value ++ rest := by
  obtain ⟨c, text, starts, visible, _⟩ := write_starts value isPlain
  rw [starts, List.cons_append]
  exact skipSpace_of_visible visible _

theorem write_length (value : Value) (isPlain : plain value = true) : 0 < (write escaping value).length := by
  obtain ⟨c, text, starts, _⟩ := write_starts value isPlain
  rw [starts]
  exact Nat.succ_pos _

theorem scanValue_escaped (fuel : Nat) (text : String) (rest : List Char) :
    scanValue (fuel + 1) (escaping.quoted text ++ rest) = some (.str text, rest) := by
  simp only [Escaping.quoted, List.cons_append, List.append_assoc, List.nil_append, scanValue, escaping.scan,
    Option.map_some]

theorem ended_comma (rest : List Char) : Ended (',' :: rest) := rfl
theorem ended_bracket (rest : List Char) : Ended (']' :: rest) := rfl
theorem ended_brace (rest : List Char) : Ended ('}' :: rest) := rfl

theorem skipSpace_mark {c : Char} (mark : c = ',' ∨ c = ']' ∨ c = '}' ∨ c = ':' ∨ c = '"') (rest : List Char) :
    skipSpace (c :: rest) = c :: rest := by
  rcases mark with rfl | rfl | rfl | rfl | rfl <;> rfl

theorem skipSpace_writeItems {item : Value} (items : List Value) (isPlain : plain item = true) (rest : List Char) :
    ∃ c text, writeItems escaping (item :: items) ++ rest = c :: text ∧ c ≠ ']' ∧ skipSpace (c :: text) = c :: text := by
  obtain ⟨c, text, starts, visible, noBracket, _⟩ := write_starts item isPlain
  cases items with
  | nil => exact ⟨c, text ++ rest, by rw [writeItems, starts, List.cons_append], noBracket, skipSpace_of_visible visible _⟩
  | cons next items =>
    refine ⟨c, text ++ ',' :: writeItems escaping (next :: items) ++ rest, ?_, noBracket, skipSpace_of_visible visible _⟩
    rw [writeItems, starts]
    · rfl
    · simp

mutual

theorem scanValue_write (value : Value) (fuel : Nat) (rest : List Char) (isPlain : plain value = true) (ended : Ended rest)
    (enough : 2 * (write escaping value).length ≤ fuel) : scanValue fuel (write escaping value ++ rest) = some (value, rest) := by
  have positive := @write_length escaping value isPlain
  obtain ⟨fuel, rfl⟩ := Nat.exists_eq_succ_of_ne_zero (show fuel ≠ 0 by omega)
  cases value with
  | null => rfl
  | bool value => cases value <;> rfl
  | int value =>
    simp only [plain, Bool.and_eq_true, decide_eq_true_eq] at isPlain
    obtain ⟨n, rfl⟩ := Int.eq_ofNat_of_zero_le isPlain.1
    have scanned := scanNumber_write (n := n) isPlain.2 ended
    have text : write escaping (.int n) = n.repr.toList := rfl
    obtain ⟨c, more, starts⟩ := List.exists_cons_of_length_pos positive
    have digit : c.isDigit = true :=
      isDigit_of_mem_toString (n := n) (by rw [show (toString n).toList = write escaping (.int n) from rfl, starts]; exact List.mem_cons_self)
    rw [← text, starts, List.cons_append] at scanned
    rw [starts, List.cons_append, scanValue_digit digit, scanned]
  | float text => cases isPlain
  | str text => exact scanValue_escaped fuel text rest
  | arr items =>
    cases items with
    | nil => rfl
    | cons item items =>
      have itemPlain := isPlain
      simp only [plain, plainItems, Bool.and_eq_true] at itemPlain
      obtain ⟨c, text, starts, noBracket, skipped⟩ := skipSpace_writeItems items itemPlain.1 (']' :: rest)
      have whole : write escaping (.arr (item :: items)) ++ rest = '[' :: (writeItems escaping (item :: items) ++ ']' :: rest) := by
        simp [write]
      have inner := scanItems_write (item :: items) fuel rest (List.cons_ne_nil _ _) isPlain (by
        simp only [write, List.length_cons, List.length_append] at enough
        omega)
      rw [starts] at inner
      rw [whole, starts, scanValue, skipped]
      split
      · next other => exact absurd (List.cons.inj other).1 noBracket
      · rw [inner]
        rfl
  | obj fields =>
    cases fields with
    | nil => rfl
    | cons field fields =>
      have whole : write escaping (.obj (field :: fields)) ++ rest = '{' :: (writeFields escaping (field :: fields) ++ '}' :: rest) := by
        simp [write]
      obtain ⟨text, starts⟩ : ∃ text, writeFields escaping (field :: fields) ++ '}' :: rest = '"' :: text := by
        cases fields <;> exact ⟨_, rfl⟩
      have inner := scanMembers_write (field :: fields) fuel rest (List.cons_ne_nil _ _) isPlain (by
        simp only [write, List.length_cons, List.length_append] at enough
        omega)
      rw [starts] at inner
      rw [whole, starts, scanValue, skipSpace_mark (by simp)]
      exact congrArg (Option.map fun (fields, rest) => (Value.obj fields, rest)) inner

theorem scanItems_write (items : List Value) (fuel : Nat) (rest : List Char) (nonempty : items ≠ [])
    (isPlain : plainItems items = true) (enough : 2 * (writeItems escaping items).length + 1 ≤ fuel) :
    scanItems fuel (writeItems escaping items ++ ']' :: rest) = some (items, rest) := by
  obtain ⟨fuel, rfl⟩ := Nat.exists_eq_succ_of_ne_zero (show fuel ≠ 0 by omega)
  cases items with
  | nil => exact absurd rfl nonempty
  | cons item items =>
    simp only [plainItems, Bool.and_eq_true] at isPlain
    cases items with
    | nil =>
      simp only [writeItems] at enough ⊢
      rw [scanItems, scanValue_write item fuel _ isPlain.1 (ended_bracket rest) (by omega)]
      rfl
    | cons next items =>
      have split : writeItems escaping (item :: next :: items) = write escaping item ++ ',' :: writeItems escaping (next :: items) := rfl
      rw [split] at enough
      simp only [List.length_append, List.length_cons] at enough
      have later := scanItems_write (next :: items) fuel rest (List.cons_ne_nil _ _) isPlain.2
        (by omega)
      have nextPlain := isPlain.2
      simp only [plainItems, Bool.and_eq_true] at nextPlain
      obtain ⟨c, text, starts, _, skipped⟩ := skipSpace_writeItems items nextPlain.1 (']' :: rest)
      rw [starts] at later
      rw [split, List.append_assoc, List.cons_append, starts, scanItems,
        scanValue_write item fuel _ isPlain.1 (ended_comma _) (by omega)]
      simp only [Option.bind_eq_bind, Option.bind_some, skipSpace_mark (c := ',') (.inl rfl), skipped, later]

theorem scanMembers_write (fields : List (String × Value)) (fuel : Nat) (rest : List Char) (nonempty : fields ≠ [])
    (isPlain : plainFields fields = true) (enough : 2 * (writeFields escaping fields).length + 1 ≤ fuel) :
    scanMembers fuel (writeFields escaping fields ++ '}' :: rest) = some (fields, rest) := by
  obtain ⟨fuel, rfl⟩ := Nat.exists_eq_succ_of_ne_zero (show fuel ≠ 0 by omega)
  cases fields with
  | nil => exact absurd rfl nonempty
  | cons field fields =>
    obtain ⟨key, value⟩ := field
    simp only [plainFields, Bool.and_eq_true] at isPlain
    cases fields with
    | nil =>
      simp only [writeFields, List.length_append, List.length_cons] at enough
      have text : writeFields escaping [(key, value)] ++ '}' :: rest =
          '"' :: (key.toList.flatMap escaping.escape ++ '"' :: ':' :: (write escaping value ++ '}' :: rest)) := by
        simp [writeFields, Escaping.quoted]
      rw [text, scanMembers, escaping.scan]
      simp only [Option.bind_eq_bind, Option.bind_some, skipSpace_mark (c := ':') (.inr (.inr (.inr (.inl rfl)))),
        skipSpace_write isPlain.1, scanValue_write value fuel _ isPlain.1 (ended_brace rest) (by omega),
        skipSpace_mark (c := '}') (.inr (.inr (.inl rfl)))]
    | cons next fields =>
      have length : (writeFields escaping ((key, value) :: next :: fields)).length =
          (escaping.quoted key).length + (write escaping value).length + (writeFields escaping (next :: fields)).length + 2 := by
        simp [writeFields]
        omega
      rw [length] at enough
      have text : writeFields escaping ((key, value) :: next :: fields) ++ '}' :: rest =
          '"' :: (key.toList.flatMap escaping.escape ++ '"' :: ':' ::
            (write escaping value ++ ',' :: (writeFields escaping (next :: fields) ++ '}' :: rest))) := by
        simp [writeFields, Escaping.quoted]
      have later := scanMembers_write (next :: fields) fuel rest (List.cons_ne_nil _ _) isPlain.2
        (by omega)
      obtain ⟨tail, starts⟩ : ∃ tail, writeFields escaping (next :: fields) ++ '}' :: rest = '"' :: tail := by
        cases fields <;> exact ⟨_, rfl⟩
      rw [starts] at later
      rw [text, starts, scanMembers, escaping.scan]
      simp only [Option.bind_eq_bind, Option.bind_some, skipSpace_mark (c := ':') (.inr (.inr (.inr (.inl rfl)))),
        skipSpace_write isPlain.1, scanValue_write value fuel _ isPlain.1 (ended_comma _) (by omega),
        skipSpace_mark (c := ',') (.inl rfl), skipSpace_mark (c := '"') (.inr (.inr (.inr (.inr rfl)))), later]

end

/-- Reading what was written. -/
theorem loads_write {value : Value} (isPlain : plain value = true) : loads (write escaping value) = some value := by
  have visible := @skipSpace_write escaping value isPlain []
  rw [List.append_nil] at visible
  have scanned := @scanValue_write escaping value (2 * (write escaping value).length + 2) [] isPlain rfl (by omega)
  rw [List.append_nil] at scanned
  rw [loads, visible, scanned]
  rfl

/-- Reading what was written with a line break after it. -/
theorem loads_write_line {value : Value} (isPlain : plain value = true) : loads (write escaping value ++ ['\n']) = some value := by
  have visible := @skipSpace_write escaping value isPlain ['\n']
  have scanned := @scanValue_write escaping value (2 * (write escaping value ++ ['\n']).length + 2) ['\n'] isPlain rfl
    (by simp only [List.length_append]; omega)
  rw [loads, visible, scanned]
  rfl

theorem write_injective {left right : Value} (plainLeft : plain left = true) (plainRight : plain right = true)
    (same : write escaping left = write escaping right) : left = right := by
  have read := @loads_write escaping left plainLeft
  rw [same, loads_write plainRight] at read
  exact (Option.some.inj read).symm

end ZeroNvr.JsonText
