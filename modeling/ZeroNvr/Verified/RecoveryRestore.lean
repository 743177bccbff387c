import ZeroNvr.Backups.EnvFile
import ZeroNvr.Backups.PolicyRuns
import ZeroNvr.Lib.Shell

/-! # A recovery kit restores what it was made from

The two files of a kit are read by different readers.  A shell sources `recovery.env`:
a value comes back as it was exactly when nothing in it is an expansion or a control
character.  `env_get` strips the quotes of `zero-nvr.env` and no more: a value comes
back exactly when nothing in it had to be escaped.
-/

namespace ZeroNvr

open JsonText (Value write ascii unicode sortKeys loads escapeCharUtf8 unitEscape hexDigit)
open Lib
open Pagination (Timestamp)
open RecoveryKitService
open Shell (Written Assignment inert)

/-! ## What stands between the quotes -/

/-- What a shell reads for a character of a value: the escapes of the control characters are left
    standing. -/
def readBack (c : Char) : List Char := if ' ' ≤ c then [c] else escapeCharUtf8 c

theorem written_hexDigits (digits : List Nat) : Written (digits.map hexDigit) (digits.map hexDigit) := by
  have plain (n : Nat) : hexDigit n ≠ '"' ∧ hexDigit n ≠ '\\' :=
    ⟨UUID.hexDigit_ne (by decide) n, UUID.hexDigit_ne (by decide) n⟩
  induction digits with
  | nil => exact .nil
  | cons n digits ih => exact .char (plain n).1 (plain n).2 ih

theorem written_escape (c : Char) : Written (escapeCharUtf8 c) (readBack c) := by
  by_cases quote : c = '"'
  · subst quote
    exact .escape (.inl rfl) .nil
  by_cases backslash : c = '\\'
  · subst backslash
    exact .escape (.inr rfl) .nil
  by_cases plain : ' ' ≤ c
  · have itself : escapeCharUtf8 c = [c] := by simp [escapeCharUtf8, quote, backslash, plain]
    rw [readBack, if_pos plain, itself]
    exact .char quote backslash .nil
  have letter {d : Char} (kept : Shell.isEscapable d = false) (noNewline : d ≠ '\n') (noQuote : d ≠ '"')
      (noBackslash : d ≠ '\\') : Written ['\\', d] ['\\', d] :=
    .backslash kept noNewline (.char noQuote noBackslash .nil)
  rw [readBack, if_neg plain, escapeCharUtf8, if_neg quote, if_neg backslash, if_neg plain]
  split
  · exact letter (by decide) (by decide) (by decide) (by decide)
  split
  · exact letter (by decide) (by decide) (by decide) (by decide)
  split
  · exact letter (by decide) (by decide) (by decide) (by decide)
  split
  · exact letter (by decide) (by decide) (by decide) (by decide)
  split
  · exact letter (by decide) (by decide) (by decide) (by decide)
  · exact .backslash (by decide) (by decide) (.char (by decide) (by decide)
      (written_hexDigits [c.toNat / 4096, c.toNat / 256, c.toNat / 16, c.toNat]))

theorem written_value (value : List Char) : Written (value.flatMap escapeCharUtf8) (value.flatMap readBack) := by
  induction value with
  | nil => exact .nil
  | cons c value ih =>
    rw [List.flatMap_cons, List.flatMap_cons]
    exact (written_escape c).append ih

/-- A value without control characters. -/
def Printable (value : List Char) : Prop := ∀ c ∈ value, ' ' ≤ c

instance (value : List Char) : Decidable (Printable value) := List.decidableBAll _ value

theorem readBack_printable {value : List Char} (printable : Printable value) : value.flatMap readBack = value := by
  induction value with
  | nil => rfl
  | cons c value ih =>
    rw [List.flatMap_cons, readBack, if_pos (printable c List.mem_cons_self),
      ih fun d member => printable d (List.mem_cons_of_mem c member)]
    rfl

theorem printable_hexDigit (n : Nat) : ' ' ≤ hexDigit n := by
  have every : ∀ m : Fin 16, ' ' ≤ Char.ofNat (if m.val < 10 then 48 + m.val else 87 + m.val) := by decide
  exact every ⟨n % 16, Nat.mod_lt _ (by decide)⟩

/-- No escape is written with a control character. -/
theorem printable_escape (c : Char) : Printable (escapeCharUtf8 c) := by
  have pair {d : Char} (printable : ' ' ≤ d) : Printable ['\\', d] := by
    intro e member
    rcases List.mem_pair.mp member with rfl | rfl
    · decide
    · exact printable
  rw [escapeCharUtf8]
  split
  · exact pair (by decide)
  split
  · exact pair (by decide)
  split
  · next plain => exact fun d member => by rwa [List.mem_singleton.mp member]
  split
  · exact pair (by decide)
  split
  · exact pair (by decide)
  split
  · exact pair (by decide)
  split
  · exact pair (by decide)
  split
  · exact pair (by decide)
  · intro d member
    simp only [unitEscape, List.mem_cons, List.not_mem_nil, or_false] at member
    rcases member with rfl | rfl | rfl | rfl | rfl | rfl
    · decide
    · decide
    all_goals exact printable_hexDigit _

theorem printable_readBack (value : List Char) : Printable (value.flatMap readBack) := by
  intro c member
  obtain ⟨d, _, inRead⟩ := List.mem_flatMap.mp member
  rw [readBack] at inRead
  split at inRead
  · next plain => rwa [List.mem_singleton.mp inRead]
  · exact printable_escape d c inRead

theorem printable_value (value : List Char) : Printable (value.flatMap escapeCharUtf8) := by
  intro c member
  obtain ⟨d, _, inEscape⟩ := List.mem_flatMap.mp member
  exact printable_escape d c inEscape

/-- A value that a shell reads back: it holds no control character and no expansion. -/
def ReadsBack (value : String) : Prop := Printable value.toList ∧ inert value.toList = true

instance (value : String) : Decidable (ReadsBack value) :=
  inferInstanceAs (Decidable (Printable value.toList ∧ inert value.toList = true))

/-! ## Sourcing `recovery.env` -/

/-- Whatever the shell holds, sourcing the file runs no command and gives every variable its value. -/
def Sourced (file : List Char) (values : List (String × String)) : Prop :=
  ∀ (shell : Shell) (env : Variables), ∃ done, shell.source env file = some done ∧ done.ran = false ∧
    ∀ item ∈ values, done.env item.1 = item.2.toList

/-- A name of a shell variable. -/
def IsName (name : String) : Prop :=
  ∃ c rest, name.toList = c :: rest ∧ Shell.isNameStart c = true ∧ ∀ d ∈ rest, Shell.isNameChar d = true

abbrev NamedValue := { item : String × String // IsName item.1 }

/-- The line of a variable. -/
def assignment (item : NamedValue) : Assignment where
  name := item.val.1
  raw := item.val.2.toList.flatMap escapeCharUtf8
  text := item.val.2.toList.flatMap readBack
  named := item.property
  written := written_value item.val.2.toList

def variableLines (values : List (String × String)) : List (List Char) := values.map fun (key, value) => dotenvLine key value

theorem lines_assignment (items : List NamedValue) :
    (items.map assignment).flatMap Assignment.line = unlines (variableLines (items.map Subtype.val)) := by
  have line (item : NamedValue) : (assignment item).line = dotenvLine item.val.1 item.val.2 ++ ['\n'] := by
    simp [assignment, Assignment.line, dotenvLine, JsonText.Escaping.quoted, unicode]
  rw [unlines, variableLines, List.map_map, List.flatMap_map, List.flatMap_map]
  exact List.flatMap_congr fun item _ => line item

theorem names_assignment (items : List NamedValue) :
    (items.map assignment).map Assignment.name = (items.map Subtype.val).map Prod.fst := by
  rw [List.map_map, List.map_map]
  rfl

/-- A file that begins with a comment. -/
theorem source_comment {comment : List Char} (single : ∀ c ∈ comment, c ≠ '\n') (shell : Shell) (env : Variables)
    (items : List NamedValue) :
    ∃ fuel, (unlines (variableLines (items.map Subtype.val))).length < fuel ∧
      shell.source env (unlines (('#' :: comment) :: variableLines (items.map Subtype.val))) =
        shell.sourceFrom fuel env ((items.map assignment).flatMap Assignment.line) := by
  have text : unlines (('#' :: comment) :: variableLines (items.map Subtype.val)) =
      '#' :: comment ++ '\n' :: unlines (variableLines (items.map Subtype.val)) := by
    simp [unlines]
  refine ⟨comment.length + (unlines (variableLines (items.map Subtype.val))).length + 1, by omega, ?_⟩
  have skipped := @Shell.sourceFrom_comment shell env
    (comment.length + (unlines (variableLines (items.map Subtype.val))).length + 1) comment single
    (unlines (variableLines (items.map Subtype.val)))
  have length : ('#' :: comment ++ '\n' :: unlines (variableLines (items.map Subtype.val))).length + 1 =
      comment.length + (unlines (variableLines (items.map Subtype.val))).length + 1 + 2 := by
    simp only [List.cons_append, List.length_cons, List.length_append]
    omega
  rw [Shell.source, lines_assignment, text, length, skipped]

/-- A file restores its values exactly when each of them is read back. -/
theorem sourced_iff {comment : List Char} (single : ∀ c ∈ comment, c ≠ '\n') {values : List (String × String)}
    (named : ∀ item ∈ values, IsName item.1) (distinct : (values.map Prod.fst).Nodup) :
    Sourced (unlines (('#' :: comment) :: variableLines values)) values ↔ ∀ item ∈ values, ReadsBack item.2 := by
  lift values to List NamedValue using named with items
  rw [← names_assignment] at distinct
  constructor
  · intro sourced
    obtain ⟨done, source, _, restored⟩ := sourced Shell.bare fun _ => []
    obtain ⟨fuel, _, same⟩ := source_comment single Shell.bare (fun _ => []) items
    rw [same] at source
    have printable : ∀ item ∈ items.map Subtype.val, Printable item.2.toList := by
      intro item member c inValue
      rw [← restored item member] at inValue
      rcases Shell.mem_of_sourceFrom source inValue with ⟨line, inLines, inText⟩ | ⟨_, inNothing⟩
      · obtain ⟨other, _, rfl⟩ := List.mem_map.mp inLines
        exact printable_readBack _ c inText
      · cases inNothing
    have tame : Shell.Tame fun _ => [] := fun _ => rfl
    have isInert := Shell.inert_of_sourceFrom tame distinct source fun line inLines => by
      obtain ⟨item, inItems, rfl⟩ := List.mem_map.mp inLines
      have member : item.val ∈ items.map Subtype.val := List.mem_map_of_mem inItems
      exact (restored item.val member).trans (readBack_printable (printable item.val member)).symm
    intro item member
    obtain ⟨named, inItems, rfl⟩ := List.mem_map.mp member
    have text : (assignment named).text = named.val.2.toList := readBack_printable (printable named.val member)
    exact ⟨printable named.val member, text ▸ isInert (assignment named) (List.mem_map_of_mem inItems)⟩
  · intro readsBack shell env
    obtain ⟨fuel, enough, same⟩ := source_comment single shell env items
    have text (item : NamedValue) (member : item ∈ items) : (assignment item).text = item.val.2.toList :=
      readBack_printable (readsBack item.val (List.mem_map_of_mem member)).1
    rw [← lines_assignment] at enough
    refine ⟨_, same.trans (Shell.sourceFrom_inert ?_ enough), rfl, fun item member => ?_⟩
    · intro line inLines
      obtain ⟨item, inItems, rfl⟩ := List.mem_map.mp inLines
      rw [text item inItems]
      exact (readsBack item.val (List.mem_map_of_mem inItems)).2
    · obtain ⟨named, inItems, rfl⟩ := List.mem_map.mp member
      exact (Shell.assigned_of_mem distinct (List.mem_map_of_mem inItems)).trans (text named inItems)

/-! ## Reading `zero-nvr.env` -/

/-- `env_get` prints what was exported, for every key. -/
def Fetched (file : List Char) (exported : List (String × List Char)) : Prop :=
  ∀ item ∈ exported, ∀ fallback, EnvFile.envGet (some file) item.1.toList fallback = item.2

/-- What `zero-nvr.env` exports. -/
def exported (values : List (String × String)) (previous : List String) : List (String × List Char) :=
  (values.map fun (key, value) => (key, value.toList)) ++ [(previousKey, previousValue previous)]

/-- A value that is written as it is. -/
def Unescaped (value : String) : Prop := ∀ c ∈ value.toList, ' ' ≤ c ∧ c ≠ '"' ∧ c ≠ '\\'

instance (value : String) : Decidable (Unescaped value) := List.decidableBAll _ value.toList

theorem length_escape (c : Char) : 1 ≤ (escapeCharUtf8 c).length ∧
    ((escapeCharUtf8 c).length = 1 → ' ' ≤ c ∧ c ≠ '"' ∧ c ≠ '\\') := by
  by_cases quote : c = '"'
  · subst quote
    exact ⟨by decide, fun single => absurd single (by decide)⟩
  by_cases backslash : c = '\\'
  · subst backslash
    exact ⟨by decide, fun single => absurd single (by decide)⟩
  by_cases plain : ' ' ≤ c
  · rw [escapeCharUtf8, if_neg quote, if_neg backslash, if_pos plain]
    exact ⟨Nat.le_refl 1, fun _ => ⟨plain, quote, backslash⟩⟩
  · rw [escapeCharUtf8, if_neg quote, if_neg backslash, if_neg plain]
    have long {text : List Char} (two : 2 ≤ text.length) :
        1 ≤ text.length ∧ (text.length = 1 → ' ' ≤ c ∧ c ≠ '"' ∧ c ≠ '\\') :=
      ⟨by omega, fun single => by omega⟩
    split
    · exact long (by decide)
    split
    · exact long (by decide)
    split
    · exact long (by decide)
    split
    · exact long (by decide)
    split
    · exact long (by decide)
    · exact long (by simp [unitEscape])

theorem length_escapes (value : List Char) : value.length ≤ (value.flatMap escapeCharUtf8).length := by
  induction value with
  | nil => exact Nat.le_refl 0
  | cons c value ih =>
    rw [List.flatMap_cons, List.length_append, List.length_cons]
    have first := (length_escape c).1
    omega

/-- A value is written as it is exactly when nothing in it has to be escaped. -/
theorem escape_eq_self_iff (value : List Char) :
    value.flatMap escapeCharUtf8 = value ↔ ∀ c ∈ value, ' ' ≤ c ∧ c ≠ '"' ∧ c ≠ '\\' := by
  constructor
  · intro same
    induction value with
    | nil => exact fun _ member => absurd member List.not_mem_nil
    | cons c value ih =>
      have lengths := congrArg List.length same
      rw [List.flatMap_cons, List.length_append, List.length_cons] at lengths
      have first := length_escape c
      have rest := length_escapes value
      have single : (escapeCharUtf8 c).length = 1 := by omega
      have plain := first.2 single
      have itself : escapeCharUtf8 c = [c] := by
        rw [escapeCharUtf8, if_neg plain.2.1, if_neg plain.2.2, if_pos plain.1]
      rw [List.flatMap_cons, itself] at same
      intro d member
      rcases List.mem_cons.mp member with rfl | inTail
      · exact plain
      · exact ih (List.cons.inj same).2 d inTail
  · intro plain
    induction value with
    | nil => rfl
    | cons c value ih =>
      obtain ⟨printable, noQuote, noBackslash⟩ := plain c List.mem_cons_self
      rw [List.flatMap_cons, escapeCharUtf8, if_neg noQuote, if_neg noBackslash, if_pos printable,
        ih fun d member => plain d (List.mem_cons_of_mem c member)]
      rfl

/-- The lines of `zero-nvr.env` after its comment. -/
def envItems (values : List (String × String)) (previous : List String) : List (List Char × List Char) :=
  (values.map fun (key, value) => (key.toList, unicode.quoted value)) ++ [(previousKey.toList, previousValue previous)]

theorem bootstrapText_eq (values : List (String × String)) (previous : List String) :
    bootstrapText values previous = unlines (bootstrapComment :: (envItems values previous).map EnvFile.entry) := by
  rw [bootstrapText, envItems, List.map_append, List.map_map, List.cons_append]
  rfl

theorem printable_previous (previous : List String) : Printable (previousValue previous) := by
  have quoted (text : String) : Printable (unicode.quoted text) := by
    intro c member
    rcases List.mem_append.mp member with inBody | isLast
    · rcases List.mem_cons.mp inBody with rfl | inText
      · decide
      · exact printable_value text.toList c inText
    · rw [List.mem_singleton.mp isLast]
      decide
  have items : Printable (JsonText.writeItems unicode (previous.map .str)) := by
    induction previous with
    | nil => exact fun _ member => absurd member List.not_mem_nil
    | cons text previous ih =>
      cases previous with
      | nil => exact quoted text
      | cons next previous =>
        intro c member
        rcases List.mem_append.mp member with inText | later
        · exact quoted text c inText
        · rcases List.mem_cons.mp later with rfl | inRest
          · decide
          · exact ih c inRest
  intro c member
  rcases List.mem_append.mp member with inBody | isLast
  · rcases List.mem_cons.mp inBody with rfl | inItems
    · decide
    · exact items c inItems
  · rw [List.mem_singleton.mp isLast]
    decide

/-! ### The names -/

open BackupPolicyService (isEnvKey isEnvKeyStart isEnvKeyChar)

theorem isNameStart_of_key {c : Char} (start : isEnvKeyStart c = true) : Shell.isNameStart c = true := by
  simp only [isEnvKeyStart, Bool.and_eq_true, decide_eq_true_eq] at start
  have upper : c.isUpper = true := by
    simp only [Char.isUpper, decide_eq_true_eq, ge_iff_le]
    exact start
  simp [Shell.isNameStart, Char.isAlpha, upper]

theorem isNameChar_of_key {c : Char} (char : isEnvKeyChar c = true) : Shell.isNameChar c = true := by
  simp only [isEnvKeyChar, Bool.or_eq_true, Bool.and_eq_true, decide_eq_true_eq, beq_iff_eq] at char
  rcases char with (upper | digit) | rfl
  · have isUpper : c.isUpper = true := by
      simp only [Char.isUpper, decide_eq_true_eq, ge_iff_le]
      exact upper
    simp [Shell.isNameChar, Char.isAlphanum, Char.isAlpha, isUpper]
  · have isDigit : c.isDigit = true := by
      simp only [Char.isDigit, Bool.and_eq_true, decide_eq_true_eq, ge_iff_le]
      exact digit
    simp [Shell.isNameChar, Char.isAlphanum, isDigit]
  · decide

theorem isEnvKey_chars {name : String} (isKey : isEnvKey name = true) :
    ∃ c rest, name.toList = c :: rest ∧ isEnvKeyStart c = true ∧ ∀ d ∈ rest, isEnvKeyChar d = true := by
  rw [isEnvKey] at isKey
  split at isKey
  · cases isKey
  · next c rest text =>
    simp only [Bool.and_eq_true, List.all_eq_true] at isKey
    exact ⟨c, rest, text, isKey.1.1, isKey.1.2⟩

theorem isName_of_key {name : String} (isKey : isEnvKey name = true) : IsName name := by
  obtain ⟨c, rest, text, start, chars⟩ := isEnvKey_chars isKey
  exact ⟨c, rest, text, isNameStart_of_key start, fun d member => isNameChar_of_key (chars d member)⟩

/-- A name is a part of a line that neither ends it nor makes it a comment. -/
theorem isEnvKey_plain {name : String} (isKey : isEnvKey name = true) :
    '=' ∉ name.toList ∧ '\n' ∉ name.toList ∧ name.toList.head?.all (· ≠ '#') ∧ name.toList ≠ [] := by
  obtain ⟨c, rest, text, start, chars⟩ := isEnvKey_chars isKey
  have absent {d : Char} (noStart : isEnvKeyStart d = false) (noChar : isEnvKeyChar d = false) : d ∉ name.toList := by
    rw [text]
    intro member
    rcases List.mem_cons.mp member with rfl | inRest
    · rw [start] at noStart
      cases noStart
    · rw [chars d inRest] at noChar
      cases noChar
  refine ⟨absent rfl rfl, absent rfl rfl, ?_, by rw [text]; exact List.cons_ne_nil c rest⟩
  have noHash : c ≠ '#' := by
    rintro rfl
    cases start
  rw [text]
  simp [noHash]

theorem previousKey_isKey : isEnvKey previousKey = true := by decide

/-! ### The values -/

theorem envItems_keys (values : List (String × String)) (previous : List String) :
    (envItems values previous).map Prod.fst = ((values.map Prod.fst) ++ [previousKey]).map String.toList := by
  simp only [envItems, List.map_append, List.map_map, List.map_cons, List.map_nil]
  rfl

theorem getLast?_quoted (text : String) : (unicode.quoted text).getLast? = some '"' :=
  List.getLast?_concat

theorem getLast?_previous (previous : List String) : (previousValue previous).getLast? = some ']' :=
  List.getLast?_concat

/-- The file that `generate` writes gives every key what was exported exactly when no value had to be
    escaped. -/
theorem fetched_iff {values : List (String × String)} (previous : List String) (keys : ∀ item ∈ values, isEnvKey item.1 = true)
    (distinct : ((values.map Prod.fst) ++ [previousKey]).Nodup) :
    Fetched (bootstrapText values previous) (exported values previous) ↔ ∀ item ∈ values, Unescaped item.2 := by
  have keyOf (item : List Char × List Char) (member : item ∈ envItems values previous) :
      ∃ name : String, isEnvKey name = true ∧ item.1 = name.toList ∧ Printable item.2 ∧ item.2.getLast? ≠ some '\r' := by
    rcases List.mem_append.mp member with inValues | isPrevious
    · obtain ⟨⟨key, value⟩, inside, rfl⟩ := List.mem_map.mp inValues
      refine ⟨key, keys _ inside, rfl, fun c inText => ?_, by rw [getLast?_quoted]; decide⟩
      rcases List.mem_append.mp inText with inBody | isLast
      · rcases List.mem_cons.mp inBody with rfl | inEscapes
        · decide
        · exact printable_value value.toList c inEscapes
      · rw [List.mem_singleton.mp isLast]
        decide
    · rw [List.mem_singleton.mp isPrevious]
      exact ⟨previousKey, previousKey_isKey, rfl, printable_previous previous,
        by rw [getLast?_previous]; decide⟩
  have found (item : List Char × List Char) (member : item ∈ envItems values previous) (fallback : List Char) :
      EnvFile.envGet (some (bootstrapText values previous)) item.1 fallback =
        if EnvFile.enclosed '"' item.2 ∨ EnvFile.enclosed '\'' item.2 then EnvFile.inner item.2 else item.2 := by
    rw [bootstrapText_eq]
    obtain ⟨_, _, _, _, noReturn⟩ := keyOf item member
    refine EnvFile.envGet_unlines rfl (fun other inItems => ?_) (fun line inLines => ?_) ?_ member noReturn fallback
    · obtain ⟨name, isKey, same, _⟩ := keyOf other inItems
      obtain ⟨noEquals, _, noHash, nonempty⟩ := isEnvKey_plain isKey
      rw [same]
      exact ⟨noEquals, noHash, nonempty⟩
    · rcases List.mem_cons.mp inLines with rfl | isEntry
      · decide
      · obtain ⟨other, inItems, rfl⟩ := List.mem_map.mp isEntry
        obtain ⟨name, isKey, same, printable, _⟩ := keyOf other inItems
        intro newline
        rcases List.mem_append.mp newline with inKey | inValue
        · rw [same] at inKey
          exact (isEnvKey_plain isKey).2.1 inKey
        · rcases List.mem_cons.mp inValue with isEquals | inText
          · cases isEquals
          · exact absurd (printable _ inText) (by decide)
    · rw [envItems_keys]
      exact distinct.map fun a b same => String.toList_inj.mp same
  have valueRead (key value : String) (inside : (key, value) ∈ values) (fallback : List Char) :
      EnvFile.envGet (some (bootstrapText values previous)) key.toList fallback = value.toList.flatMap escapeCharUtf8 := by
    have member : (key.toList, unicode.quoted value) ∈ envItems values previous :=
      List.mem_append_left _ (List.mem_map.mpr ⟨(key, value), inside, rfl⟩)
    have quotes : EnvFile.enclosed '"' (unicode.quoted value) = true := by
      rw [EnvFile.enclosed, getLast?_quoted]
      simp [JsonText.Escaping.quoted]
    rw [found _ member fallback, if_pos (.inl quotes)]
    simp [EnvFile.inner, JsonText.Escaping.quoted, unicode]
  have previousRead (fallback : List Char) :
      EnvFile.envGet (some (bootstrapText values previous)) previousKey.toList fallback = previousValue previous := by
    rw [found (previousKey.toList, previousValue previous) (List.mem_append_right _ (List.mem_singleton.mpr rfl)) fallback,
      if_neg]
    simp [EnvFile.enclosed, previousValue, write]
  constructor
  · intro fetched item inside
    have same := fetched (item.1, item.2.toList) (List.mem_append_left _ (List.mem_map.mpr ⟨item, inside, rfl⟩)) []
    rw [valueRead item.1 item.2 inside] at same
    exact (escape_eq_self_iff item.2.toList).mp same
  · intro unescaped item member fallback
    rcases List.mem_append.mp member with inValues | isPrevious
    · obtain ⟨⟨key, value⟩, inside, rfl⟩ := List.mem_map.mp inValues
      exact (valueRead key value inside fallback).trans ((escape_eq_self_iff value.toList).mpr (unescaped _ inside))
    · rw [List.mem_singleton.mp isPrevious]
      exact previousRead fallback

/-- The keys that are there in every kit, and those of the broker and of the database. -/
def bootstrapKeys : List String :=
  ["ZERO_NVR_DATA_PATH", "ZERO_NVR_CACHE_PATH", "ZERO_NVR_RECORDINGS_PATH", "ZERO_NVR_SECRET_KEY", "ZERO_NVR_SECRET_KEY_FILE",
    "ZERO_NVR_ZLM_API_SECRET", "ZERO_NVR_ZLM_API_SECRET_FILE", "ZERO_NVR_ZLM_HOOK_SECRET", "ZERO_NVR_ZLM_HOOK_SECRET_FILE",
    "ZERO_NVR_ENVIRONMENT", "ZERO_NVR_SESSION_COOKIE_SECURE", "ZERO_NVR_ZLM_PUBLIC_BASE_URL", "ZERO_NVR_TURN_ENABLED",
    "ZERO_NVR_TURN_URLS", "ZERO_NVR_TURN_PUBLIC_HOST", "ZERO_NVR_TURN_PORT", "ZERO_NVR_TURN_SHARED_SECRET",
    "ZERO_NVR_TURN_SHARED_SECRET_FILE", "ZERO_NVR_TURN_REALM", "ZERO_NVR_DATABASE_URL", "ZERO_NVR_PREBUFFER_SIZE",
    "COMPOSE_PROFILES"]

def mqttKeys : List String := ["ZERO_NVR_MQTT_USERNAME", "ZERO_NVR_MQTT_PASSWORD", "ZERO_NVR_MQTT_PASSWORD_FILE"]

def postgresKeys : List String :=
  ["ZERO_NVR_POSTGRES_DB", "ZERO_NVR_POSTGRES_USER", "ZERO_NVR_POSTGRES_PASSWORD", "ZERO_NVR_POSTGRES_PASSWORD_FILE"]

section
variable {library : KitLibrary} {deployment : Deployment} {values : List (String × String)}

theorem keys_postgresValues {profiles profiles' : List String}
    (made : postgresValues library deployment profiles = .ok (profiles', values)) :
    (values.map Prod.fst).Sublist postgresKeys := by
  rw [postgresValues] at made
  dsimp only at made
  split at made
  · cases made
    exact List.nil_sublist _
  rw [bind_eq_ok] at made
  obtain ⟨parsed, _, made⟩ := made
  split at made
  · rw [bind_eq_ok] at made
    obtain ⟨password, _, made⟩ := made
    split at made
    · cases made
    · cases made
      exact List.Sublist.refl _
  · cases made
    exact List.nil_sublist _

theorem keys_mqttValues {profiles : List String} (made : mqttValues deployment profiles = .ok values) :
    (values.map Prod.fst).Sublist mqttKeys := by
  rw [mqttValues] at made
  split at made
  · rw [bind_eq_ok] at made
    obtain ⟨password, _, made⟩ := made
    split at made
    · cases made
    · cases made
      exact List.Sublist.refl _
  · cases made
    exact List.nil_sublist _

theorem keys_bootstrapValues (made : bootstrapValues library deployment = .ok values) :
    (values.map Prod.fst).Sublist (bootstrapKeys ++ mqttKeys ++ postgresKeys) := by
  rw [bootstrapValues] at made
  dsimp only at made
  split at made
  · cases made
  rw [bind_eq_ok] at made
  obtain ⟨⟨profiles, postgres⟩, isPostgres, made⟩ := made
  dsimp only at made
  rw [bind_eq_ok] at made
  obtain ⟨mqtt, isMqtt, made⟩ := made
  cases made
  rw [List.map_append, List.map_append]
  exact ((List.Sublist.refl _).append (keys_mqttValues isMqtt)).append (keys_postgresValues isPostgres)

theorem bootstrapKeys_facts : (bootstrapKeys ++ mqttKeys ++ postgresKeys ++ [previousKey]).Nodup ∧
    ∀ key ∈ bootstrapKeys ++ mqttKeys ++ postgresKeys, isEnvKey key = true := by
  decide +kernel

theorem bootstrapValues_facts (made : bootstrapValues library deployment = .ok values) :
    ((values.map Prod.fst) ++ [previousKey]).Nodup ∧ ∀ item ∈ values, isEnvKey item.1 = true := by
  have sublist := keys_bootstrapValues made
  refine ⟨(sublist.append (List.Sublist.refl [previousKey])).nodup bootstrapKeys_facts.1, fun item member => ?_⟩
  exact bootstrapKeys_facts.2 item.1 (sublist.subset (List.mem_map_of_mem member))

end

/-! ## The package -/

section
variable {library : KitLibrary}

theorem sortKeys_files (bootstrap recovery : List Char) :
    sortKeys (filesValue bootstrap recovery) =
      .obj [("README.txt", .str readme), ("recovery.env", .str (String.ofList recovery)),
        ("zero-nvr.env", .str (String.ofList bootstrap))] := by
  simp [filesValue, sortKeys, JsonText.sortFields]

theorem sortKeys_payload (generatedAt : Timestamp) (appVersion : String) (policyId : UUID) (fingerprint : String)
    (files : Value) :
    sortKeys (payload generatedAt appVersion policyId fingerprint files) =
      .obj [("app_version", .str appVersion), ("files", sortKeys files), ("fingerprint", .str fingerprint),
        ("format", .str payloadFormat), ("generated_at", isoValue generatedAt), ("policy_id", uuidValue policyId),
        ("version", .int 1)] := by
  simp [payload, sortKeys, JsonText.sortFields, isoValue, uuidValue]

def kdfFields (salt : Bytes) : List (String × Value) :=
  [("n", .int 16384), ("name", .str "scrypt"), ("p", .int 1), ("r", .int 8), ("salt", base64Value salt)]

def cipherFields (nonce ciphertext : Bytes) : List (String × Value) :=
  [("ciphertext", base64Value ciphertext), ("name", .str "AES-256-GCM"), ("nonce", base64Value nonce)]

/-- The members of a written envelope. -/
def envelopeFields (salt nonce ciphertext : Bytes) : List (String × Value) :=
  [("cipher", .obj (cipherFields nonce ciphertext)), ("format", .str kitFormat), ("kdf", .obj (kdfFields salt)),
    ("version", .int 1)]

theorem sortKeys_envelope (salt nonce ciphertext : Bytes) :
    sortKeys (envelope salt nonce ciphertext) = .obj (envelopeFields salt nonce ciphertext) := by
  simp [envelope, envelopeFields, kdfFields, cipherFields, sortKeys, JsonText.sortFields, base64Value]

theorem decodeUtf8_utf8 (text : List Char) : decodeUtf8 (utf8 text) = .ok text := by
  have decoded : (utf8 text).toByteArray.utf8Decode? = some text.toArray := List.utf8Decode?_utf8Encode
  rw [decodeUtf8, decoded]

theorem urlsafeB64decode_encode (bytes : Bytes) : urlsafeB64decode (String.ofList (Base64.encode bytes)) = .ok bytes := by
  have isAscii : (Base64.encode bytes).all isAscii = true := by
    rw [List.all_eq_true]
    exact fun c member => decide_eq_true (Base64.toNat_lt_of_mem_encode member)
  rw [urlsafeB64decode, String.toList_ofList, if_neg (not_not.mpr isAscii), Base64.decode_encode]

theorem small_int {n : Nat} (small : n < 100000) : n < 10 ^ maxStrDigits :=
  Nat.lt_of_lt_of_le small (Nat.pow_le_pow_right (show 0 < 10 by decide) (show 5 ≤ maxStrDigits by decide))

theorem loadsDict_envelope (salt nonce ciphertext : Bytes) :
    loadsDict (write ascii (sortKeys (envelope salt nonce ciphertext)) ++ ['\n']) =
      .ok (envelopeFields salt nonce ciphertext) := by
  have one : (1 : Int).natAbs < 10 ^ maxStrDigits := small_int (by decide)
  have n : (16384 : Int).natAbs < 10 ^ maxStrDigits := small_int (by decide)
  have r : (8 : Int).natAbs < 10 ^ maxStrDigits := small_int (by decide)
  have isPlain : JsonText.plain (sortKeys (envelope salt nonce ciphertext)) = true := by
    rw [sortKeys_envelope]
    simp only [envelopeFields, kdfFields, cipherFields, JsonText.plain, JsonText.plainFields, base64Value, one, n, r]
    rfl
  rw [loadsDict, JsonText.loads_write_line isPlain, sortKeys_envelope]

/-- The members of a written payload. -/
def payloadFields (generatedAt : Timestamp) (appVersion : String) (policyId : UUID) (fingerprint : String)
    (bootstrap recovery : List Char) : List (String × Value) :=
  [("app_version", .str appVersion),
    ("files", .obj [("README.txt", .str readme), ("recovery.env", .str (String.ofList recovery)),
      ("zero-nvr.env", .str (String.ofList bootstrap))]),
    ("fingerprint", .str fingerprint), ("format", .str payloadFormat), ("generated_at", isoValue generatedAt),
    ("policy_id", uuidValue policyId), ("version", .int 1)]

theorem loadsDict_payload (generatedAt : Timestamp) (appVersion : String) (policyId : UUID) (fingerprint : String)
    (bootstrap recovery : List Char) :
    loadsDict (write ascii (sortKeys (payload generatedAt appVersion policyId fingerprint (filesValue bootstrap recovery)))) =
      .ok (payloadFields generatedAt appVersion policyId fingerprint bootstrap recovery) := by
  have one : (1 : Int).natAbs < 10 ^ maxStrDigits := small_int (by decide)
  have isPlain : JsonText.plain (sortKeys (payload generatedAt appVersion policyId fingerprint
      (filesValue bootstrap recovery))) = true := by
    rw [sortKeys_payload, sortKeys_files]
    simp only [JsonText.plain, JsonText.plainFields, isoValue, uuidValue, one]
    rfl
  rw [loadsDict, JsonText.loads_write isPlain, sortKeys_payload, sortKeys_files]
  rfl

/-- A package is opened with the passphrase it was sealed with. -/
theorem decrypt_sealed
    (lawful : ∀ key nonce plaintext associated,
      library.decrypt key nonce (library.encrypt key nonce plaintext associated) associated = some plaintext)
    (passphrase : String) (salt nonce : Bytes) (generatedAt : Timestamp) (appVersion : String) (policyId : UUID)
    (fingerprint : String) (bootstrap recovery : List Char) :
    RecoveryKitService.decrypt library
        (sealed library passphrase salt nonce
          (payload generatedAt appVersion policyId fingerprint (filesValue bootstrap recovery))) passphrase =
      .ok (payloadFields generatedAt appVersion policyId fingerprint bootstrap recovery) := by
  generalize isText : utf8 (write ascii (sortKeys (payload generatedAt appVersion policyId fingerprint
    (filesValue bootstrap recovery)))) = plaintext
  generalize isCiphertext : library.encrypt (library.scrypt (utf8 passphrase.toList) salt) nonce plaintext associated =
    ciphertext
  have opened : library.decrypt (library.scrypt (utf8 passphrase.toList) salt) nonce ciphertext associated = some plaintext := by
    rw [← isCiphertext, lawful]
  have kdf : member (envelopeFields salt nonce ciphertext) "kdf" asObject = .ok (kdfFields salt) := rfl
  have cipher : member (envelopeFields salt nonce ciphertext) "cipher" asObject = .ok (cipherFields nonce ciphertext) := rfl
  have saltText : member (kdfFields salt) "salt" asText = .ok (String.ofList (Base64.encode salt)) := rfl
  have nonceText : member (cipherFields nonce ciphertext) "nonce" asText = .ok (String.ofList (Base64.encode nonce)) := rfl
  have ciphertextText : member (cipherFields nonce ciphertext) "ciphertext" asText =
      .ok (String.ofList (Base64.encode ciphertext)) := rfl
  have format : ¬(¬hasText (envelopeFields salt nonce ciphertext) "format" kitFormat = true ∨
      ¬versionOne (envelopeFields salt nonce ciphertext) = true) := by
    rintro (noFormat | noVersion)
    · exact noFormat rfl
    · exact noVersion rfl
  have crypto : ¬(¬hasText (kdfFields salt) "name" "scrypt" = true ∨
      ¬hasText (cipherFields nonce ciphertext) "name" "AES-256-GCM" = true) := by
    rintro (noKdf | noCipher)
    · exact noKdf rfl
    · exact noCipher rfl
  have inner : ¬(¬hasText (payloadFields generatedAt appVersion policyId fingerprint bootstrap recovery) "format"
        payloadFormat = true ∨
      ¬versionOne (payloadFields generatedAt appVersion policyId fingerprint bootstrap recovery) = true) := by
    rintro (noFormat | noVersion)
    · exact noFormat rfl
    · exact noVersion rfl
  rw [RecoveryKitService.decrypt, sealed]
  simp only [isText, isCiphertext, decodeUtf8_utf8, loadsDict_envelope, bind, Except.bind, if_neg format, kdf, cipher,
    if_neg crypto, saltText, nonceText, ciphertextText, urlsafeB64decode_encode, opened]
  rw [← isText, decodeUtf8_utf8]
  simp only [loadsDict_payload, if_neg inner]

end

/-! ## The whole kit -/

open BackupPolicyService (ValidEnvironment reservedEnv)

theorem reservedKeys : isEnvKey "RESTIC_REPOSITORY" = true ∧ isEnvKey "RESTIC_PASSWORD" = true ∧
    "RESTIC_REPOSITORY" ∈ reservedEnv ∧ "RESTIC_PASSWORD" ∈ reservedEnv ∧ "RESTIC_REPOSITORY" ≠ "RESTIC_PASSWORD" := by
  decide

theorem recoveryValues_named (repository password : String) {environment : List (String × String)}
    (valid : ValidEnvironment environment) :
    (∀ item ∈ recoveryValues repository password environment, IsName item.1) ∧
      ((recoveryValues repository password environment).map Prod.fst).Nodup := by
  obtain ⟨repositoryKey, passwordKey, repositoryReserved, passwordReserved, differ⟩ := reservedKeys
  have sorted : ValidEnvironment (environment.insertionSort fun a b => a.1 ≤ b.1) :=
    valid.perm (List.perm_insertionSort _ environment).symm
  have absent {name : String} (reserved : name ∈ reservedEnv) :
      name ∉ (environment.insertionSort fun a b => a.1 ≤ b.1).map Prod.fst := by
    intro member
    obtain ⟨item, inEnvironment, rfl⟩ := List.mem_map.mp member
    exact (sorted.named item inEnvironment).2 reserved
  constructor
  · intro item member
    rcases List.mem_cons.mp member with rfl | later
    · exact isName_of_key repositoryKey
    rcases List.mem_cons.mp later with rfl | inEnvironment
    · exact isName_of_key passwordKey
    · exact isName_of_key (sorted.named item inEnvironment).1
  · rw [recoveryValues, List.map_cons, List.map_cons, List.nodup_cons, List.nodup_cons]
    refine ⟨fun member => ?_, absent passwordReserved, sorted.distinct⟩
    rcases List.mem_cons.mp member with same | inEnvironment
    · exact differ same
    · exact absent repositoryReserved inEnvironment

/-- What a call of `generate` that returns has made. -/
theorem generate_ok {library : KitLibrary} {deployment : Deployment} {resolved : Result ResolvedBackupPolicy}
    {policy : BackupPolicyRow} {passphrase : String} {salt nonce : Bytes} {now : Timestamp} {file : List Char}
    {artifact : RecoveryKitArtifact}
    (made : generate library deployment resolved policy passphrase salt nonce now = .ok (file, artifact)) :
    ∃ contents digest bootstrap, resolved = .ok contents ∧ fingerprint library deployment policy = .ok digest ∧
      bootstrapEnv library deployment = .ok bootstrap ∧
      file = statusText policy.id now deployment.settings.appVersion digest ∧
      artifact.content = sealed library passphrase salt nonce
        (payload now deployment.settings.appVersion policy.id digest
          (filesValue bootstrap (recoveryEnv contents.repository contents.password contents.environment))) := by
  rw [generate] at made
  split at made
  · cases made
  rw [bind_eq_ok] at made
  obtain ⟨contents, isContents, made⟩ := made
  rw [bind_eq_ok] at made
  obtain ⟨digest, isDigest, made⟩ := made
  rw [bind_eq_ok] at made
  obtain ⟨bootstrap, isBootstrap, made⟩ := made
  dsimp only at made
  rw [bind_eq_ok] at made
  obtain ⟨_, _, made⟩ := made
  cases made
  exact ⟨contents, digest, bootstrap, isContents, isDigest, isBootstrap, rfl, rfl⟩

/-- The package holds both files as they were generated, a shell reads `recovery.env` back and
    `env_get` reads `zero-nvr.env` back. -/
structure Restores (library : KitLibrary) (deployment : Deployment) (resolved : ResolvedBackupPolicy)
    (values : List (String × String)) (passphrase : String) (content : Bytes) : Prop where
  unchanged : ∃ fields files,
    RecoveryKitService.decrypt library content passphrase = .ok fields ∧ Value.field? fields "files" = some (.obj files) ∧
      Value.field? files "zero-nvr.env" =
        some (.str (String.ofList (bootstrapText values deployment.settings.secretKeyPrevious))) ∧
      Value.field? files "recovery.env" =
        some (.str (String.ofList (recoveryEnv resolved.repository resolved.password resolved.environment)))
  sourced : Sourced (recoveryEnv resolved.repository resolved.password resolved.environment)
    (recoveryValues resolved.repository resolved.password resolved.environment)
  fetched : Fetched (bootstrapText values deployment.settings.secretKeyPrevious)
    (exported values deployment.settings.secretKeyPrevious)

theorem restores_iff {library : KitLibrary}
    (opens : ∀ key nonce plaintext associated,
      library.decrypt key nonce (library.encrypt key nonce plaintext associated) associated = some plaintext)
    {deployment : Deployment} {resolved : ResolvedBackupPolicy} (valid : ValidEnvironment resolved.environment)
    {policy : BackupPolicyRow} {passphrase : String} {salt nonce : Bytes} {now : Timestamp} {file : List Char}
    {artifact : RecoveryKitArtifact}
    (made : generate library deployment (.ok resolved) policy passphrase salt nonce now = .ok (file, artifact)) :
    ∃ values, bootstrapValues library deployment = .ok values ∧
      (Restores library deployment resolved values passphrase artifact.content ↔
        (∀ item ∈ recoveryValues resolved.repository resolved.password resolved.environment, ReadsBack item.2) ∧
          ∀ item ∈ values, Unescaped item.2) := by
  obtain ⟨contents, digest, bootstrap, isContents, _, isBootstrap, _, isContent⟩ := generate_ok made
  cases isContents
  obtain ⟨values, isValues, isText⟩ := map_eq_ok.mp isBootstrap
  obtain ⟨named, distinct⟩ := recoveryValues_named resolved.repository resolved.password valid
  obtain ⟨distinctKeys, keys⟩ := bootstrapValues_facts isValues
  have noNewline : '\n' ∉ recoveryComment.tail := by decide
  have single : ∀ c ∈ recoveryComment.tail, c ≠ '\n' := fun c member newline => noNewline (newline ▸ member)
  have recovery : Sourced (recoveryEnv resolved.repository resolved.password resolved.environment) _ ↔ _ :=
    sourced_iff single named distinct
  have bootstrapRead := fetched_iff deployment.settings.secretKeyPrevious keys distinctKeys
  refine ⟨values, isValues, fun restores => ⟨recovery.mp restores.sourced, bootstrapRead.mp restores.fetched⟩,
    fun ⟨readsBack, unescaped⟩ => ⟨?_, recovery.mpr readsBack, bootstrapRead.mpr unescaped⟩⟩
  rw [isContent, isText]
  exact ⟨_, _, decrypt_sealed opens passphrase salt nonce now deployment.settings.appVersion policy.id digest bootstrap _,
    rfl, rfl, rfl⟩

/-- A kit that is generated for a policy, after any run of changes and rotations, restores what it was
    made from if and only if a shell reads every value of `recovery.env` back and no value of
    `zero-nvr.env` has to be escaped. -/
theorem recovery_kit_restores {cipher : Fernet} {buildKey : String → String × cipher.Key}
    {urlsplit : String → Option (Option String × Option String)} {library : KitLibrary}
    (lawful : ∀ key draw plaintext, cipher.decrypt key (cipher.encrypt key draw plaintext) = some plaintext)
    (identified : ∀ a b, (buildKey a).1 = (buildKey b).1 → (buildKey a).2 = (buildKey b).2)
    (opens : ∀ key nonce plaintext associated,
      library.decrypt key nonce (library.encrypt key nonce plaintext associated) associated = some plaintext)
    {settings : SecretSettings} {events : List PolicyEvent} {s : PolicyState}
    (run : Run (PolicyStep buildKey urlsplit) (.fresh settings) events s) {policy : BackupPolicyRow}
    (member : policy ∈ s.policies) {retention : List (String × Int)} {resolved : ResolvedBackupPolicy}
    (resolves : BackupPolicyService.resolve (s.store buildKey) s.secrets policy retention = .ok resolved)
    {deployment : Deployment} {passphrase : String} {salt nonce : Bytes} {now : Timestamp} {file : List Char}
    {artifact : RecoveryKitArtifact}
    (made : generate library deployment (.ok resolved) policy passphrase salt nonce now = .ok (file, artifact)) :
    ∃ values, bootstrapValues library deployment = .ok values ∧
      (Restores library deployment resolved values passphrase artifact.content ↔
        (∀ item ∈ recoveryValues resolved.repository resolved.password resolved.environment, ReadsBack item.2) ∧
          ∀ item ∈ values, Unescaped item.2) := by
  have sound := PolicyState.sound_of_run lawful identified run
  obtain ⟨contents, _, _, _, _, _, isResolved⟩ := sound.resolved lawful identified member resolves
  have valid : ValidEnvironment resolved.environment := by
    rw [isResolved]
    exact contents.valid.perm (List.perm_insertionSort _ contents.environment).symm
  exact restores_iff opens valid made

/-- A cipher that leaves the message as it is, with the name of a secret as its key. -/
def plainCipher : Fernet where
  Key := String
  Draw := Unit
  encrypt _ _ plaintext := plaintext
  decrypt _ ciphertext := some ciphertext

/-- A library whose cipher writes the key and the associated data before the message. -/
def plainLibrary : KitLibrary where
  makeUrl _ := .error (.valueError "Could not parse SQLAlchemy URL")
  sha256 bytes := String.ofList (Base64.encode bytes)
  scrypt passphrase salt := passphrase ++ salt
  encrypt key _ plaintext associated := key ++ associated ++ plaintext
  decrypt key _ ciphertext associated := ciphertext.dropPrefix? (key ++ associated)

def smallDeployment : Deployment where
  settings :=
    { appVersion := "1.0", environment := "production", secretKey := "key", secretKeyPrevious := [], databaseUrl := none
      sessionCookieSecure := true, zlmPublicBaseUrl := "", zlmApiSecret := some "0123456789abcdef0123456789abcdef"
      zlmHookSecret := some "0123456789abcdef0123456789abcdef", turnEnabled := false, turnUrls := ""
      turnPublicHost := none, turnPort := 3478, turnSharedSecret := none, turnRealm := "zero-nvr" }
  environ _ := none
  readText _ := none

theorem plainLibrary_opens (key nonce plaintext associated : Bytes) :
    plainLibrary.decrypt key nonce (plainLibrary.encrypt key nonce plaintext associated) associated = some plaintext := by
  change List.dropPrefix? (key ++ associated ++ plaintext) (key ++ associated) = some plaintext
  exact List.dropPrefix?_append_of_beq plaintext (beq_iff_eq.mpr rfl)

theorem bootstrapValues_small : (bootstrapValues plainLibrary smallDeployment).toOption.isSome = true := by
  decide +kernel

def epoch : Timestamp := ⟨0, Calendar.inRange_zero⟩

/-- The key of a deployment secret is the secret, which is its own id. -/
def plainKey (secret : String) : String × plainCipher.Key := (secret, secret)

/-- A URL parser that finds no credentials. -/
def noCredentials (_ : String) : Option (Option String × Option String) := some (none, none)

theorem small_generate (resolved : ResolvedBackupPolicy) (policy : BackupPolicyRow) : ∃ file artifact,
    generate plainLibrary smallDeployment (.ok resolved) policy "recovery passphrase" [1] [2] epoch = .ok (file, artifact) := by
  obtain ⟨values, isValues⟩ : ∃ values, bootstrapValues plainLibrary smallDeployment = .ok values := by
    have isSome := bootstrapValues_small
    cases made : bootstrapValues plainLibrary smallDeployment with
    | error e => rw [made] at isSome; cases isSome
    | ok values => exact ⟨values, rfl⟩
  obtain ⟨digest, isDigest⟩ : ∃ digest, fingerprint plainLibrary smallDeployment policy = .ok digest := ⟨_, rfl⟩
  have long : ¬(utf8 "recovery passphrase".toList).length < 16 := by decide
  simp only [generate, if_neg long, isDigest, bootstrapEnv, isValues, status, bind, Except.bind, Except.map]
  exact ⟨_, _, rfl⟩

theorem small_policy (password : String) (nonempty : password ≠ "") : ∃ secrets policy,
    BackupPolicyService.create (SecretStore.ofSettings plainKey ⟨"key", []⟩) noCredentials ((), ()) ⟨1, by decide⟩
      ⟨2, by decide⟩ ⟨3, by decide⟩ epoch .empty "/backups" password [] true = .ok (secrets, policy) := by
  have accepted : BackupPolicyService.normalizeRepository noCredentials "/backups" = .ok "/backups" := by decide +kernel
  simp [BackupPolicyService.create, accepted, nonempty, BackupPolicyService.normalizeEnvironment,
    BackupPolicyService.createSecret, Table.insert?, Table.empty, SecretStore.jsonRecord, Keyed.key, bind, Except.bind, pure,
    Except.pure]

/-- A policy for a local repository is made, and a kit for it. -/
theorem small_kit (password : String) (nonempty : password ≠ "") : ∃ s policy resolved artifact file,
    Run (PolicyStep plainKey noCredentials) (.fresh ⟨"key", []⟩) [.create] s ∧ policy ∈ s.policies ∧
      BackupPolicyService.resolve (s.store plainKey) s.secrets policy [] = .ok resolved ∧
      generate plainLibrary smallDeployment (.ok resolved) policy "recovery passphrase" [1] [2] epoch = .ok (file, artifact) ∧
      ValidEnvironment resolved.environment ∧ resolved.password = password ∧
      recoveryValues resolved.repository resolved.password resolved.environment =
        [("RESTIC_REPOSITORY", "/backups"), ("RESTIC_PASSWORD", password)] := by
  have accepted : BackupPolicyService.normalizeRepository noCredentials "/backups" = .ok "/backups" := by decide +kernel
  obtain ⟨secrets, policy, created⟩ := small_policy password nonempty
  obtain ⟨policies, added⟩ : ∃ policies, (Table.empty : Table BackupPolicyRow).insert? policy = some policies := by
    simp [Table.insert?, Table.empty]
  obtain ⟨contents, isRepository, isPassword, isEnvironment, resolves⟩ :=
    resolve_created (fun _ _ _ => rfl) (fun _ _ same => same) created
  obtain ⟨file, artifact, made⟩ := small_generate (contents.resolved policy.id []) policy
  have isEmpty : contents.environment = [] := (Except.ok.inj isEnvironment).symm
  have isBackups : contents.repository = "/backups" := (Except.ok.inj (accepted.symm.trans isRepository)).symm
  generalize isStart : PolicyState.fresh ⟨"key", []⟩ = start
  have step : PolicyStep plainKey noCredentials start .create
      { start with secrets, policies, issued := ⟨2, by decide⟩ :: ⟨3, by decide⟩ :: start.issued } := by
    subst isStart
    exact .create List.not_mem_nil List.not_mem_nil created added
  have store : start.store plainKey = SecretStore.ofSettings plainKey ⟨"key", []⟩ := by rw [← isStart]; rfl
  refine ⟨_, policy, contents.resolved policy.id [], artifact, file, .next step (.done _),
    (Table.mem_insert? added).mpr (.inr rfl), ?_, made, ?_, isPassword, ?_⟩
  · exact (congrArg (fun ring => BackupPolicyService.resolve ring secrets policy []) store).trans (resolves [])
  · exact contents.valid.perm (List.perm_insertionSort _ contents.environment).symm
  · simp [PolicyContents.resolved, recoveryValues, isEmpty, isBackups, isPassword, BackupPolicyService.sortedEnvironment]

/-- Nothing in this kit is an expansion, and nothing in it is escaped. -/
theorem recovery_kit_restores_plain : ∃ resolved values artifact,
    Restores plainLibrary smallDeployment resolved values "recovery passphrase" artifact := by
  obtain ⟨s, policy, resolved, artifact, file, run, member, resolves, made, _, _, isValues⟩ := small_kit "secret" (by decide)
  obtain ⟨values, isBootstrap, restored⟩ := recovery_kit_restores (fun _ _ _ => rfl) (fun _ _ same => same)
    plainLibrary_opens run member resolves made
  refine ⟨resolved, values, artifact.content, restored.mpr ⟨?_, ?_⟩⟩
  · rw [isValues]
    decide +kernel
  · have plain : ∀ item ∈ ((bootstrapValues plainLibrary smallDeployment).toOption.getD []), Unescaped item.2 := by
      decide +kernel
    rw [isBootstrap] at plain
    exact plain

/-- The shell replaces the name of a variable in the password, so that another password is set. -/
theorem recovery_kit_dollar : ∃ s policy resolved artifact file,
    Run (PolicyStep plainKey noCredentials) (.fresh ⟨"key", []⟩) [.create] s ∧ policy ∈ s.policies ∧
      BackupPolicyService.resolve (s.store plainKey) s.secrets policy [] = .ok resolved ∧
      generate plainLibrary smallDeployment (.ok resolved) policy "recovery passphrase" [1] [2] epoch = .ok (file, artifact) ∧
      resolved.password = "pa$HOME" ∧
      ∀ values, bootstrapValues plainLibrary smallDeployment = .ok values →
        ¬Restores plainLibrary smallDeployment resolved values "recovery passphrase" artifact.content := by
  obtain ⟨s, policy, resolved, artifact, file, run, member, resolves, made, valid, isPassword, isValues⟩ :=
    small_kit "pa$HOME" (by decide)
  refine ⟨s, policy, resolved, artifact, file, run, member, resolves, made, isPassword, fun values isBootstrap restores => ?_⟩
  obtain ⟨values', isBootstrap', restored⟩ := restores_iff plainLibrary_opens valid made
  cases Except.ok.inj (isBootstrap.symm.trans isBootstrap')
  have readsBack := (restored.mp restores).1 ("RESTIC_PASSWORD", "pa$HOME") (by rw [isValues]; decide)
  exact absurd readsBack (by decide +kernel)

end ZeroNvr
