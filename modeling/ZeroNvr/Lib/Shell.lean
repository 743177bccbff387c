import Mathlib

/-! # Sourcing a file of assignments

What a POSIX shell makes of a file that holds comments and assignments of words in
double quotes: which characters keep their meaning between the quotes, where an
expansion starts, and what the variables hold afterwards.  What the special
parameters hold, and what a substitution in braces, in parentheses or in backquotes
comes to, is up to the shell.
-/

namespace ZeroNvr.Lib

/-- What the variables of a shell hold; one that is not set reads as the empty text. -/
abbrev Variables := String → List Char

/-- A word, or a part of one, that a shell has read: what it came to, whether a command ran for
    it, and the text after it. -/
structure ShellWord where
  text : List Char
  ran : Bool
  rest : List Char

def ShellWord.before (text : List Char) (word : ShellWord) : ShellWord := { word with text := text ++ word.text }

/-- A word after the part of it that was read first. -/
def ShellWord.after (first word : ShellWord) : ShellWord :=
  { word with text := first.text ++ word.text, ran := first.ran || word.ran }

structure Shell where
  /-- What `$?`, `$#`, `$0` and the like hold. -/
  special : Char → List Char
  /-- What the text from a `$` before a brace or a parenthesis on, or from a backquote on, comes
      to; `none` where the shell stops with an error. -/
  substitute : Variables → List Char → Option ShellWord

namespace Shell

def isNameStart (c : Char) : Bool := c.isAlpha || c == '_'
def isNameChar (c : Char) : Bool := c.isAlphanum || c == '_'
def isSpecial (c : Char) : Bool := c.isDigit || ['@', '*', '#', '?', '-', '$', '!'].contains c
def isOpening (c : Char) : Bool := c == '{' || c == '('

/-- Whether a `$` before this character starts an expansion. -/
def expands (c : Char) : Bool := isNameStart c || isSpecial c || isOpening c

/-- Whether a backslash between double quotes is taken away before this character. -/
def backquote : Char := Char.ofNat 96

/-- Whether a backslash between double quotes is taken away before this character. -/
def isEscapable (c : Char) : Bool := ['$', '"', '\\', backquote].contains c

/-- A word from after its opening double quote. -/
def quoted (shell : Shell) (env : Variables) : (fuel : Nat) → List Char → Option ShellWord
  | 0, _ => none
  | _ + 1, [] => none
  | fuel + 1, c :: rest =>
    if c = '"' then some { text := [], ran := false, rest }
    else if c = '\\' then
      match rest with
      | [] => none
      | d :: after =>
        if d = '\n' then quoted shell env fuel after
        else if isEscapable d then (quoted shell env fuel after).map (.before [d])
        else (quoted shell env fuel (d :: after)).map (.before [c])
    else if c = backquote then
      match shell.substitute env (c :: rest) with
      | none => none
      | some first => (quoted shell env fuel first.rest).map (.after first)
    else if c = '$' then
      match rest with
      | [] => none
      | d :: after =>
        if isNameStart d then
          let name := String.ofList (d :: after.takeWhile isNameChar)
          (quoted shell env fuel (after.dropWhile isNameChar)).map (.before (env name))
        else if isSpecial d then (quoted shell env fuel after).map (.before (shell.special d))
        else if isOpening d then
          match shell.substitute env (c :: rest) with
          | none => none
          | some first => (quoted shell env fuel first.rest).map (.after first)
        else (quoted shell env fuel (d :: after)).map (.before [c])
    else (quoted shell env fuel rest).map (.before [c])

/-! ## Texts that are read as they are -/

/-- What stands between the quotes for a text: its quotes and backslashes are escaped, and a backslash
    that a shell leaves alone may stand for itself. -/
inductive Written : (raw text : List Char) → Prop
  | nil : Written [] []
  | char {c : Char} {raw text : List Char} (noQuote : c ≠ '"') (noBackslash : c ≠ '\\') (rest : Written raw text) :
      Written (c :: raw) (c :: text)
  | escape {c : Char} {raw text : List Char} (special : c = '"' ∨ c = '\\') (rest : Written raw text) :
      Written ('\\' :: c :: raw) (c :: text)
  | backslash {c : Char} {raw text : List Char} (kept : isEscapable c = false) (noNewline : c ≠ '\n')
      (rest : Written (c :: raw) text) : Written ('\\' :: c :: raw) ('\\' :: text)

/-- A text that holds no backquote and no `$` before a character that makes it an expansion. -/
def inert : List Char → Bool
  | [] => true
  | c :: rest => c != backquote && !(c == '$' && rest.head?.any expands) && inert rest

theorem Written.append {raw raw' text text' : List Char} (first : Written raw text) (second : Written raw' text') :
    Written (raw ++ raw') (text ++ text') := by
  induction first with
  | nil => exact second
  | char noQuote noBackslash _ ih => exact .char noQuote noBackslash ih
  | escape special _ ih => exact .escape special ih
  | backslash kept noNewline _ ih => exact .backslash kept noNewline ih

/-- The first character between the quotes, where it would make a `$` before it an expansion. -/
theorem Written.head_expands {raw text : List Char} (written : Written raw text) (rest : List Char) :
    (raw ++ '"' :: rest).head?.any expands = text.head?.any expands := by
  cases written with
  | nil => rfl
  | char => rfl
  | escape special => rcases special with rfl | rfl <;> rfl
  | backslash => rfl

variable {shell : Shell} {env : Variables} {fuel : Nat}

theorem quoted_escape {c : Char} (special : c = '"' ∨ c = '\\') (rest : List Char) :
    quoted shell env (fuel + 1) ('\\' :: c :: rest) = (quoted shell env fuel rest).map (.before [c]) := by
  rcases special with rfl | rfl <;> rfl

theorem quoted_backslash {c : Char} (kept : isEscapable c = false) (noNewline : c ≠ '\n') (rest : List Char) :
    quoted shell env (fuel + 1) ('\\' :: c :: rest) = (quoted shell env fuel (c :: rest)).map (.before ['\\']) := by
  simp [quoted, kept, noNewline]

theorem quoted_dollar {rest : List Char} (nonempty : rest ≠ []) (kept : rest.head?.any expands = false) :
    quoted shell env (fuel + 1) ('$' :: rest) = (quoted shell env fuel rest).map (.before ['$']) := by
  cases rest with
  | nil => exact absurd rfl nonempty
  | cons d rest =>
    simp only [List.head?_cons, Option.any_some, expands, Bool.or_eq_false_iff] at kept
    simp [quoted, kept, backquote]

theorem quoted_plain {c : Char} (noQuote : c ≠ '"') (noBackslash : c ≠ '\\') (noBackquote : c ≠ backquote)
    (noDollar : c ≠ '$') (rest : List Char) :
    quoted shell env (fuel + 1) (c :: rest) = (quoted shell env fuel rest).map (.before [c]) := by
  simp [quoted, noQuote, noBackslash, noBackquote, noDollar]

/-- A text without expansions is read as it is, by every shell. -/
theorem quoted_written {raw text : List Char} (written : Written raw text) (isInert : inert text = true)
    (rest : List Char) {fuel : Nat} (enough : raw.length < fuel) :
    quoted shell env fuel (raw ++ '"' :: rest) = some { text, ran := false, rest } := by
  induction written generalizing fuel with
  | nil =>
    obtain ⟨fuel, rfl⟩ := Nat.exists_eq_succ_of_ne_zero (Nat.ne_of_gt enough)
    rfl
  | @char c raw text noQuote noBackslash written ih =>
    obtain ⟨fuel, rfl⟩ := Nat.exists_eq_succ_of_ne_zero (Nat.ne_of_gt ((Nat.zero_le _).trans_lt enough))
    simp only [inert, Bool.and_eq_true, bne_iff_ne, ne_eq, Bool.not_eq_true', Bool.and_eq_false_iff] at isInert
    obtain ⟨⟨noBackquote, literal⟩, later⟩ := isInert
    have read := ih later (Nat.lt_of_succ_lt_succ enough)
    rw [List.cons_append]
    by_cases dollar : c = '$'
    · subst dollar
      have kept : (raw ++ '"' :: rest).head?.any expands = false := by
        rw [written.head_expands]
        exact literal.resolve_left (by decide)
      rw [quoted_dollar (by simp) kept, read]
      rfl
    · rw [quoted_plain noQuote noBackslash noBackquote dollar, read]
      rfl
  | @escape c raw text special written ih =>
    obtain ⟨fuel, rfl⟩ := Nat.exists_eq_succ_of_ne_zero (Nat.ne_of_gt ((Nat.zero_le _).trans_lt enough))
    simp only [inert, Bool.and_eq_true] at isInert
    simp only [List.length_cons] at enough
    rw [List.cons_append, List.cons_append, quoted_escape special, ih isInert.2 (by omega)]
    rfl
  | @backslash c raw text kept noNewline written ih =>
    obtain ⟨fuel, rfl⟩ := Nat.exists_eq_succ_of_ne_zero (Nat.ne_of_gt ((Nat.zero_le _).trans_lt enough))
    simp only [inert, Bool.and_eq_true] at isInert
    have read := ih isInert.2 (Nat.lt_of_succ_lt_succ enough)
    rw [List.cons_append] at read
    rw [List.cons_append, List.cons_append, quoted_backslash kept noNewline, read]
    rfl

/-! ## Texts that hold an expansion -/

/-- A shell whose special parameters are empty and that refuses every substitution. -/
def bare : Shell where
  special _ := []
  substitute _ _ := none

/-- How many `$` of a text stand before a character that makes them an expansion. -/
def expansions : List Char → Nat
  | [] => 0
  | c :: rest => (if c = '$' ∧ rest.head?.any expands = true then 1 else 0) + expansions rest

theorem expansions_eq_zero {text : List Char} (isInert : inert text = true) : expansions text = 0 := by
  induction text with
  | nil => rfl
  | cons c rest ih =>
    simp only [inert, Bool.and_eq_true, Bool.not_eq_true', Bool.and_eq_false_iff, beq_eq_false_iff_ne] at isInert
    rw [expansions, ih isInert.2, if_neg]
    rintro ⟨dollar, opens⟩
    rcases isInert.1.2 with noDollar | kept
    · exact noDollar dollar
    · rw [kept] at opens
      cases opens

theorem expansions_append (first second : List Char) :
    expansions first + expansions second ≤ expansions (first ++ second) ∧
      expansions (first ++ second) ≤ expansions first + expansions second + 1 := by
  induction first with
  | nil => simp [expansions]
  | cons c first ih =>
    cases first with
    | nil =>
      simp only [List.cons_append, List.nil_append, expansions, List.head?_nil, Option.any_none, Bool.false_eq_true,
        and_false, if_false]
      split <;> omega
    | cons d first =>
      have head (text : List Char) : expansions (c :: d :: text) =
          (if c = '$' ∧ expands d = true then 1 else 0) + expansions (d :: text) := rfl
      rw [List.cons_append, List.cons_append, head, head, ← List.cons_append]
      omega

/-- A text that was read with an expansion in it: up to a common end, what it was read as has fewer
    expansions, because no value that was put in holds one. -/
def Shrunk (text read : List Char) : Prop :=
  ∃ front front' tail, text = front ++ tail ∧ read = front' ++ tail ∧ expansions front' < expansions front ∧
    ∀ c, front.head? = some c → c ≠ '$' → front'.head? = some c

theorem Shrunk.ne {text read : List Char} (shrunk : Shrunk text read) : read ≠ text := by
  obtain ⟨front, front', tail, rfl, rfl, fewer, _⟩ := shrunk
  intro same
  rw [List.append_cancel_right same] at fewer
  exact Nat.lt_irrefl _ fewer

/-- A character that is read as itself. -/
theorem Shrunk.cons {c : Char} {text read : List Char} (literal : c = '$' → text.head?.any expands = false)
    (shrunk : Shrunk text read) : Shrunk (c :: text) (c :: read) := by
  obtain ⟨front, front', tail, rfl, rfl, fewer, heads⟩ := shrunk
  refine ⟨c :: front, c :: front', tail, rfl, rfl, ?_, fun d first _ => first⟩
  have kept : ¬(c = '$' ∧ front'.head?.any expands = true) := by
    rintro ⟨dollar, opens⟩
    cases front with
    | nil => exact absurd fewer (Nat.not_lt_zero _)
    | cons d front =>
      have headKept := literal dollar
      simp only [List.cons_append, List.head?_cons, Option.any_some] at headKept
      rw [heads d rfl (by rintro rfl; exact absurd headKept (by decide)), Option.any_some, headKept] at opens
      cases opens
  simp only [expansions, if_neg kept]
  omega

/-- An expansion before an inert text, or before one that shrinks itself. -/
theorem Shrunk.expansion {opened value text read : List Char} (starts : opened.head? = some '$')
    (opens : 1 ≤ expansions opened) (tame : inert value = true) (later : read = text ∨ Shrunk text read) :
    Shrunk (opened ++ text) (value ++ read) := by
  have none := expansions_eq_zero tame
  rcases later with rfl | ⟨front, front', tail, rfl, rfl, fewer, _⟩
  · refine ⟨opened, value, read, rfl, rfl, by omega, fun c first noDollar => ?_⟩
    rw [starts] at first
    exact absurd (Option.some.inj first).symm noDollar
  · have before := (expansions_append opened front).1
    have after := (expansions_append value front').2
    refine ⟨opened ++ front, value ++ front', tail, by rw [List.append_assoc], by rw [List.append_assoc], by omega,
      fun c first noDollar => ?_⟩
    have isDollar : (opened ++ front).head? = some '$' := by
      rw [List.head?_append, starts]
      rfl
    rw [isDollar] at first
    exact absurd (Option.some.inj first).symm noDollar

/-- A name between the quotes is the name in the text. -/
theorem Written.name {raw text : List Char} (written : Written raw text) (rest : List Char) :
    (raw ++ '"' :: rest).takeWhile isNameChar = text.takeWhile isNameChar ∧
      ∃ later, (raw ++ '"' :: rest).dropWhile isNameChar = later ++ '"' :: rest ∧
        Written later (text.dropWhile isNameChar) := by
  induction written with
  | nil => exact ⟨rfl, [], rfl, .nil⟩
  | @char c raw text noQuote noBackslash written ih =>
    rw [List.cons_append]
    cases named : isNameChar c with
    | false =>
      rw [List.takeWhile_cons_of_neg (by simp [named]), List.dropWhile_cons_of_neg (by simp [named]),
        List.takeWhile_cons_of_neg (by simp [named]), List.dropWhile_cons_of_neg (by simp [named])]
      exact ⟨rfl, c :: raw, rfl, .char noQuote noBackslash written⟩
    | true =>
      rw [List.takeWhile_cons_of_pos named, List.dropWhile_cons_of_pos named, List.takeWhile_cons_of_pos named,
        List.dropWhile_cons_of_pos named, ih.1]
      exact ⟨rfl, ih.2⟩
  | @escape c raw text special written ih =>
    have unnamed : isNameChar c = false := by rcases special with rfl | rfl <;> rfl
    rw [List.cons_append, List.takeWhile_cons_of_neg (by decide), List.dropWhile_cons_of_neg (by decide),
      List.takeWhile_cons_of_neg (by simp [unnamed]), List.dropWhile_cons_of_neg (by simp [unnamed])]
    exact ⟨rfl, '\\' :: c :: raw, rfl, .escape special written⟩
  | @backslash c raw text kept noNewline written ih =>
    rw [List.cons_append, List.takeWhile_cons_of_neg (by decide), List.dropWhile_cons_of_neg (by decide),
      List.takeWhile_cons_of_neg (by decide), List.dropWhile_cons_of_neg (by decide)]
    exact ⟨rfl, '\\' :: c :: raw, rfl, .backslash kept noNewline written⟩

/-- Variables whose values hold no expansion themselves. -/
def Tame (env : Variables) : Prop := ∀ name, inert (env name) = true

/-- What a bare shell reads between the quotes; with tame variables, it is the text as it is or a text
    that has shrunk. -/
structure Reading (env : Variables) (text rest : List Char) (word : ShellWord) : Prop where
  rest : word.rest = rest
  ran : word.ran = false
  known : ∀ c ∈ word.text, c ∈ text ∨ ∃ name, c ∈ env name
  read : Tame env → (inert text = true ∧ word.text = text) ∨ Shrunk text word.text

theorem Reading.cons {c : Char} {text rest : List Char} {word : ShellWord} (noBackquote : c ≠ backquote)
    (literal : c = '$' → text.head?.any expands = false) (reading : Reading env text rest word) :
    Reading env (c :: text) rest (word.before [c]) := by
  refine ⟨reading.rest, reading.ran, fun d member => ?_, fun tame => ?_⟩
  · rcases List.mem_cons.mp member with rfl | inWord
    · exact .inl List.mem_cons_self
    · exact (reading.known d inWord).imp_left (List.mem_cons_of_mem c)
  rcases reading.read tame with ⟨isInert, same⟩ | shrunk
  · refine .inl ⟨?_, congrArg ([c] ++ ·) same⟩
    simp only [inert, Bool.and_eq_true, bne_iff_ne, ne_eq, Bool.not_eq_true', Bool.and_eq_false_iff, beq_eq_false_iff_ne]
    refine ⟨⟨noBackquote, ?_⟩, isInert⟩
    by_cases dollar : c = '$'
    · exact .inr (literal dollar)
    · exact .inl dollar
  · exact .inr (shrunk.cons literal)

theorem Reading.expansion {opened value text rest : List Char} {word : ShellWord} (starts : opened.head? = some '$')
    (opens : 1 ≤ expansions opened) (isValue : value = [] ∨ ∃ name, value = env name) (reading : Reading env text rest word) :
    Reading env (opened ++ text) rest (word.before value) := by
  have isInert (tame : Tame env) : inert value = true := by
    rcases isValue with rfl | ⟨name, rfl⟩
    · rfl
    · exact tame name
  refine ⟨reading.rest, reading.ran, fun d member => ?_, fun tame => .inr (Shrunk.expansion starts opens (isInert tame) ?_)⟩
  · rcases List.mem_append.mp member with inValue | inWord
    · rcases isValue with rfl | ⟨name, rfl⟩
      · cases inValue
      · exact .inr ⟨name, inValue⟩
    · exact (reading.known d inWord).imp_left (List.mem_append_right opened)
  rcases reading.read tame with ⟨_, same⟩ | shrunk
  · exact .inl same
  · exact .inr shrunk

theorem reading_of_quoted {raw text rest : List Char} (written : Written raw text) {word : ShellWord}
    (read : quoted bare env fuel (raw ++ '"' :: rest) = some word) : Reading env text rest word := by
  induction fuel generalizing raw text word with
  | zero => cases read
  | succ fuel ih =>
    cases written with
    | nil =>
      cases read
      exact ⟨rfl, rfl, fun _ member => absurd member List.not_mem_nil, fun _ => .inl ⟨rfl, rfl⟩⟩
    | @escape c raw text special written =>
      rw [List.cons_append, List.cons_append, quoted_escape special, Option.map_eq_some_iff] at read
      obtain ⟨later, readLater, rfl⟩ := read
      have plain : c ≠ backquote ∧ c ≠ '$' := by rcases special with rfl | rfl <;> decide
      exact (ih written readLater).cons plain.1 fun dollar => absurd dollar plain.2
    | @backslash c raw text kept noNewline written =>
      rw [List.cons_append, List.cons_append, quoted_backslash kept noNewline, Option.map_eq_some_iff] at read
      obtain ⟨later, readLater, rfl⟩ := read
      exact (ih written readLater).cons (by decide) fun dollar => absurd dollar (by decide)
    | @char c raw text noQuote noBackslash written =>
      rw [List.cons_append] at read
      by_cases isBackquote : c = backquote
      · subst isBackquote
        simp [quoted, bare, backquote] at read
      by_cases dollar : c = '$'
      · subst dollar
        cases kept : (raw ++ '"' :: rest).head?.any expands with
        | false =>
          rw [quoted_dollar (by simp) kept, Option.map_eq_some_iff] at read
          obtain ⟨later, readLater, rfl⟩ := read
          rw [written.head_expands] at kept
          exact (ih written readLater).cons (by decide) fun _ => kept
        | true =>
          cases written with
          | nil => cases kept
          | escape special => rcases special with rfl | rfl <;> cases kept
          | backslash => cases kept
          | @char d raw text noQuote noBackslash written =>
            rw [List.cons_append] at kept read
            rw [List.head?_cons, Option.any_some] at kept
            have opens : expansions ['$', d] = 1 := by simp [expansions, kept]
            by_cases named : isNameStart d = true
            · obtain ⟨name, later, split, writtenLater⟩ := written.name rest
              simp only [quoted, named, if_true, name, split] at read
              rw [if_neg (by decide), if_neg (by decide), if_neg (by decide), Option.map_eq_some_iff] at read
              obtain ⟨word, readLater, rfl⟩ := read
              have whole : '$' :: d :: text =
                  ('$' :: d :: text.takeWhile isNameChar) ++ text.dropWhile isNameChar := by
                rw [List.cons_append, List.cons_append, List.takeWhile_append_dropWhile]
              rw [whole]
              have more := (expansions_append ['$', d] (text.takeWhile isNameChar)).1
              rw [opens] at more
              exact (ih writtenLater readLater).expansion rfl (Nat.le_trans (Nat.le_add_right 1 _) more)
                (.inr ⟨_, rfl⟩)
            by_cases special : isSpecial d = true
            · simp only [quoted, named, special, if_true, Bool.false_eq_true, if_false] at read
              rw [if_neg (by decide), if_neg (by decide), if_neg (by decide), Option.map_eq_some_iff] at read
              obtain ⟨word, readLater, rfl⟩ := read
              exact @Reading.expansion env ['$', d] [] text rest word rfl (Nat.le_of_eq opens.symm) (.inl rfl)
                (ih written readLater)
            · have opening : isOpening d = true := by
                simp only [expands, Bool.or_eq_true] at kept
                tauto
              simp [quoted, named, special, opening, bare, backquote] at read
      · rw [quoted_plain noQuote noBackslash isBackquote dollar, Option.map_eq_some_iff] at read
        obtain ⟨later, readLater, rfl⟩ := read
        exact (ih written readLater).cons isBackquote fun isDollar => absurd isDollar dollar

/-! ## Files -/

/-- The variables after a file, and whether a command ran. -/
structure Sourced where
  env : Variables
  ran : Bool

/-- A file of comments and of assignments of single words in double quotes; `none` where the shell
    stops with an error, and for any other line. -/
def sourceFrom (shell : Shell) : (fuel : Nat) → Variables → List Char → Option Sourced
  | 0, _, _ => none
  | _ + 1, env, [] => some { env, ran := false }
  | fuel + 1, env, c :: rest =>
    if c = '\n' then sourceFrom shell fuel env rest
    else if c = '#' then sourceFrom shell fuel env (rest.dropWhile (· ≠ '\n'))
    else if isNameStart c then
      match rest.dropWhile isNameChar with
      | '=' :: '"' :: body =>
        match shell.quoted env fuel body with
        | none => none
        | some word =>
          if word.rest.head?.all (· = '\n') then
            let name := String.ofList (c :: rest.takeWhile isNameChar)
            (sourceFrom shell fuel (Function.update env name word.text) word.rest).map fun done =>
              { done with ran := word.ran || done.ran }
          else none
      | _ => none
    else none

/-- Sourcing a file in a shell with these variables. -/
def source (shell : Shell) (env : Variables) (file : List Char) : Option Sourced :=
  sourceFrom shell (file.length + 1) env file

/-- A line that gives a variable what stands between the quotes. -/
structure Assignment where
  name : String
  raw : List Char
  text : List Char
  named : ∃ c rest, name.toList = c :: rest ∧ isNameStart c = true ∧ ∀ d ∈ rest, isNameChar d = true
  written : Written raw text

def Assignment.line (assignment : Assignment) : List Char :=
  assignment.name.toList ++ '=' :: '"' :: (assignment.raw ++ ['"', '\n'])

theorem sourceFrom_newline (rest : List Char) : sourceFrom shell (fuel + 1) env ('\n' :: rest) = sourceFrom shell fuel env rest :=
  rfl

theorem sourceFrom_comment {comment : List Char} (single : ∀ c ∈ comment, c ≠ '\n') (rest : List Char) :
    sourceFrom shell (fuel + 2) env ('#' :: comment ++ '\n' :: rest) = sourceFrom shell fuel env rest := by
  have skipped : (comment ++ '\n' :: rest).dropWhile (· ≠ '\n') = '\n' :: rest := by
    rw [List.dropWhile_append_of_pos fun c member => by simp [single c member], List.dropWhile_cons_of_neg (by simp)]
  rw [List.cons_append, sourceFrom, if_neg (by decide), if_pos rfl, skipped, sourceFrom_newline]

/-- What becomes of a line: its word is read, and the rest of the file with it. -/
theorem sourceFrom_line (assignment : Assignment) (rest : List Char) :
    sourceFrom shell (fuel + 1) env (assignment.line ++ rest) =
      (quoted shell env fuel (assignment.raw ++ '"' :: '\n' :: rest)).bind fun word =>
        if word.rest.head?.all (· = '\n') then
          (sourceFrom shell fuel (Function.update env assignment.name word.text) word.rest).map fun done =>
            { done with ran := word.ran || done.ran }
        else none := by
  obtain ⟨c, tail, name, start, chars⟩ := assignment.named
  have text : assignment.line ++ rest = c :: (tail ++ '=' :: '"' :: (assignment.raw ++ '"' :: '\n' :: rest)) := by
    simp [Assignment.line, name]
  have noNewline : c ≠ '\n' := by
    rintro rfl
    exact absurd start (by decide)
  have noHash : c ≠ '#' := by
    rintro rfl
    exact absurd start (by decide)
  have taken : (tail ++ '=' :: '"' :: (assignment.raw ++ '"' :: '\n' :: rest)).takeWhile isNameChar = tail := by
    rw [List.takeWhile_append_of_pos chars, List.takeWhile_cons_of_neg (by decide), List.append_nil]
  have dropped : (tail ++ '=' :: '"' :: (assignment.raw ++ '"' :: '\n' :: rest)).dropWhile isNameChar =
      '=' :: '"' :: (assignment.raw ++ '"' :: '\n' :: rest) := by
    rw [List.dropWhile_append_of_pos chars, List.dropWhile_cons_of_neg (by decide)]
  have whole : String.ofList (c :: tail) = assignment.name := by rw [← name, String.ofList_toList]
  rw [text, sourceFrom, if_neg noNewline, if_neg noHash, if_pos start, dropped]
  simp only [taken, whole]
  cases quoted shell env fuel (assignment.raw ++ '"' :: '\n' :: rest) <;> rfl

/-- The variables after the lines of a file. -/
def assigned (env : Variables) (lines : List Assignment) : Variables :=
  lines.foldl (fun env line => Function.update env line.name line.text) env

theorem assigned_of_not_mem {lines : List Assignment} {name : String} (other : ∀ line ∈ lines, line.name ≠ name) :
    assigned env lines name = env name := by
  induction lines generalizing env with
  | nil => rfl
  | cons line lines ih =>
    exact (ih fun next member => other next (List.mem_cons_of_mem _ member)).trans
      (Function.update_of_ne (other line List.mem_cons_self).symm _ _)

theorem assigned_of_mem {lines : List Assignment} (distinct : (lines.map Assignment.name).Nodup) {line : Assignment}
    (member : line ∈ lines) : assigned env lines line.name = line.text := by
  induction lines generalizing env with
  | nil => cases member
  | cons first lines ih =>
    rw [List.map_cons, List.nodup_cons] at distinct
    rcases List.mem_cons.mp member with rfl | inTail
    · have later := @assigned_of_not_mem (Function.update env line.name line.text) lines line.name fun next inLines sameName =>
        distinct.1 (List.mem_map.mpr ⟨next, inLines, sameName⟩)
      exact later.trans (Function.update_self _ _ _)
    · exact ih distinct.2 inTail

/-- Every shell reads lines without expansions as they are. -/
theorem sourceFrom_inert {lines : List Assignment} (isInert : ∀ line ∈ lines, inert line.text = true) {fuel : Nat}
    (enough : (lines.flatMap Assignment.line).length < fuel) :
    sourceFrom shell fuel env (lines.flatMap Assignment.line) = some { env := assigned env lines, ran := false } := by
  induction lines generalizing env fuel with
  | nil =>
    obtain ⟨fuel, rfl⟩ := Nat.exists_eq_succ_of_ne_zero (Nat.ne_of_gt enough)
    rfl
  | cons line lines ih =>
    rw [List.flatMap_cons, List.length_append] at enough
    have room : line.raw.length + 4 ≤ line.line.length := by simp [Assignment.line]
    obtain ⟨fuel, rfl⟩ : ∃ n, fuel = n + 2 := ⟨fuel - 2, by omega⟩
    have word := @quoted_written shell env line.raw line.text line.written (isInert line List.mem_cons_self)
      ('\n' :: lines.flatMap Assignment.line) (fuel + 1) (by omega)
    rw [List.flatMap_cons, sourceFrom_line, word, Option.bind_some]
    refine (if_pos rfl).trans ?_
    rw [sourceFrom_newline, ih (fun other member => isInert other (List.mem_cons_of_mem _ member)) (by omega)]
    rfl

/-- The first line of a file that a bare shell has read. -/
theorem first_of_sourceFrom {line : Assignment} {lines : List Assignment} {done : Sourced}
    (sourced : sourceFrom bare fuel env ((line :: lines).flatMap Assignment.line) = some done) :
    ∃ word fuel' done', Reading env line.text ('\n' :: lines.flatMap Assignment.line) word ∧
      sourceFrom bare fuel' (Function.update env line.name word.text) (lines.flatMap Assignment.line) = some done' ∧
      done.env = done'.env := by
  cases fuel with
  | zero => cases sourced
  | succ fuel =>
    rw [List.flatMap_cons, sourceFrom_line, Option.bind_eq_some_iff] at sourced
    obtain ⟨word, read, sourced⟩ := sourced
    have reading := reading_of_quoted line.written read
    split at sourced
    · rw [Option.map_eq_some_iff] at sourced
      obtain ⟨done', later, rfl⟩ := sourced
      rw [reading.rest] at later
      cases fuel with
      | zero => cases later
      | succ fuel => exact ⟨word, fuel, done', reading, later, rfl⟩
    · cases sourced

/-- A variable that no line is about keeps its value. -/
theorem env_of_sourceFrom {lines : List Assignment} {name : String} (other : ∀ line ∈ lines, line.name ≠ name)
    {done : Sourced} (sourced : sourceFrom bare fuel env (lines.flatMap Assignment.line) = some done) :
    done.env name = env name := by
  induction lines generalizing env fuel done with
  | nil =>
    cases fuel with
    | zero => cases sourced
    | succ fuel =>
      cases sourced
      rfl
  | cons line lines ih =>
    obtain ⟨word, fuel', done', _, later, same⟩ := first_of_sourceFrom sourced
    rw [same, ih (fun next member => other next (List.mem_cons_of_mem _ member)) later,
      Function.update_of_ne (other line List.mem_cons_self).symm]

/-- The characters of the variables come from the lines and from the variables before. -/
theorem mem_of_sourceFrom {lines : List Assignment} {done : Sourced}
    (sourced : sourceFrom bare fuel env (lines.flatMap Assignment.line) = some done) {name : String} {c : Char}
    (member : c ∈ done.env name) : (∃ line ∈ lines, c ∈ line.text) ∨ ∃ other, c ∈ env other := by
  induction lines generalizing env fuel done with
  | nil =>
    cases fuel with
    | zero => cases sourced
    | succ fuel =>
      cases sourced
      exact .inr ⟨name, member⟩
  | cons line lines ih =>
    obtain ⟨word, fuel', done', reading, later, same⟩ := first_of_sourceFrom sourced
    rcases ih later (same ▸ member) with ⟨next, inLines, inText⟩ | ⟨other, inEnv⟩
    · exact .inl ⟨next, List.mem_cons_of_mem _ inLines, inText⟩
    · by_cases this : other = line.name
      · rw [this, Function.update_self] at inEnv
        exact (reading.known c inEnv).imp_left fun inText => ⟨line, List.mem_cons_self, inText⟩
      · rw [Function.update_of_ne this] at inEnv
        exact .inr ⟨other, inEnv⟩

/-- A bare shell with tame variables that leaves every variable with the text of its line has met no
    expansion. -/
theorem inert_of_sourceFrom (tame : Tame env) {lines : List Assignment} (distinct : (lines.map Assignment.name).Nodup)
    {done : Sourced} (sourced : sourceFrom bare fuel env (lines.flatMap Assignment.line) = some done)
    (restored : ∀ line ∈ lines, done.env line.name = line.text) : ∀ line ∈ lines, inert line.text = true := by
  induction lines generalizing env fuel done with
  | nil => exact fun _ member => absurd member List.not_mem_nil
  | cons line lines ih =>
    obtain ⟨word, fuel', done', reading, later, same⟩ := first_of_sourceFrom sourced
    rw [List.map_cons, List.nodup_cons] at distinct
    have kept := env_of_sourceFrom (fun next member sameName => distinct.1 (List.mem_map.mpr ⟨next, member, sameName⟩)) later
    have wordText : word.text = line.text := by
      rw [← restored line List.mem_cons_self, same, kept, Function.update_self]
    have isInert : inert line.text = true := by
      rcases reading.read tame with ⟨isInert, _⟩ | shrunk
      · exact isInert
      · exact absurd wordText shrunk.ne
    have tameLater : Tame (Function.update env line.name word.text) := by
      intro name
      by_cases this : name = line.name
      · rw [this, Function.update_self, wordText, isInert]
      · rw [Function.update_of_ne this, tame name]
    intro next member
    rcases List.mem_cons.mp member with rfl | inTail
    · exact isInert
    · exact ih tameLater distinct.2 later
        (fun other among => by rw [← same]; exact restored other (List.mem_cons_of_mem _ among)) next inTail

end Shell

end ZeroNvr.Lib
