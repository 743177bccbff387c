import ZeroNvr.Backups.RecoveryKit

/-! # Reading the deployment environment

`env_get` of the deployment scripts: the last line of the file that begins with the
key, without a carriage return at its end and without the quotes around its value.
-/

namespace ZeroNvr.EnvFile

open RecoveryKitService (unlines)

/-- A pattern of one quote, anything, and the quote again. -/
def enclosed (quote : Char) (value : List Char) : Bool :=
  2 ≤ value.length && value.head? = some quote && value.getLast? = some quote

/-- `${value:1:${#value}-2}`. -/
def inner (value : List Char) : List Char := (value.drop 1).dropLast

/-- What `env_get` prints; `file` is the environment file, if there is one. -/
def envGet (file : Option (List Char)) (key fallback : List Char) : List Char :=
  match file with
  | none => fallback
  | some text =>
    match ((text.splitOn '\n').filter fun line => (key ++ ['=']).isPrefixOf line).getLast? with
    | none => fallback
    | some line =>
      let value := (line.dropWhile (· ≠ '=')).drop 1
      let value := if value.getLast? = some '\r' then value.dropLast else value
      if enclosed '"' value ∨ enclosed '\'' value then inner value else value

/-! ## A file of assignments -/

theorem splitOn_unlines {lines : List (List Char)} (single : ∀ line ∈ lines, '\n' ∉ line) :
    (unlines lines).splitOn '\n' = lines ++ [[]] := by
  have joined : unlines lines = ['\n'].intercalate (lines ++ [[]]) := by
    induction lines with
    | nil => rfl
    | cons line lines ih =>
      have later := ih fun other member => single other (List.mem_cons_of_mem _ member)
      have shape : ['\n'].intercalate (line :: lines ++ [[]]) = line ++ '\n' :: ['\n'].intercalate (lines ++ [[]]) := by
        cases lines <;> simp [List.intercalate]
      rw [shape, ← later]
      simp [unlines]
  rw [joined, List.splitOn_intercalate]
  · intro line member
    rcases List.mem_append.mp member with inLines | isLast
    · exact single line inLines
    · rw [List.mem_singleton.mp isLast]
      exact List.not_mem_nil
  · simp

/-- `KEY=value`. -/
def entry (item : List Char × List Char) : List Char := item.1 ++ '=' :: item.2

/-- A line belongs to a key when it begins with that key. -/
theorem isPrefixOf_line {key other value : List Char} (noEquals : '=' ∉ key) (noEqualsOther : '=' ∉ other) :
    (key ++ ['=']).isPrefixOf (other ++ '=' :: value) = decide (key = other) := by
  by_cases same : key = other
  · subst same
    simp
  · rw [decide_eq_false same, Bool.eq_false_iff]
    intro isPrefix
    obtain ⟨rest, shape⟩ := List.isPrefixOf_iff_prefix.mp isPrefix
    rw [List.append_assoc] at shape
    rcases List.append_eq_append_iff.mp shape with ⟨middle, otherEq, restEq⟩ | ⟨middle, keyEq, restEq⟩
    · cases middle with
      | nil => exact same (by simpa using otherEq.symm)
      | cons c middle =>
        obtain ⟨rfl, _⟩ := List.cons.inj restEq
        exact noEqualsOther (by rw [otherEq]; simp)
    · cases middle with
      | nil => exact same (by simpa using keyEq)
      | cons c middle =>
        obtain ⟨rfl, _⟩ := List.cons.inj restEq
        exact noEquals (by rw [keyEq]; simp)

/-- The value of a key that one line of a file is about. -/
theorem envGet_unlines {comment : List Char} {items : List (List Char × List Char)} (noComment : comment.head? = some '#')
    (keys : ∀ item ∈ items, '=' ∉ item.1 ∧ item.1.head?.all (· ≠ '#') ∧ item.1 ≠ [])
    (single : ∀ line ∈ comment :: items.map entry, '\n' ∉ line)
    (distinct : (items.map Prod.fst).Nodup) {item : List Char × List Char} (member : item ∈ items)
    (noReturn : item.2.getLast? ≠ some '\r') (fallback : List Char) :
    envGet (some (unlines (comment :: items.map entry))) item.1 fallback =
      if enclosed '"' item.2 ∨ enclosed '\'' item.2 then inner item.2 else item.2 := by
  obtain ⟨noEquals, noHash, nonempty⟩ := keys item member
  have commentOut : (item.1 ++ ['=']).isPrefixOf comment = false := by
    rw [Bool.eq_false_iff]
    intro isPrefix
    obtain ⟨rest, shape⟩ := List.isPrefixOf_iff_prefix.mp isPrefix
    rw [← shape] at noComment
    cases key : item.1 with
    | nil => exact nonempty key
    | cons c key' =>
      rw [key] at noComment noHash
      simp only [List.cons_append, List.head?_cons, Option.some.injEq] at noComment
      simp [noComment] at noHash
  have found : ((comment :: items.map entry) ++ [[]]).filter
      (fun line => (item.1 ++ ['=']).isPrefixOf line) = [entry item] := by
    have last : (item.1 ++ ['=']).isPrefixOf ([] : List Char) = false := by
      cases item.1 <;> rfl
    rw [List.filter_append, List.filter_cons_of_neg (by simp [commentOut]), List.filter_cons_of_neg (by simp [last]),
      List.filter_nil, List.append_nil, List.filter_map]
    have only : items.filter ((fun line => (item.1 ++ ['=']).isPrefixOf line) ∘ entry) = [item] := by
      have same : ∀ other ∈ items, ((fun line => (item.1 ++ ['=']).isPrefixOf line) ∘ entry) other =
          decide (other = item) := by
        intro other inItems
        rw [Function.comp_apply, entry, isPrefixOf_line noEquals (keys other inItems).1]
        refine decide_eq_decide.mpr ⟨fun sameKey => ?_, fun isItem => by rw [isItem]⟩
        exact List.inj_on_of_nodup_map distinct inItems member sameKey.symm
      rw [List.filter_congr same]
      have once := List.Nodup.of_map _ distinct
      rw [List.filter_eq, List.count_eq_one_of_mem once member]
      rfl
    rw [only]
    rfl
  have value : ((entry item).dropWhile (· ≠ '=')).drop 1 = item.2 := by
    rw [entry, List.dropWhile_append_of_pos, List.dropWhile_cons_of_neg (by simp)]
    · rfl
    · exact fun c inKey => decide_eq_true fun isEquals => noEquals (isEquals ▸ inKey)
  rw [envGet, splitOn_unlines single, found]
  simp only [List.getLast?_singleton, value, if_neg noReturn]

end ZeroNvr.EnvFile
