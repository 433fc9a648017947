import PageWalk.Proofs.Lines
import PageWalk.TestSource.Statement

/-!
# Reading the literals of a test

How the test language reads a text between single quotes, and a regular expression all of whose syntax
characters are escaped. Both give back what was written: a literal any text, and a pattern the text for
whose places it looks.
-/

namespace PageWalk.TestSource

set_option autoImplicit false

section Literals

/-- What a backslash and a character stand for. -/
def escape? (c : Char) : Option Char :=
  if c = '\\' ∨ c = '\'' then some c
  else if c = 'n' then some '\n'
  else if c = 'r' then some '\r'
  else none

/-- The text up to the closing quote, and what follows it. No line may end before the quote. -/
def readQuoted : List Char → Option (List Char × List Char)
  | [] => none
  | '\'' :: rest => some ([], rest)
  | '\\' :: c :: rest => do
    let value ← escape? c
    let (text, rest) ← readQuoted rest
    some (value :: text, rest)
  | c :: rest =>
    if c = '\\' ∨ c = '\n' ∨ c = '\r' then none
    else (readQuoted rest).map fun (text, rest) => (c :: text, rest)

def readLiteral : List Char → Option (List Char × List Char)
  | '\'' :: rest => readQuoted rest
  | _ => none

variable {c value : Char}

theorem readQuoted_escape (h : escape? c = some value) (rest : List Char) :
    readQuoted ('\\' :: c :: rest) =
      (readQuoted rest).map fun (text, rest) => (value :: text, rest) := by
  rw [readQuoted, h]
  cases readQuoted rest <;> rfl

theorem readQuoted_plain (quote : c ≠ '\'') (slash : c ≠ '\\') (rest : List Char) :
    readQuoted (c :: rest) =
      if c = '\n' ∨ c = '\r' then none
      else (readQuoted rest).map fun (text, rest) => (c :: text, rest) := by
  rw [readQuoted]
  · simp only [slash, false_or]
  · exact quote
  · intro d more same
    exact absurd same slash

theorem readQuoted_escaped (c : Char) (rest : List Char) :
    readQuoted (escaped c ++ rest) =
      (readQuoted rest).map fun (text, rest) => (c :: text, rest) := by
  unfold escaped
  split
  · next slash =>
    subst slash
    exact readQuoted_escape rfl rest
  split
  · next quote =>
    subst quote
    exact readQuoted_escape rfl rest
  split
  · next feed =>
    subst feed
    exact readQuoted_escape rfl rest
  split
  · next ret =>
    subst ret
    exact readQuoted_escape rfl rest
  · next slash quote feed ret =>
    rw [List.singleton_append, readQuoted_plain quote slash, if_neg (not_or.mpr ⟨feed, ret⟩)]

theorem readLiteral_literalChars (s rest : List Char) :
    readLiteral (literalChars s ++ rest) = some (s, rest) := by
  have body : readQuoted (s.flatMap escaped ++ '\'' :: rest) = some (s, rest) := by
    induction s with
    | nil => rfl
    | cons c s ih =>
      rw [List.flatMap_cons, List.append_assoc, readQuoted_escaped, ih]
      rfl
  rw [literalChars, List.cons_append, List.append_assoc]
  exact body

theorem toList_literal (s : String) : (literal s).toList = literalChars s.toList :=
  String.toList_ofList

/-- With nothing but quotes and backslashes escaped, a text is read if it is within one line. -/
theorem readQuoted_backslashed (s rest : List Char) :
    readQuoted (Text.backslashed ['\\', '\''] s ++ '\'' :: rest) =
      if Text.Unbroken s then some (s, rest) else none := by
  induction s with
  | nil => rfl
  | cons c s ih =>
    simp only [Text.unbroken_cons_iff]
    by_cases marked : c ∈ ['\\', '\'']
    · have slash_or_quote : c = '\\' ∨ c = '\'' := by simpa using marked
      have known : escape? c = some c := if_pos slash_or_quote
      have inner : ¬ (c = '\n' ∨ c = '\r') := by
        rcases slash_or_quote with rfl | rfl <;> decide
      rw [Text.backslashed_of_mem marked, List.cons_append, List.cons_append,
        readQuoted_escape known, ih]
      simp only [inner, not_false_eq_true, true_and]
      split <;> rfl
    · have plain : c ≠ '\\' ∧ c ≠ '\'' := by simpa using marked
      rw [Text.backslashed_of_not_mem marked, List.cons_append,
        readQuoted_plain plain.2 plain.1, ih]
      by_cases breaks : c = '\n' ∨ c = '\r'
      · rw [if_pos breaks, if_neg fun h => h.1 breaks]
      · simp only [breaks, if_false, not_false_eq_true, true_and]
        split <;> rfl

end Literals

section Patterns

/-- What stands for something else than itself in a regular expression of the test language. -/
def syntaxCharacters : List Char :=
  ['^', '$', '\\', '.', '*', '+', '?', '(', ')', '[', ']', '{', '}', '|']

/-- The text that a pattern of plain and of escaped characters stands for. -/
def readPattern : List Char → Option (List Char)
  | [] => some []
  | '\\' :: c :: rest => if c ∈ syntaxCharacters then (readPattern rest).map (c :: ·) else none
  | c :: rest => if c ∈ syntaxCharacters then none else (readPattern rest).map (c :: ·)

theorem metacharacters_perm : metacharacters.Perm syntaxCharacters := by
  decide

theorem patternChars_eq_flatMap (s : List Char) :
    patternChars s = s.flatMap fun c => if c ∈ syntaxCharacters then ['\\', c] else [c] := by
  simp only [patternChars, metacharacters_perm.mem_iff]

theorem patternChars_eq_backslashed (s : List Char) :
    patternChars s = Text.backslashed syntaxCharacters s :=
  patternChars_eq_flatMap s

theorem readPattern_patternChars (s : List Char) : readPattern (patternChars s) = some s := by
  rw [patternChars_eq_backslashed]
  induction s with
  | nil => rfl
  | cons c s ih =>
    by_cases special : c ∈ syntaxCharacters
    · rw [Text.backslashed_of_mem special, readPattern, if_pos special, ih]
      rfl
    · have other : c ≠ '\\' := by
        rintro rfl
        exact special (by decide)
      rw [Text.backslashed_of_not_mem special, readPattern, if_neg special, ih]
      · rfl
      · intro d more same
        exact absurd same other

/-- Any character would be found in place of a dot that is not escaped. -/
example : readPattern "a\\.b".toList = some "a.b".toList ∧ readPattern "a.b".toList = none := by
  decide

end Patterns

end PageWalk.TestSource
