import PageWalk.Locator.Target
import PageWalk.Proofs.XPath

/-!
# Parts of texts in any case

`test?` is the value that XPath 1.0 gives a condition `contains(translate(normalize-space(.), ...), ...)`
on an element with a given text. The part is written in its lower-case form, while the text of the element
goes through a table of the letters A to Z. Main statement: elements whose normalized text holds the part
are found for sure just if the part has no other characters with a lower-case form.
-/

namespace PageWalk

set_option autoImplicit false

namespace Text

/-- Lower-casing changes it as a letter of ASCII or not at all. -/
def HasAsciiCase (c : Char) : Prop :=
  c.toNat < 0x80 ∨ lower [c] = [c]
  deriving Decidable

/-- What stands for a character in the lower-case form, given the characters around it. -/
def lowerAt (before : List Char) (c : Char) (rest : List Char) : List Char :=
  if c = 'Σ' then [if reachesCased before && !reachesCased rest then 'ς' else 'σ'] else lowerChar c

variable {c : Char} {s : List Char}

theorem lowerFrom_cons (before : List Char) (c : Char) (rest : List Char) :
    lowerFrom before (c :: rest) = lowerAt before c rest ++ lowerFrom (c :: before) rest := by
  rw [lowerFrom, lowerAt]
  split
  · rfl
  · rfl

theorem asciiLower_of_le (h : 0x80 ≤ c.toNat) : asciiLower c = c := by
  apply if_neg
  rintro ⟨_, upper⟩
  have small : c.toNat ≤ 'Z'.toNat := upper
  have code : 'Z'.toNat = 90 := rfl
  omega

theorem lowerChar_eq_singleton (h : c ≠ '\u0130') : ∃ d, lowerChar c = [d] := by
  rw [lowerChar, if_neg h]
  split
  · exact ⟨_, rfl⟩
  · split
    · exact ⟨_, rfl⟩
    · exact ⟨_, rfl⟩

theorem exists_lowerAt (before : List Char) (c : Char) (rest : List Char) : ∃ first more,
    lowerAt before c rest = first :: more ∧ (first = asciiLower c ↔ HasAsciiCase c) ∧
      (first = asciiLower c → more = []) := by
  -- a sigma depends on its neighbours, a dotted capital I becomes two characters, all others become one
  by_cases sigma : c = 'Σ'
  · subst sigma
    refine ⟨_, [], if_pos rfl, iff_of_false ?_ (by decide +kernel), fun _ => rfl⟩
    split
    · decide
    · decide
  by_cases dotted : c = '\u0130'
  · subst dotted
    exact ⟨'i', ['\u0307'], rfl, iff_of_false (by decide) (by decide +kernel),
      fun same => absurd same (by decide)⟩
  obtain ⟨d, image⟩ := lowerChar_eq_singleton dotted
  have alone : lower [c] = [d] := by
    rw [lower, lowerFrom, if_neg sigma, image]
    rfl
  refine ⟨d, [], by rw [lowerAt, if_neg sigma, image], ?_, fun _ => rfl⟩
  rw [HasAsciiCase, alone, List.cons.injEq, and_iff_left rfl]
  by_cases ascii : c.toNat < 0x80
  · rw [lowerChar, if_pos ascii] at image
    exact iff_of_true (List.cons.inj image).1.symm (.inl ascii)
  · rw [asciiLower_of_le (Nat.le_of_not_lt ascii), or_iff_right ascii]

theorem lowerFrom_eq_map_iff (before s : List Char) :
    lowerFrom before s = s.map asciiLower ↔ ∀ c ∈ s, HasAsciiCase c := by
  induction s generalizing before with
  | nil => exact iff_of_true rfl (List.forall_mem_nil _)
  | cons c rest ih =>
    obtain ⟨first, more, image, same, alone⟩ := exists_lowerAt before c rest
    rw [lowerFrom_cons, image, List.cons_append, List.map_cons, List.cons.injEq, List.forall_mem_cons,
      ← ih (c :: before), same]
    refine and_congr_right fun ascii => ?_
    rw [alone (same.mpr ascii), List.nil_append]

theorem length_le_lowerFrom (before s : List Char) : s.length ≤ (lowerFrom before s).length := by
  induction s generalizing before with
  | nil => exact Nat.le_refl 0
  | cons c rest ih =>
    obtain ⟨first, more, image, _, _⟩ := exists_lowerAt before c rest
    have later := ih (c :: before)
    rw [lowerFrom_cons, image, List.length_append, List.length_cons, List.length_cons]
    omega

/-- A text holds its lower-case form up to ASCII letters only if it is that form. -/
theorem lower_infix_map_iff : lower s <:+: s.map asciiLower ↔ ∀ c ∈ s, HasAsciiCase c := by
  rw [← lowerFrom_eq_map_iff []]
  constructor
  · intro within
    apply within.eq_of_length_le
    rw [List.length_map]
    exact length_le_lowerFrom [] s
  · intro same
    simp only [lower, same, List.infix_rfl]

end Text

namespace XPath

open Text (after? asciiLower lower occursIn HasAsciiCase)

section Meaning

/-- What `translate` makes of a character: the one at its place in the second table, or nothing where that is
too short. -/
def imageOf (source image : List Char) (c : Char) : List Char :=
  match source.idxOf? c with
  | some i => image[i]?.toList
  | none => [c]

def translated (source image s : List Char) : List Char :=
  s.flatMap (imageOf source image)

/-- The value of `translate(normalize-space(.), ...)` on an element with this text, and what follows it. -/
def readTranslated (text s : List Char) : Option (List Char × List Char) := do
  let rest ← after? "translate(normalize-space(.), ".toList s
  let (source, rest) ← read rest
  let rest ← after? ", ".toList rest
  let (image, rest) ← read rest
  let rest ← after? [')'] rest
  some (translated source image (normalized text), rest)

/-- The value of `contains(translate(normalize-space(.), ...), ...)` on an element with this text. -/
def test? (condition text : List Char) : Option Bool := do
  let rest ← after? "contains(".toList condition
  let (whole, rest) ← readTranslated text rest
  let rest ← after? ", ".toList rest
  let (part, rest) ← read rest
  if rest = [')'] then some (occursIn part whole) else none

def capitals : List Char := "ABCDEFGHIJKLMNOPQRSTUVWXYZ".toList

def smallLetters : List Char := "abcdefghijklmnopqrstuvwxyz".toList

theorem imageOf_capitals (c : Char) : imageOf capitals smallLetters c = [asciiLower c] := by
  by_cases small : c.toNat < 0x80
  · exact Text.forall_ascii (by decide +kernel) c small
  · have all : capitals.all (fun d => d.toNat < 0x80) = true := by decide +kernel
    have other : c ∉ capitals := fun there => small (of_decide_eq_true (List.all_eq_true.mp all c there))
    rw [imageOf, List.idxOf?_eq_none_iff.mpr other, Text.asciiLower_of_le (Nat.le_of_not_lt small)]

theorem translated_capitals (s : List Char) :
    translated capitals smallLetters s = s.map asciiLower := by
  rw [translated, List.map_eq_flatMap, funext imageOf_capitals]

theorem test?_textPart (part text : List Char) : test? (Target.textPart part).toList text =
    some (occursIn (lower part) ((normalized text).map asciiLower)) := by
  have upper : Target.upperLetters.toList = literalChars capitals := by decide +kernel
  have lower : Target.lowerLetters.toList = literalChars smallLetters := by decide +kernel
  have written : (Target.textPart part).toList = "contains(".toList ++
      ("translate(normalize-space(.), ".toList ++ (literalChars capitals ++ (", ".toList ++
        (literalChars smallLetters ++ ([')'] ++ (", ".toList ++
          (literalChars (Text.lower part) ++ [')']))))))) := by
    have start : "contains(translate(normalize-space(.), ".toList =
        "contains(".toList ++ "translate(normalize-space(.), ".toList := rfl
    have between : "), ".toList = [')'] ++ ", ".toList := rfl
    have close : ")".toList = [')'] := rfl
    have inner : (String.ofList (literalChars (Text.lower part))).toList =
        literalChars (Text.lower part) := String.toList_ofList
    unfold Target.textPart
    simp only [String.toList_append, upper, lower, start, between, close, inner, List.append_assoc]
  rw [written, test?, Text.after?_append]
  simp only [readTranslated, Option.bind_eq_bind, Option.bind_some, Text.after?_append,
    read_literalChars, if_pos, translated_capitals]

end Meaning

section Found

variable {s t : List Char} {x y : Char}

theorem infix_of_infix_between (first : s.head? ≠ some x) (last : s.getLast? ≠ some y)
    (within : s <:+: x :: (t ++ [y])) : s <:+: t := by
  by_cases empty : s = []
  · exact empty ▸ List.nil_infix
  rcases List.infix_cons_iff.mp within with ⟨after, whole⟩ | later
  · rw [← List.head?_append_of_ne_nil s empty, whole] at first
    exact absurd rfl first
  rcases List.infix_concat_iff.mp later with ⟨before, whole⟩ | between
  · rw [← List.getLast?_append_of_ne_nil before empty, whole, List.getLast?_concat] at last
    exact absurd rfl last
  · exact between

theorem exists_letter_ne (o : Option Char) :
    ∃ c, isSpace c = false ∧ asciiLower c = c ∧ o ≠ some c := by
  by_cases a : o = some 'a'
  · refine ⟨'b', rfl, by decide, ?_⟩
    rw [a]
    decide
  · exact ⟨'a', rfl, by decide, a⟩

/-- An even text stands in a normalized one between two letters that are not at the ends of another text. -/
theorem exists_normalized_around (even : IsEven t) (s : List Char) : ∃ text,
    t <:+: normalized text ∧
      (s <:+: (normalized text).map asciiLower → s <:+: t.map asciiLower) := by
  obtain ⟨x, letter, small, first⟩ := exists_letter_ne s.head?
  obtain ⟨y, letter', small', last⟩ := exists_letter_ne s.getLast?
  have same : normalized (x :: (t ++ [y])) = x :: (t ++ [y]) := by
    rw [normalized, stripped_between letter letter', collapsed_eq_self_iff, isEven_cons, letter]
    exact ⟨fun space => absurd space Bool.false_ne_true, even.concat letter'⟩
  refine ⟨x :: (t ++ [y]), ?_, fun within => ?_⟩
  · rw [same]
    exact (List.prefix_append t [y]).isInfix.trans (List.suffix_cons x _).isInfix
  · rw [same, List.map_cons, List.map_append, List.map_singleton, small, small'] at within
    exact infix_of_infix_between first last within

/-- A part is found in each text that holds it just if it stands in none or its case is that of ASCII. -/
theorem test?_of_infix_iff (part : List Char) :
    (∀ text, part <:+: normalized text → test? (Target.textPart part).toList text = some true) ↔
      (IsEven part → ∀ c ∈ part, HasAsciiCase c) := by
  simp only [test?_textPart, Option.some.injEq, Text.occursIn_iff]
  rw [← Text.lower_infix_map_iff]
  constructor
  · intro found even
    obtain ⟨text, holds, kept⟩ := exists_normalized_around even (lower part)
    exact kept (found text holds)
  · intro same text holds
    have even : IsEven part := IsEven.of_infix (isEven_collapsed _) holds
    exact (same even).trans (holds.map asciiLower)

end Found

end XPath

namespace Target

open XPath (IsEven normalized test?)

theorem ofSelector_part {part : String} (bare : Text.isQuoted part.toList = false) :
    ofSelector ("text=" ++ part) = innermost (textPart part.toList) := by
  have other : Text.after? "xpath=".toList ("text=".toList ++ part.toList) = none := rfl
  have path : ("//".toList.isPrefixOf ("text=".toList ++ part.toList) ||
      "(//".toList.isPrefixOf ("text=".toList ++ part.toList)) = false := rfl
  rw [ofSelector, String.toList_append, other, path, Text.after?_append, if_neg Bool.false_ne_true]
  change ofText part.toList = _
  rw [ofText, bare, if_neg Bool.false_ne_true]

/-- A text that holds the part is sure to be found just if lower-casing changes no characters of the part
beyond ASCII. -/
theorem part_found_iff (part : String) (bare : Text.isQuoted part.toList = false) :
    ∃ condition, ofSelector ("text=" ++ part) = innermost condition ∧
      (∀ text, test? condition.toList text =
        some (Text.occursIn (Text.lower part.toList) ((normalized text).map Text.asciiLower))) ∧
      ((∀ text, part.toList <:+: normalized text → test? condition.toList text = some true) ↔
        (IsEven part.toList → ∀ c ∈ part.toList, c.toNat < 0x80 ∨ Text.lower [c] = [c])) :=
  ⟨_, ofSelector_part bare, XPath.test?_textPart part.toList, XPath.test?_of_infix_iff part.toList⟩

theorem part_found_iff_sharp : Text.isQuoted "Straße 5".toList = false ∧
    ∃ condition, ofSelector "text=Straße 5" = innermost condition ∧
      ∀ text, "Straße 5".toList <:+: normalized text → test? condition.toList text = some true := by
  have bare : Text.isQuoted "Straße 5".toList = false := by decide +kernel
  have kept : "Straße 5".toList.all (fun c => c.toNat < 0x80 ∨ Text.lower [c] = [c]) = true := by
    decide +kernel
  obtain ⟨condition, selected, _, found⟩ := part_found_iff "Straße 5" bare
  refine ⟨bare, condition, selected, found.mpr fun _ c there => ?_⟩
  exact of_decide_eq_true (List.all_eq_true.mp kept c there)

/-- The capital É becomes é in the selector, but stays as it is in the text of the page. -/
theorem part_not_found_accented : ofSelector "text=École" = innermost (textPart "École".toList) ∧
    "École".toList <:+: normalized "École de Paris".toList ∧
      test? (textPart "École".toList).toList "École de Paris".toList = some false := by
  decide +kernel

end Target

end PageWalk
