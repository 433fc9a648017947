/-!
# Pieces of text

Operations on lists of characters that the command language, the selectors and the reports share:
splitting at a mark, looking for one text in another, backslash escapes and lines. What a function
cuts apart, its lemma puts together again.
-/

namespace PageWalk.Text

set_option autoImplicit false

/-- The text before the first `mark` and the text after it. -/
def splitFirst (mark : Char) : List Char → Option (List Char × List Char)
  | [] => none
  | c :: rest =>
    if c = mark then some ([], rest)
    else (splitFirst mark rest).map fun (before, after) => (c :: before, after)

theorem append_of_splitFirst {mark : Char} {s before after : List Char}
    (h : splitFirst mark s = some (before, after)) : s = before ++ mark :: after := by
  induction s generalizing before with
  | nil => simp [splitFirst] at h
  | cons c rest ih =>
    by_cases hc : c = mark
    · simp only [splitFirst, hc, if_true, Option.some.injEq, Prod.mk.injEq] at h
      obtain ⟨rfl, rfl⟩ := h
      simp [hc]
    · simp only [splitFirst, if_neg hc, Option.map_eq_some_iff, Prod.exists, Prod.mk.injEq] at h
      obtain ⟨b, a, hs, rfl, rfl⟩ := h
      simp [ih hs]

theorem length_of_splitFirst {mark : Char} {s before after : List Char}
    (h : splitFirst mark s = some (before, after)) : after.length < s.length := by
  rw [append_of_splitFirst h, List.length_append, List.length_cons]
  omega

theorem splitFirst_append {mark : Char} {before : List Char} (h : mark ∉ before)
    (after : List Char) : splitFirst mark (before ++ mark :: after) = some (before, after) := by
  induction before with
  | nil => simp [splitFirst]
  | cons c rest ih =>
    simp only [List.mem_cons, not_or] at h
    simp [splitFirst, Ne.symm h.1, ih h.2]

/-- All pieces between the marks; a text without a mark is one piece. -/
def pieces (mark : Char) : List Char → List (List Char)
  | [] => [[]]
  | c :: rest =>
    if c = mark then [] :: pieces mark rest
    else
      match pieces mark rest with
      | [] => [[c]]
      | piece :: more => (c :: piece) :: more

theorem pieces_ne_nil (mark : Char) (s : List Char) : pieces mark s ≠ [] := by
  cases s with
  | nil => simp [pieces]
  | cons c rest =>
    simp only [pieces]
    split
    · simp
    · split <;> simp

theorem intercalate_pieces (mark : Char) (s : List Char) :
    List.intercalate [mark] (pieces mark s) = s := by
  induction s with
  | nil => rfl
  | cons c rest ih =>
    rw [pieces]
    split
    · next h =>
      cases hp : pieces mark rest with
      | nil => exact absurd hp (pieces_ne_nil mark rest)
      | cons piece more =>
        rw [hp] at ih
        rw [h, List.intercalate_cons_cons, ih]
        rfl
    · split
      · next hp => exact absurd hp (pieces_ne_nil mark rest)
      · next piece more hp =>
        rw [hp] at ih
        cases more with
        | nil => simp_all [List.intercalate]
        | cons p more =>
          rw [List.intercalate_cons_cons] at ih ⊢
          rw [← ih]
          rfl

theorem pieces_append_mark (mark : Char) (s t : List Char) :
    pieces mark (s ++ mark :: t) = pieces mark s ++ pieces mark t := by
  induction s with
  | nil => simp [pieces]
  | cons c s ih =>
    rw [List.cons_append, pieces, pieces, ih]
    split
    · rfl
    · cases first : pieces mark s with
      | nil => exact absurd first (pieces_ne_nil mark s)
      | cons piece more => rfl

theorem pieces_injective (mark : Char) : Function.Injective (pieces mark) :=
  Function.LeftInverse.injective (intercalate_pieces mark)

theorem intercalate_append {mark : Char} {parts more : List (List Char)} (some_part : parts ≠ [])
    (some_more : more ≠ []) : List.intercalate [mark] (parts ++ more) =
      List.intercalate [mark] parts ++ mark :: List.intercalate [mark] more := by
  induction parts with
  | nil => exact absurd rfl some_part
  | cons part rest ih =>
    have behind : rest ++ more ≠ [] := List.append_ne_nil_of_right_ne_nil _ some_more
    rw [List.cons_append, List.intercalate_cons_of_ne_nil behind]
    by_cases only : rest = []
    · rw [only, List.nil_append, List.intercalate_singleton, List.append_assoc,
        List.singleton_append]
    · rw [ih only, List.intercalate_cons_of_ne_nil only, List.append_assoc, List.append_assoc,
        List.append_assoc]

/-- The last pieces of a text are those of what stands behind a mark, or of the whole. -/
theorem pieces_suffix_iff {mark : Char} {s t : List Char} :
    pieces mark s <:+ pieces mark t ↔ t = s ∨ mark :: s <:+ t := by
  constructor
  · rintro ⟨before, whole⟩
    by_cases none : before = []
    · rw [none, List.nil_append] at whole
      exact .inl (pieces_injective mark whole.symm)
    · refine .inr ⟨List.intercalate [mark] before, ?_⟩
      rw [← intercalate_pieces mark t, ← whole, intercalate_append none (pieces_ne_nil mark s),
        intercalate_pieces]
  · rintro (rfl | ⟨before, rfl⟩)
    · exact List.suffix_refl _
    · rw [pieces_append_mark]
      exact List.suffix_append _ _

theorem mem_of_mem_pieces {mark : Char} {s piece : List Char} (h : piece ∈ pieces mark s) {c : Char}
    (hc : c ∈ piece) : c ∈ s := by
  induction s generalizing piece with
  | nil => simp_all [pieces]
  | cons d rest ih =>
    rw [pieces] at h
    split at h
    · rcases List.mem_cons.1 h with rfl | h
      · cases hc
      · exact List.mem_cons_of_mem _ (ih h hc)
    · split at h
      · next hp => exact absurd hp (pieces_ne_nil mark rest)
      · next first more hp =>
        rcases List.mem_cons.1 h with rfl | h
        · rcases List.mem_cons.1 hc with rfl | hc
          · exact List.mem_cons_self
          · exact List.mem_cons_of_mem _ (ih (hp ▸ List.mem_cons_self) hc)
        · exact List.mem_cons_of_mem _ (ih (hp ▸ List.mem_cons_of_mem _ h) hc)

/-- Whether `needle` stands somewhere in the text. -/
def occursIn (needle : List Char) : List Char → Bool
  | [] => needle.isEmpty
  | c :: rest => needle.isPrefixOf (c :: rest) || occursIn needle rest

theorem occursIn_iff {needle s : List Char} : occursIn needle s = true ↔ needle <:+: s := by
  induction s with
  | nil => simp [occursIn]
  | cons c rest ih =>
    rw [occursIn, Bool.or_eq_true, ih, List.infix_cons_iff, List.isPrefixOf_iff_prefix]

/-- What follows `lead` in a text that starts with it. -/
def after? (lead s : List Char) : Option (List Char) :=
  if lead.isPrefixOf s then some (s.drop lead.length) else none

theorem after?_append (lead s : List Char) : after? lead (lead ++ s) = some s := by
  simp [after?]

def backslashed (marks s : List Char) : List Char :=
  s.flatMap fun c => if c ∈ marks then ['\\', c] else [c]

@[simp] theorem backslashed_nil (marks : List Char) : backslashed marks [] = [] := rfl

theorem backslashed_cons (marks : List Char) (c : Char) (s : List Char) :
    backslashed marks (c :: s) =
      (if c ∈ marks then ['\\', c] else [c]) ++ backslashed marks s := rfl

theorem backslashed_of_mem {marks : List Char} {c : Char} (h : c ∈ marks) (s : List Char) :
    backslashed marks (c :: s) = '\\' :: c :: backslashed marks s := by
  rw [backslashed_cons, if_pos h]
  rfl

theorem backslashed_of_not_mem {marks : List Char} {c : Char} (h : c ∉ marks) (s : List Char) :
    backslashed marks (c :: s) = c :: backslashed marks s := by
  rw [backslashed_cons, if_neg h]
  rfl

/-- The lines of a text, each ended by a line feed, with or without a carriage return before it, or by the
end of the text. -/
def lines : List Char → List (List Char)
  | [] => []
  | '\n' :: rest => [] :: lines rest
  | '\r' :: '\n' :: rest => [] :: lines rest
  | c :: rest =>
    match lines rest with
    | [] => [[c]]
    | line :: more => (c :: line) :: more

/-- Each line of a text moved two columns to the right. -/
def indent (s : List Char) : List Char :=
  List.intercalate ['\n'] ((lines s).map fun line => ' ' :: ' ' :: line)

/-- Whether a text begins and ends with a double quote, by two different characters. -/
def isQuoted (s : List Char) : Bool :=
  2 ≤ s.length && s.head? == some '"' && s.getLast? == some '"'

end PageWalk.Text

namespace PageWalk

/-- The texts one after the other, with `between` between two of them. -/
abbrev joined (between : String) (parts : List String) : String :=
  String.intercalate between parts

end PageWalk
