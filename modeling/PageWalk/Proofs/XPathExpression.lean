import PageWalk.Proofs.Healed
import PageWalk.Proofs.XPath

/-!
# String expressions of XPath

A string expression is a literal or a call of `concat` with at least two of them, with white space between
the tokens where one likes. `Spells.unique`: where a text begins with a spelled expression, the expression
and its end are settled, whatever follows. Main statement: what is written for a text is spelled so and has
that text as its value.
-/

namespace PageWalk.XPath

set_option autoImplicit false

/-- A literal: a text between two marks of one kind, which it does not hold. -/
structure Quotation where
  mark : Char
  text : List Char
  isQuote : isQuote mark = true
  apart : mark ∉ text

def Quotation.chars (q : Quotation) : List Char :=
  q.mark :: (q.text ++ [q.mark])

inductive Expression where
  | literal (q : Quotation)
  | concat (first second : Quotation) (more : List Quotation)

namespace Expression

def value : Expression → List Char
  | literal q => q.text
  | concat first second more => (first :: second :: more).flatMap Quotation.text

end Expression

/-- White space between two tokens. -/
def IsGap (s : List Char) : Prop :=
  ∀ c ∈ s, isSpace c = true

/-- How the other arguments of a call are spelled, to the closing parenthesis. -/
inductive SpellsMore : List Quotation → List Char → Prop where
  | close {gap : List Char} : IsGap gap → SpellsMore [] (gap ++ [')'])
  | comma {gap gap' s : List Char} {q : Quotation} {more : List Quotation} :
    IsGap gap → IsGap gap' → SpellsMore more s →
    SpellsMore (q :: more) (gap ++ ',' :: (gap' ++ (q.chars ++ s)))

inductive Spells : Expression → List Char → Prop where
  | literal (q : Quotation) : Spells (.literal q) q.chars
  | concat {gap gap' s : List Char} {first second : Quotation} {more : List Quotation} :
    IsGap gap → IsGap gap' → SpellsMore (second :: more) s →
    Spells (.concat first second more) ("concat".toList ++ (gap ++ '(' :: (gap' ++ (first.chars ++ s))))

section Unique

variable {gap gap' s s' rest rest' : List Char} {q q' : Quotation} {e e' : Expression}

theorem isSpace_mark (q : Quotation) : isSpace q.mark = false := by
  have quote := q.isQuote
  rw [isQuote, Bool.or_eq_true, decide_eq_true_eq, decide_eq_true_eq] at quote
  rcases quote with single | double
  · rw [single]
    rfl
  · rw [double]
    rfl

theorem IsGap.unique {c d : Char} (hg : IsGap gap) (hg' : IsGap gap') (hc : isSpace c = false)
    (hd : isSpace d = false) (same : gap ++ c :: rest = gap' ++ d :: rest') :
    gap = gap' ∧ c = d ∧ rest = rest' := by
  have dropped (g : List Char) (c : Char) (r : List Char) (h : IsGap g) (hc : isSpace c = false) :
      (g ++ c :: r).dropWhile isSpace = c :: r := by
    rw [List.dropWhile_append_of_pos h, List.dropWhile_cons_of_neg (by rw [hc]; exact Bool.false_ne_true)]
  have later : c :: rest = d :: rest' := by
    rw [← dropped gap c rest hg hc, same, dropped gap' d rest' hg' hd]
  refine ⟨?_, List.cons.inj later⟩
  rw [later] at same
  exact List.append_cancel_right same

theorem Quotation.unique (same : q.chars ++ rest = q'.chars ++ rest') : q = q' ∧ rest = rest' := by
  obtain ⟨mark, text, quote, apart⟩ := q
  obtain ⟨mark', text', quote', apart'⟩ := q'
  rw [chars, chars, List.cons_append, List.cons_append, List.append_assoc, List.append_assoc] at same
  obtain ⟨rfl, inner⟩ := List.cons.inj same
  have cut := Text.splitFirst_append apart rest
  rw [← List.singleton_append, inner, List.singleton_append, Text.splitFirst_append apart'] at cut
  obtain ⟨rfl, rfl⟩ := Prod.mk.inj (Option.some.inj cut)
  exact ⟨rfl, rfl⟩

theorem IsGap.unique_quotation (hg : IsGap gap) (hg' : IsGap gap')
    (same : gap ++ (q.chars ++ rest) = gap' ++ (q'.chars ++ rest')) :
    gap = gap' ∧ q = q' ∧ rest = rest' := by
  obtain ⟨rfl, -, -⟩ := hg.unique hg' (isSpace_mark q) (isSpace_mark q') same
  exact ⟨rfl, Quotation.unique (List.append_cancel_left same)⟩

theorem SpellsMore.unique {more more' : List Quotation} (h : SpellsMore more s)
    (h' : SpellsMore more' s') (same : s ++ rest = s' ++ rest') :
    more = more' ∧ s = s' ∧ rest = rest' := by
  -- the first character that is no white space tells the two ways to go on apart
  induction h generalizing more' s' with
  | close hg =>
    cases h' with
    | close hg' =>
      rw [List.append_assoc, List.append_assoc] at same
      obtain ⟨rfl, -, rfl⟩ := hg.unique hg' rfl rfl same
      exact ⟨rfl, rfl, rfl⟩
    | comma hg' _ _ =>
      rw [List.append_assoc, List.append_assoc] at same
      cases (hg.unique hg' rfl rfl same).2.1
  | comma hg hq _ ih =>
    cases h' with
    | close hg' =>
      rw [List.append_assoc, List.append_assoc] at same
      cases (hg.unique hg' rfl rfl same).2.1
    | comma hg' hq' later =>
      rw [List.append_assoc, List.append_assoc, List.cons_append, List.cons_append,
        List.append_assoc, List.append_assoc, List.append_assoc, List.append_assoc] at same
      obtain ⟨rfl, -, inner⟩ := hg.unique hg' rfl rfl same
      obtain ⟨rfl, rfl, others⟩ := hq.unique_quotation hq' inner
      obtain ⟨rfl, rfl, rfl⟩ := ih later others
      exact ⟨rfl, rfl, rfl⟩

theorem mark_ne_of_not_isQuote {c : Char} (h : isQuote c = false) (q : Quotation) : q.mark ≠ c := by
  intro same
  have quote := q.isQuote
  rw [same, h] at quote
  cases quote

/-- Where a text begins with a spelled expression, this is the only one, and it ends only there. -/
theorem Spells.unique (h : Spells e s) (h' : Spells e' s') (same : s ++ rest = s' ++ rest') :
    e = e' ∧ s = s' ∧ rest = rest' := by
  cases h with
  | literal q =>
    cases h' with
    | literal q' =>
      obtain ⟨rfl, rfl⟩ := Quotation.unique same
      exact ⟨rfl, rfl, rfl⟩
    | concat _ _ _ => exact absurd (List.cons.inj same).1 (mark_ne_of_not_isQuote rfl q)
  | concat hg hq more =>
    cases h' with
    | literal q' => exact absurd (List.cons.inj same).1.symm (mark_ne_of_not_isQuote rfl q')
    | concat hg' hq' more' =>
      simp only [List.append_assoc, List.cons_append] at same
      obtain ⟨rfl, -, inner⟩ := hg.unique hg' rfl rfl (List.append_cancel_left same)
      obtain ⟨rfl, rfl, others⟩ := hq.unique_quotation hq' inner
      obtain ⟨arguments, rfl, rfl⟩ := more.unique more' others
      obtain ⟨rfl, rfl⟩ := List.cons.inj arguments
      exact ⟨rfl, rfl, rfl⟩

end Unique

section Written

variable {s : List Char}

theorem isGap_nil : IsGap [] :=
  List.forall_mem_nil _

theorem isGap_blank : IsGap [' '] :=
  List.forall_mem_singleton.mpr rfl

/-- The literal of a single quote. -/
def quoteMark : Quotation where
  mark := '"'
  text := ['\'']
  isQuote := rfl
  apart := by decide

/-- The literal of a text without single quotes. -/
def single (s : List Char) (h : '\'' ∉ s) : Quotation where
  mark := '\''
  text := s
  isQuote := rfl
  apart := h

/-- After a comma and a blank, a single quote, and after another comma and a blank, a piece. -/
theorem spellsMore_piece {more : List Quotation} (h : '\'' ∉ s) {rest : List Char}
    (later : SpellsMore more rest) :
    SpellsMore (quoteMark :: single s h :: more) ((comma ++ singleQuoted s) ++ rest) := by
  have spelled := SpellsMore.comma (q := quoteMark) isGap_nil isGap_blank
    (SpellsMore.comma (q := single s h) isGap_nil isGap_blank later)
  exact spelled

theorem exists_spellsMore {pieces : List (List Char)} (h : ∀ piece ∈ pieces, '\'' ∉ piece) :
    ∃ more, SpellsMore more ((pieces.flatMap fun piece => comma ++ singleQuoted piece) ++ [')']) ∧
      more.flatMap Quotation.text = pieces.flatMap fun piece => '\'' :: piece := by
  induction pieces with
  | nil => exact ⟨[], .close isGap_nil, rfl⟩
  | cons piece pieces ih =>
    obtain ⟨here, later⟩ := List.forall_mem_cons.mp h
    obtain ⟨more, spelled, value⟩ := ih later
    refine ⟨quoteMark :: single piece here :: more, ?_, ?_⟩
    · rw [List.flatMap_cons, List.append_assoc]
      exact spellsMore_piece here spelled
    · rw [List.flatMap_cons, List.flatMap_cons, value, List.flatMap_cons]
      rfl

theorem exists_spells (s : List Char) : ∃ e, Spells e (literalChars s) ∧ e.value = s := by
  -- a text with quotes of both kinds has two pieces at least, so `concat` has three arguments
  by_cases quoted : '\'' ∈ s
  · by_cases double : '"' ∈ s
    · obtain ⟨first, next, pieces, apart, whole, written⟩ := exists_pieces quoted double
      obtain ⟨here, later⟩ := List.forall_mem_cons.mp apart
      obtain ⟨between, others⟩ := List.forall_mem_cons.mp later
      obtain ⟨more, spelled, value⟩ := exists_spellsMore others
      refine ⟨.concat (single first here) quoteMark (single next between :: more), ?_, ?_⟩
      · rw [written, List.flatMap_cons, List.append_assoc]
        exact .concat isGap_nil isGap_nil (spellsMore_piece between spelled)
      · rw [← whole, List.flatMap_cons, ← value]
        rfl
    · have form : literalChars s = doubleQuoted s := by
        rw [literalChars, if_neg (not_not_intro quoted), if_pos double]
      rw [form]
      exact ⟨.literal ⟨'"', s, rfl, double⟩, .literal _, rfl⟩
  · have form : literalChars s = singleQuoted s := if_pos quoted
    rw [form]
    exact ⟨.literal (single s quoted), .literal _, rfl⟩

end Written

end PageWalk.XPath

namespace PageWalk

open Target (candidates)

theorem Healing.selector_text (t : String) : (Healing.Replacement.text t.toList).selector =
    "text=\"" ++ String.ofList (Text.backslashed ['"', '\\'] t.toList) ++ "\"" := by
  have opens : "text=\"".toList = "text=".toList ++ ['"'] := rfl
  have closes : "\"".toList = ['"'] := rfl
  have quoted : (String.ofList (Field.quote t.toList)).toList =
      '"' :: (Text.backslashed ['"', '\\'] t.toList ++ ['"']) := String.toList_ofList
  have inner : (String.ofList (Text.backslashed ['"', '\\'] t.toList)).toList =
      Text.backslashed ['"', '\\'] t.toList := String.toList_ofList
  apply String.toList_inj.mp
  rw [Healing.Replacement.selector, String.toList_append, String.toList_append,
    String.toList_append, opens, closes, quoted, inner, List.append_assoc, List.append_assoc,
    List.singleton_append]

theorem Target.innermost_exactText (t : String) : Target.innermost (Target.exactText t.toList) =
    .xpath (candidates ++ "[normalize-space(.)=" ++ XPath.literal t ++
      "][not(.//*[normalize-space(.)=" ++ XPath.literal t ++ "])]") := by
  have opens : "[normalize-space(.)=" = "[" ++ "normalize-space(.)=" := by decide
  have between : "][not(.//*[normalize-space(.)=" = "][not(.//*[" ++ "normalize-space(.)=" := by decide
  have condition : Target.exactText t.toList = "normalize-space(.)=" ++ XPath.literal t := rfl
  rw [Target.innermost, condition, opens, between]
  simp only [String.append_assoc]

/-- What is written for a text is a string expression with that text as its value, which ends where it was
meant to, also within a selector. -/
theorem literal_exact :
    (∀ s : String, ∃ e : XPath.Expression,
      XPath.Spells e (XPath.literal s).toList ∧ e.value = s.toList ∧
        ∀ other spelled rest rest', XPath.Spells other spelled →
          (XPath.literal s).toList ++ rest = spelled ++ rest' →
          other = e ∧ spelled = (XPath.literal s).toList ∧ rest' = rest) ∧
      ∀ t : String,
        (Healing.Replacement.text t.toList).selector =
            "text=\"" ++ String.ofList (Text.backslashed ['"', '\\'] t.toList) ++ "\"" ∧
          Target.ofSelector
              ("text=\"" ++ String.ofList (Text.backslashed ['"', '\\'] t.toList) ++ "\"") =
            .xpath (candidates ++ "[normalize-space(.)=" ++ XPath.literal t ++
              "][not(.//*[normalize-space(.)=" ++ XPath.literal t ++ "])]") := by
  refine ⟨fun s => ?_, fun t => ?_⟩
  · have chars : (XPath.literal s).toList = XPath.literalChars s.toList := String.toList_ofList
    obtain ⟨e, spells, value⟩ := XPath.exists_spells s.toList
    rw [chars]
    refine ⟨e, spells, value, fun other spelled rest rest' spells' same => ?_⟩
    obtain ⟨rfl, rfl, rfl⟩ := spells.unique spells' same
    exact ⟨rfl, rfl, rfl⟩
  · refine ⟨Healing.selector_text t, ?_⟩
    rw [← Healing.selector_text, Healing.ofSelector_text, Target.innermost_exactText]

/-- Quotes of both kinds, one of them at the end, and a tab, for which JSON has no place in a literal. -/
example : Target.ofSelector "text=\"a\\\"\tb'\"" =
    .xpath ("//*[not(self::script or self::style or self::head or self::title)]" ++
      "[normalize-space(.)=concat('a\"\tb', \"'\", '')]" ++
      "[not(.//*[normalize-space(.)=concat('a\"\tb', \"'\", '')])]") := by
  decide +kernel

end PageWalk
