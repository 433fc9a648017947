import PageWalk.Locator.Target
import PageWalk.Proofs.Field
import PageWalk.Proofs.Words
import PageWalk.Proofs.XPath
import PageWalk.Run.Healing
import PageWalk.Text.Character

/-!
# Elements that were healed to

A healed selector is made from a text or an attribute of one of the candidates. Here it is read as a
browser reads it: the text that XPath compares with, or the string of a CSS attribute selector. Main
statement: for which elements the selector says what it was made from.
-/

namespace PageWalk

set_option autoImplicit false

namespace Css

/-- A character as it is read: the ends of lines and of pages are line feeds. -/
def shown (c : Char) : Char :=
  if c = '\r' ∨ c = '\x0c' then '\n' else if c = '\x00' then '\uFFFD' else c

/-- A text as it is read; of a carriage return and a line feed, one is left. -/
def preprocessed : List Char → List Char
  | [] => []
  | c :: rest =>
    if c = '\r' ∧ rest.head? = some '\n' then preprocessed rest else shown c :: preprocessed rest

/-- Where the reader of a string stands. -/
inductive State where
  | plain
  | escape
  /-- In the digits of a code point. -/
  | digits (value count : Nat)

/-- How it goes on after a character. -/
inductive Next where
  | goes (state : State)
  | ends
  | fails

def codePoint (n : Nat) : Char :=
  if n = 0 ∨ 0xD800 ≤ n ∧ n ≤ 0xDFFF ∨ 0x10FFFF < n then '\uFFFD' else Char.ofNat n

/-- What a character adds to a string outside of escapes. -/
def plainStep (c : Char) : List Char × Next :=
  if c = '"' then ([], .ends)
  else if c = '\n' then ([], .fails)
  else if c = '\\' then ([], .goes .escape)
  else ([c], .goes .plain)

def State.step : State → Char → List Char × Next
  | plain, c => plainStep c
  | escape, c =>
    if c = '\n' then ([], .goes .plain)
    else
      match Text.hexValue c with
      | some d => ([], .goes (.digits d 1))
      | none => ([c], .goes .plain)
  | digits value count, c =>
    match if count < 6 then Text.hexValue c else none with
    | some d => ([], .goes (.digits (16 * value + d) (count + 1)))
    | none =>
      if c = ' ' ∨ c = '\t' ∨ c = '\n' then ([codePoint value], .goes .plain)
      else
        let (added, next) := plainStep c
        (codePoint value :: added, next)

/-- The text up to the closing quote, and what follows it. -/
def readFrom : State → List Char → Option (List Char × List Char)
  | _, [] => none
  | state, c :: rest =>
    match state.step c with
    | (added, .goes next) => (readFrom next rest).map fun (text, rest) => (added ++ text, rest)
    | (added, .ends) => some (added, rest)
    | (_, .fails) => none

/-- The value of a text that is one string between double quotes. -/
def string? (s : List Char) : Option (List Char) :=
  match preprocessed s with
  | '"' :: rest =>
    match readFrom .plain rest with
    | some (text, []) => some text
    | _ => none
  | _ => none

/-- The value that an attribute selector asks for. -/
def value? (tag name selector : String) : Option (List Char) := do
  let rest ← Text.after? (tag ++ "[" ++ name ++ "=").toList selector.toList
  if rest.getLast? = some ']' then string? rest.dropLast else none

/-- Characters that cannot stand in a string, or not for themselves. -/
def changed : List Char :=
  ['\n', '\r', '\x0c', '\x00']

section Strings

open PageWalk.Field (quote marks mem_marks)

variable {s : List Char}

theorem preprocessed_cons {c : Char} (h : c = '\r' → s.head? ≠ some '\n') :
    preprocessed (c :: s) = shown c :: preprocessed s := by
  rw [preprocessed, if_neg fun both => h both.1 both.2]

theorem shown_of_mem {c : Char} (h : c ∈ marks) : shown c = c := by
  rcases mem_marks.mp h with rfl | rfl <;> rfl

theorem shown_notMem {c : Char} (h : c ∉ marks) : shown c ∉ marks := by
  unfold shown
  split
  · decide
  split
  · decide
  · exact h

/-- Protecting the marks of a text leaves its line breaks where they are. -/
theorem head?_backslashed_append (s rest : List Char) (h : rest.head? ≠ some '\n') :
    (Text.backslashed marks s ++ rest).head? = some '\n' ↔ s.head? = some '\n' := by
  cases s with
  | nil => exact iff_of_false h (by simp)
  | cons c s =>
    by_cases marked : c ∈ marks
    · rw [Text.backslashed_of_mem marked]
      refine iff_of_false (by simp) ?_
      rintro ⟨⟩
      exact absurd marked (by decide)
    · rw [Text.backslashed_of_not_mem marked]
      simp

theorem preprocessed_backslashed (s : List Char) :
    preprocessed (Text.backslashed marks s ++ ['"']) =
      Text.backslashed marks (preprocessed s) ++ ['"'] := by
  -- a backslash stands only before a mark, so it never parts a carriage return and a line feed
  induction s with
  | nil => rfl
  | cons c s ih =>
    by_cases marked : c ∈ marks
    · have other : c ≠ '\r' := by
        rintro rfl
        exact absurd marked (by decide)
      rw [Text.backslashed_of_mem marked, List.cons_append, List.cons_append,
        preprocessed_cons (by rintro ⟨⟩), preprocessed_cons fun same => absurd same other, ih,
        preprocessed_cons fun same => absurd same other, shown_of_mem marked,
        Text.backslashed_of_mem marked]
      rfl
    · have next := head?_backslashed_append s ['"'] (by decide)
      rw [Text.backslashed_of_not_mem marked, List.cons_append, preprocessed, preprocessed]
      simp only [next, ih]
      split
      · rfl
      · rw [Text.backslashed_of_not_mem (shown_notMem marked), List.cons_append]

theorem preprocessed_quote (s : List Char) :
    preprocessed (quote s) = quote (preprocessed s) := by
  rw [quote, preprocessed_cons (by rintro ⟨⟩), preprocessed_backslashed]
  rfl

theorem readFrom_goes {state next : State} {c : Char} {added : List Char}
    (h : state.step c = (added, .goes next)) (rest : List Char) :
    readFrom state (c :: rest) = (readFrom next rest).map fun (text, rest) => (added ++ text, rest) := by
  rw [readFrom, h]

theorem step_plain_backslash : State.plain.step '\\' = ([], .goes .escape) := rfl

theorem step_escape_of_mem {c : Char} (h : c ∈ marks) : State.escape.step c = ([c], .goes .plain) := by
  rcases mem_marks.mp h with rfl | rfl <;> rfl

theorem step_plain_of_notMem {c : Char} (h : c ∉ marks) (unbroken : c ≠ '\n') :
    State.plain.step c = ([c], .goes .plain) := by
  rw [mem_marks, not_or] at h
  rw [State.step, plainStep, if_neg h.1, if_neg unbroken, if_neg h.2]

theorem readFrom_backslashed (s : List Char) :
    readFrom .plain (Text.backslashed marks s ++ ['"']) = if '\n' ∈ s then none else some (s, []) := by
  induction s with
  | nil => rfl
  | cons c s ih =>
    by_cases marked : c ∈ marks
    · have other : '\n' ≠ c := by
        rintro rfl
        exact absurd marked (by decide)
      rw [Text.backslashed_of_mem marked, List.cons_append, List.cons_append,
        readFrom_goes step_plain_backslash, readFrom_goes (step_escape_of_mem marked), ih]
      simp only [List.mem_cons, other, false_or]
      split <;> rfl
    · rw [Text.backslashed_of_not_mem marked, List.cons_append]
      by_cases feed : c = '\n'
      · subst feed
        rw [if_pos List.mem_cons_self]
        rfl
      · rw [readFrom_goes (step_plain_of_notMem marked feed), ih]
        simp only [List.mem_cons, Ne.symm feed, false_or]
        split <;> rfl

theorem string?_quote (s : List Char) :
    string? (quote s) = if '\n' ∈ preprocessed s then none else some (preprocessed s) := by
  rw [string?, preprocessed_quote, quote]
  simp only [readFrom_backslashed]
  by_cases broken : '\n' ∈ preprocessed s
  · rw [if_pos broken, if_pos broken]
  · rw [if_neg broken, if_neg broken]

theorem shown_eq_self_iff {c : Char} : shown c = c ∧ c ≠ '\n' ↔ c ∉ changed := by
  by_cases there : c ∈ changed
  · refine iff_of_false ?_ (not_not_intro there)
    simp only [changed, List.mem_cons, List.not_mem_nil, or_false] at there
    rcases there with rfl | rfl | rfl | rfl <;> decide
  · refine iff_of_true ?_ there
    simp only [changed, List.mem_cons, List.not_mem_nil, or_false, not_or] at there
    obtain ⟨feed, ret, page, zero⟩ := there
    rw [shown, if_neg (not_or.mpr ⟨ret, page⟩), if_neg zero]
    exact ⟨rfl, feed⟩

theorem length_preprocessed_le (s : List Char) : (preprocessed s).length ≤ s.length := by
  fun_induction preprocessed s with
  | case1 => exact Nat.le_refl 0
  | case2 c rest _ ih => exact Nat.le_succ_of_le ih
  | case3 c rest _ ih => exact Nat.succ_le_succ ih

theorem preprocessed_eq_self_iff : preprocessed s = s ∧ '\n' ∉ s ↔ ∀ c ∈ s, c ∉ changed := by
  induction s with
  | nil => exact iff_of_true ⟨rfl, List.not_mem_nil⟩ (List.forall_mem_nil _)
  | cons c s ih =>
    rw [List.forall_mem_cons, ← ih, ← shown_eq_self_iff, List.mem_cons, not_or]
    by_cases pair : c = '\r' ∧ s.head? = some '\n'
    · refine iff_of_false ?_ ?_
      · rintro ⟨same, -⟩
        have short := length_preprocessed_le s
        rw [preprocessed, if_pos pair] at same
        rw [same, List.length_cons] at short
        omega
      · rintro ⟨-, -, unbroken⟩
        exact unbroken (List.mem_of_head? pair.2)
    · rw [preprocessed, if_neg pair, List.cons.injEq, ne_comm]
      tauto

/-- What is written for a text is a string with just this value, unless it has to be changed. -/
theorem string?_quote_eq_some_iff : string? (quote s) = some s ↔ ∀ c ∈ s, c ∉ changed := by
  rw [string?_quote, ← preprocessed_eq_self_iff]
  constructor
  · intro reads
    split at reads
    · cases reads
    · next unbroken =>
      have same := Option.some.inj reads
      exact ⟨same, same ▸ unbroken⟩
  · rintro ⟨same, unbroken⟩
    rw [same, if_neg unbroken]

end Strings

end Css

namespace Target

/-- The text that the innermost elements for which a target looks have to be when normalized. -/
def comparedText? : Target → Option (List Char)
  | .css _ => none
  | .xpath path => do
    let test ← Text.after? (candidates ++ "[normalize-space(.)=").toList path.toList
    let (text, rest) ← XPath.read test
    let within ← Text.after? "][not(.//*[normalize-space(.)=".toList rest
    let (again, last) ← XPath.read within
    if again = text ∧ last = "])]".toList then some text else none

theorem comparedText?_innermost (s : List Char) : (innermost (exactText s)).comparedText? = some s := by
  have opens : "[normalize-space(.)=".toList = "[".toList ++ "normalize-space(.)=".toList := rfl
  have between : "][not(.//*[normalize-space(.)=".toList =
      "][not(.//*[".toList ++ "normalize-space(.)=".toList := rfl
  have condition : (exactText s).toList = "normalize-space(.)=".toList ++ XPath.literalChars s := by
    have inner : (String.ofList (XPath.literalChars s)).toList = XPath.literalChars s :=
      String.toList_ofList
    unfold exactText
    rw [String.toList_append, inner]
  have path : (candidates ++ "[" ++ exactText s ++ "][not(.//*[" ++ exactText s ++ "])]").toList =
      (candidates ++ "[normalize-space(.)=").toList ++ (XPath.literalChars s ++
        ("][not(.//*[normalize-space(.)=".toList ++ (XPath.literalChars s ++ "])]".toList))) := by
    simp only [String.toList_append, condition, opens, between, List.append_assoc]
  rw [innermost, comparedText?, path, Text.after?_append]
  simp only [Option.bind_eq_bind, Option.bind_some, XPath.read_literalChars, Text.after?_append]
  rfl

/-- With one of these a selector begins that is no CSS. -/
def leads : List String :=
  ["xpath=", "//", "(//", "text="]

theorem xpath_ne_css (path selector : String) : xpath path ≠ css selector := by
  intro same
  cases same

theorem ofText_ne_css (text : List Char) (selector : String) : ofText text ≠ css selector := by
  unfold ofText
  split
  · exact xpath_ne_css _ selector
  · exact xpath_ne_css _ selector

theorem ofSelector_eq_css_iff {selector : String} :
    ofSelector selector = .css selector ↔ ∀ lead ∈ leads, ¬ lead.toList <+: selector.toList := by
  simp only [leads, List.forall_mem_cons, List.not_mem_nil, false_implies, implies_true, and_true]
  unfold ofSelector
  by_cases path : "xpath=".toList <+: selector.toList
  · rw [Text.after?, if_pos (List.isPrefixOf_iff_prefix.mpr path)]
    exact iff_of_false (xpath_ne_css _ selector) fun h => h.1 path
  rw [Text.after?, if_neg fun h => path (List.isPrefixOf_iff_prefix.mp h)]
  by_cases slashes : "//".toList <+: selector.toList ∨ "(//".toList <+: selector.toList
  · simp only [Bool.or_eq_true, List.isPrefixOf_iff_prefix, if_pos slashes]
    exact iff_of_false (xpath_ne_css selector selector) fun h => slashes.elim h.2.1 h.2.2.1
  simp only [Bool.or_eq_true, List.isPrefixOf_iff_prefix, if_neg slashes]
  rw [not_or] at slashes
  by_cases text : "text=".toList <+: selector.toList
  · rw [Text.after?, if_pos (List.isPrefixOf_iff_prefix.mpr text)]
    exact iff_of_false (ofText_ne_css _ selector) fun h => h.2.2.2 text
  · rw [Text.after?, if_neg fun h => text (List.isPrefixOf_iff_prefix.mp h)]
    exact iff_of_true rfl ⟨path, slashes.1, slashes.2, text⟩

end Target

namespace Healing

/-- An element has just the text or the attribute for which the selector asks. -/
def Replacement.Matches (r : Replacement) (e : Element) : Prop :=
  match r with
  | text _ => (Target.ofSelector r.selector).comparedText? = some (XPath.normalized e.text.toList)
  | named tag name _ =>
    ∃ value, e.attribute? name = some value ∧ Css.value? tag name r.selector = some value.toList

section Selectors

variable {e : Element} {r : Replacement} {keyword : String}

theorem ofSelector_text (t : List Char) :
    Target.ofSelector (Replacement.text t).selector = Target.innermost (Target.exactText t) := by
  have chars : (Replacement.text t).selector.toList = "text=".toList ++ Field.quote t := by
    have inner : (String.ofList (Field.quote t)).toList = Field.quote t := String.toList_ofList
    rw [Replacement.selector, String.toList_append, inner]
  have other : Text.after? "xpath=".toList ("text=".toList ++ Field.quote t) = none := rfl
  rw [Target.ofSelector, chars, other, Text.after?_append]
  change Target.ofText (Field.quote t) = _
  rw [Target.ofText, if_pos (Field.isQuoted_quote t), Field.unquote_quote]

theorem value?_named (tag name value : String) :
    Css.value? tag name (Replacement.named tag name value).selector =
      Css.string? (Field.quote value.toList) := by
  have chars : (Replacement.named tag name value).selector.toList =
      (tag ++ "[" ++ name ++ "=").toList ++ (Field.quote value.toList ++ [']']) := by
    simp only [Replacement.selector, String.toList_append, String.toList_ofList, List.append_assoc]
    rfl
  rw [Css.value?, chars, Text.after?_append]
  simp only [Option.bind_eq_bind, Option.bind_some, List.getLast?_concat, if_pos, List.dropLast_concat]

theorem ofSelector_named_iff (tag name value : String) :
    let selector := (Replacement.named tag name value).selector
    Target.ofSelector selector = .css selector ↔ ∀ lead ∈ Target.leads, ¬ lead.toList <+: tag.toList := by
  intro selector
  have chars : ∃ rest, selector.toList = tag.toList ++ '[' :: rest := by
    simp only [selector, Replacement.selector, String.toList_append, List.append_assoc]
    exact ⟨_, rfl⟩
  obtain ⟨rest, chars⟩ := chars
  rw [Target.ofSelector_eq_css_iff, chars]
  have apart : ∀ lead ∈ Target.leads, '[' ∉ lead.toList := by decide
  constructor
  · exact fun h lead there begins => h lead there (begins.trans (List.prefix_append _ _))
  · exact fun h lead there begins =>
      h lead there (Text.prefix_of_prefix_separated (apart lead there) begins)

theorem matches_text_iff : (Replacement.text e.trimmedText).Matches e ↔
    XPath.stripped e.text.toList = e.trimmedText ∧ XPath.IsEven e.trimmedText := by
  rw [Replacement.Matches, ofSelector_text, Target.comparedText?_innermost, Option.some.injEq, eq_comm]
  exact XPath.normalized_eq_trim_iff e.text.toList

theorem matches_named_iff {tag name value : String} (h : e.attribute? name = some value) :
    (Replacement.named tag name value).Matches e ↔ ∀ c ∈ value.toList, c ∉ Css.changed := by
  rw [Replacement.Matches, value?_named, ← Css.string?_quote_eq_some_iff]
  constructor
  · rintro ⟨other, there, reads⟩
    rw [h] at there
    obtain rfl := Option.some.inj there
    exact reads
  · exact fun reads => ⟨value, h, reads⟩

theorem eq_of_replacement_singleton (h : replacement? [e] keyword = some r) :
    r = .text e.trimmedText ∨
      ∃ name value, r = .named e.tag name value ∧ e.attribute? name = some value := by
  rw [replacement?, List.findSome?_singleton, Option.orElse_eq_orElse, Option.orElse_eq_or,
    Option.or_eq_some_iff] at h
  rcases h with text | ⟨-, named⟩
  · rw [byText?] at text
    split at text
    · exact .inl (Option.some.inj text).symm
    · cases text
  · obtain ⟨name, -, found⟩ := List.exists_of_findSome?_eq_some named
    obtain ⟨value, there, holds⟩ := Option.bind_eq_some_iff.mp found
    split at holds
    · exact .inr ⟨name, value, (Option.some.inj holds).symm, there⟩
    · cases holds

end Selectors

/-- A replacement is made from the first candidate that has one, and it matches that element just if nothing
of its text or value is changed. -/
theorem healed_matches_iff {candidates : List Element} {keyword : String} {r : Replacement}
    (found : replacement? candidates keyword = some r) :
    ∃ before e after, candidates = before ++ e :: after ∧ replacement? before keyword = none ∧
      replacement? [e] keyword = some r ∧
      ((r = .text e.trimmedText ∧
          (r.Matches e ↔
            XPath.stripped e.text.toList = e.trimmedText ∧ XPath.IsEven e.trimmedText)) ∨
        ∃ name value, r = .named e.tag name value ∧ e.attribute? name = some value ∧
          (r.Matches e ↔ ∀ c ∈ value.toList, c ∉ Css.changed) ∧
          (Target.ofSelector r.selector = .css r.selector ↔
            ∀ lead ∈ Target.leads, ¬ lead.toList <+: e.tag.toList)) := by
  obtain ⟨before, e, after, whole, made, first⟩ := List.findSome?_eq_some_iff.mp found
  have alone : replacement? [e] keyword = some r := by
    rw [replacement?, List.findSome?_singleton]
    exact made
  refine ⟨before, e, after, whole, List.findSome?_eq_none_iff.mpr first, alone, ?_⟩
  rcases eq_of_replacement_singleton alone with rfl | ⟨name, value, rfl, there⟩
  · exact .inl ⟨rfl, matches_text_iff⟩
  · exact .inr ⟨name, value, rfl, there, matches_named_iff there, ofSelector_named_iff e.tag name value⟩

/-- The second of two elements is the one with the keyword, and its text is found as it is written. -/
theorem healed_matches_even :
    let candidates : List Element :=
      [{ tag := "a", text := "Home" }, { tag := "button", text := " Save all\n" }]
    let r : Replacement := .text "Save all".toList
    replacement? candidates "save" = some r ∧ r.selector = "text=\"Save all\"" ∧
      ∃ e ∈ candidates, replacement? [e] "save" = some r ∧ r.Matches e := by
  intro candidates r
  have found : replacement? candidates "save" = some r := by decide +kernel
  obtain ⟨before, e, after, whole, -, made, text | ⟨name, value, named, -⟩⟩ := healed_matches_iff found
  · have even : XPath.stripped e.text.toList = e.trimmedText ∧ XPath.IsEven e.trimmedText := by
      obtain rfl | rfl : e = { tag := "a", text := "Home" } ∨
          e = { tag := "button", text := " Save all\n" } := by
        have there : e ∈ candidates := whole ▸ List.mem_append_right before List.mem_cons_self
        simpa [candidates] using there
      all_goals decide +kernel
    exact ⟨found, rfl, e, whole ▸ List.mem_append_right before List.mem_cons_self, made, text.2.mpr even⟩
  · exact absurd named Replacement.noConfusion

/-- Blanks that stand together are asked for as they are, and a line break ends a string too early. -/
theorem healed_mismatch :
    let spaced : Element := { tag := "button", text := "Save  changes" }
    let broken : Element := { tag := "input", attributes := [("name", "save\nall")] }
    let byText : Replacement := .text "Save  changes".toList
    let byName : Replacement := .named "input" "name" "save\nall"
    replacement? [spaced] "save" = some byText ∧ byText.selector = "text=\"Save  changes\"" ∧
      XPath.normalized spaced.text.toList = "Save changes".toList ∧ ¬ byText.Matches spaced ∧
      replacement? [broken] "save" = some byName ∧ ¬ byName.Matches broken := by
  intro spaced broken byText byName
  refine ⟨by decide +kernel, by decide +kernel, by decide +kernel, ?_, by decide +kernel, ?_⟩
  · rw [show byText = .text spaced.trimmedText by decide +kernel, matches_text_iff]
    decide +kernel
  · rw [matches_named_iff (e := broken) rfl]
    exact fun kept => kept '\n' (by decide) (by decide)

end Healing

end PageWalk
