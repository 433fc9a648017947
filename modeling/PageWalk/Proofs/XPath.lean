import Mathlib.Data.List.DropRight
import PageWalk.Locator.Target
import PageWalk.Proofs.Lines
import PageWalk.Text.Character

/-!
# Texts in XPath

`read` takes a string expression apart: a literal between quotes of either kind, or a call of `concat`
with such literals. `normalized` is the value of `normalize-space`. Main statements: what is written for a
text is read as that text, and which texts are the same trimmed and normalized.
-/

namespace PageWalk.XPath

set_option autoImplicit false

section Literals

def isQuote (c : Char) : Bool :=
  c = '\'' || c = '"'

/-- The text in front of the next mark like the first one, and what follows it. -/
def readQuoted : List Char → Option (List Char × List Char)
  | mark :: rest => if isQuote mark then Text.splitFirst mark rest else none
  | [] => none

/--
The rest of the arguments of a call, put together, and what follows its closing parenthesis. Within an
argument, its mark is given.
-/
def readMore : Option Char → List Char → Option (List Char × List Char)
  | some mark, c :: rest =>
    if c = mark then readMore none rest
    else (readMore (some mark) rest).map fun (text, rest) => (c :: text, rest)
  | none, ')' :: rest => some ([], rest)
  | none, ',' :: ' ' :: mark :: rest => if isQuote mark then readMore (some mark) rest else none
  | _, _ => none

/-- The value of a string expression, and what follows it; `concat` takes two arguments at least. -/
def read (s : List Char) : Option (List Char × List Char) :=
  match Text.after? "concat(".toList s with
  | none => readQuoted s
  | some parts => do
    let (first, rest) ← readQuoted parts
    if rest.head? = some ')' then none
    else
      let (more, rest) ← readMore none rest
      some (first ++ more, rest)

variable {s : List Char}

theorem readQuoted_singleQuoted (h : '\'' ∉ s) (rest : List Char) :
    readQuoted (singleQuoted s ++ rest) = some (s, rest) := by
  rw [singleQuoted, List.cons_append, List.append_assoc]
  exact Text.splitFirst_append h rest

theorem readQuoted_doubleQuoted (h : '"' ∉ s) (rest : List Char) :
    readQuoted (doubleQuoted s ++ rest) = some (s, rest) := by
  rw [doubleQuoted, List.cons_append, List.append_assoc]
  exact Text.splitFirst_append h rest

theorem readMore_within {mark : Char} (h : mark ∉ s) (rest : List Char) :
    readMore (some mark) (s ++ mark :: rest) =
      (readMore none rest).map fun (text, rest) => (s ++ text, rest) := by
  induction s with
  | nil =>
    rw [List.nil_append, readMore, if_pos rfl]
    exact Option.map_id'.symm
  | cons c s ih =>
    rw [List.mem_cons, not_or] at h
    rw [List.cons_append, readMore, if_neg (Ne.symm h.1), ih h.2, Option.map_map]
    rfl

/-- What stands between two pieces of a text with quotes of both kinds. -/
def comma : List Char :=
  ", ".toList ++ doubleQuoted ['\''] ++ ", ".toList

theorem readMore_pieces {more : List (List Char)} (h : ∀ piece ∈ more, '\'' ∉ piece)
    (rest : List Char) :
    readMore none ((more.flatMap fun piece => comma ++ singleQuoted piece) ++ ')' :: rest) =
      some (more.flatMap fun piece => '\'' :: piece, rest) := by
  induction more with
  | nil => rfl
  | cons piece more ih =>
    obtain ⟨here, later⟩ := List.forall_mem_cons.mp h
    rw [List.flatMap_cons, List.flatMap_cons, List.append_assoc]
    -- the quote between two pieces is an argument of its own
    have quote : readMore none ((comma ++ singleQuoted piece) ++
          ((more.flatMap fun piece => comma ++ singleQuoted piece) ++ ')' :: rest)) =
        (readMore (some '\'') (piece ++ '\'' ::
          ((more.flatMap fun piece => comma ++ singleQuoted piece) ++ ')' :: rest))).map
            fun (text, rest) => ('\'' :: text, rest) := by
      simp [comma, doubleQuoted, singleQuoted, readMore, isQuote]
    rw [quote, readMore_within here, ih later]
    rfl

theorem intercalate_eq_flatMap (between first : List Char) (more : List (List Char)) :
    List.intercalate between (first :: more) = first ++ more.flatMap fun part => between ++ part := by
  induction more generalizing first with
  | nil => simp
  | cons next more ih =>
    rw [List.intercalate_cons_cons, ih, List.flatMap_cons, List.append_assoc, List.append_assoc]

/-- A text with quotes of both kinds is written piece by piece, each after the first behind a quote. -/
theorem exists_pieces (single : '\'' ∈ s) (double : '"' ∈ s) : ∃ first next more,
    (∀ piece ∈ first :: next :: more, '\'' ∉ piece) ∧
      first ++ ((next :: more).flatMap fun piece => '\'' :: piece) = s ∧
      literalChars s = "concat(".toList ++ (singleQuoted first ++
        (((next :: more).flatMap fun piece => comma ++ singleQuoted piece) ++ [')'])) := by
  obtain ⟨first, more, cut⟩ := List.exists_cons_of_ne_nil (Text.pieces_ne_nil '\'' s)
  have apart : ∀ piece ∈ first :: more, '\'' ∉ piece := by
    intro piece there
    exact Text.not_mem_of_mem_pieces (cut ▸ there)
  have whole : first ++ (more.flatMap fun piece => '\'' :: piece) = s := by
    have joined := Text.intercalate_pieces '\'' s
    rw [cut, intercalate_eq_flatMap] at joined
    exact joined
  rcases more with _ | ⟨next, more⟩
  · rw [List.flatMap_nil, List.append_nil] at whole
    exact absurd (whole ▸ single) (apart first List.mem_cons_self)
  refine ⟨first, next, more, apart, whole, ?_⟩
  rw [literalChars, if_neg (not_not_intro single), if_neg (not_not_intro double)]
  change "concat(".toList ++ List.intercalate comma ((Text.pieces '\'' s).map singleQuoted) ++ [')'] = _
  rw [cut, List.map_cons, intercalate_eq_flatMap, List.flatMap_map]
  simp only [List.append_assoc]

theorem read_literalChars (s rest : List Char) : read (literalChars s ++ rest) = some (s, rest) := by
  by_cases single : '\'' ∈ s
  · by_cases double : '"' ∈ s
    · obtain ⟨first, next, more, apart, whole, written⟩ := exists_pieces single double
      obtain ⟨here, later⟩ := List.forall_mem_cons.mp apart
      have several : (((next :: more).flatMap fun piece => comma ++ singleQuoted piece) ++
          ')' :: rest).head? ≠ some ')' := by
        intro closed
        cases closed
      rw [written, List.append_assoc, List.append_assoc, List.append_assoc, List.singleton_append,
        read, Text.after?_append]
      simp only [readQuoted_singleQuoted here, Option.bind_eq_bind, Option.bind_some,
        if_neg several, readMore_pieces later, whole]
    · rw [literalChars, if_neg (not_not_intro single), if_pos double]
      exact readQuoted_doubleQuoted double rest
  · rw [literalChars, if_pos single]
    exact readQuoted_singleQuoted single rest

end Literals

section Normalized

def isSpace (c : Char) : Bool :=
  c = ' ' || c = '\t' || c = '\r' || c = '\n'

/-- A text without the characters of a kind that stand at its ends. -/
def strippedOf (kind : Char → Bool) (s : List Char) : List Char :=
  (s.dropWhile kind).rdropWhile kind

def stripped (s : List Char) : List Char :=
  strippedOf isSpace s

/-- A text with one blank in place of each run of white space. -/
def collapsed : List Char → List Char
  | [] => []
  | c :: rest =>
    if isSpace c then
      if rest.head?.any isSpace then collapsed rest else ' ' :: collapsed rest
    else c :: collapsed rest

/-- What `normalize-space` makes of a text. -/
def normalized (s : List Char) : List Char :=
  collapsed (stripped s)

/-- Its only white space are blanks, and no two of them stand together. -/
def IsEven (s : List Char) : Prop :=
  (∀ c ∈ s, isSpace c = true → c = ' ') ∧ ¬ [' ', ' '] <:+: s

variable {s t : List Char} {x y : Char}

theorem prefix_two_blanks_iff {c : Char} :
    [' ', ' '] <+: c :: s ↔ c = ' ' ∧ s.head? = some ' ' := by
  rw [List.cons_prefix_cons, eq_comm]
  cases s with
  | nil => simp
  | cons d s => simp [List.cons_prefix_cons, eq_comm]

theorem isEven_cons {c : Char} : IsEven (c :: s) ↔
    (isSpace c = true → c = ' ' ∧ s.head? ≠ some ' ') ∧ IsEven s := by
  rw [IsEven, IsEven, List.forall_mem_cons, List.infix_cons_iff, prefix_two_blanks_iff]
  by_cases blank : c = ' '
  · have space : isSpace c = true := by
      rw [blank]
      rfl
    simp only [blank, true_and]
    tauto
  · simp only [blank, false_and, false_or]
    tauto

theorem length_collapsed_le (s : List Char) : (collapsed s).length ≤ s.length := by
  fun_induction collapsed s with
  | case1 => exact Nat.le_refl 0
  | case2 c rest _ _ ih => exact Nat.le_succ_of_le ih
  | case3 c rest _ _ ih => exact Nat.succ_le_succ ih
  | case4 c rest _ ih => exact Nat.succ_le_succ ih

theorem collapsed_eq_self_iff : collapsed s = s ↔ IsEven s := by
  fun_induction collapsed s with
  | case1 =>
    refine iff_of_true rfl ⟨List.forall_mem_nil _, fun within => ?_⟩
    exact List.cons_ne_nil _ _ (List.infix_nil.mp within)
  | case2 c rest here next ih =>
    obtain ⟨d, first, space⟩ := (Option.any_eq_true _ _).mp next
    refine iff_of_false ?_ ?_
    · intro same
      have short := length_collapsed_le rest
      rw [same, List.length_cons] at short
      omega
    · intro even
      obtain ⟨first_apart, later⟩ := isEven_cons.mp even
      have blank := later.1 d (List.mem_of_head? first) space
      exact (first_apart here).2 (blank ▸ first)
  | case3 c rest here next ih =>
    have apart : rest.head? ≠ some ' ' := by
      intro first
      rw [first] at next
      exact next rfl
    rw [isEven_cons, List.cons.injEq, ih, eq_comm (a := ' ')]
    exact and_congr_left' ⟨fun blank _ => ⟨blank, apart⟩, fun h => (h here).1⟩
  | case4 c rest here ih =>
    rw [isEven_cons, List.cons.injEq, ih]
    exact and_congr_left' (iff_of_true rfl fun space => absurd space here)

instance (s : List Char) : Decidable (IsEven s) :=
  decidable_of_iff _ collapsed_eq_self_iff

theorem head?_collapsed (h : ∀ c ∈ s.head?, isSpace c = false) : (collapsed s).head? = s.head? := by
  cases s with
  | nil => rfl
  | cons c rest =>
    rw [collapsed, h c rfl]
    rfl

theorem getLast?_collapsed (h : ∀ c ∈ s.getLast?, isSpace c = false) :
    (collapsed s).getLast? = s.getLast? := by
  induction s with
  | nil => rfl
  | cons c rest ih =>
    by_cases only : rest = []
    · subst only
      rw [collapsed, h c rfl]
      rfl
    · rw [List.getLast?_cons_of_ne_nil only] at h ⊢
      have last := ih h
      have some_left : collapsed rest ≠ [] := by
        intro none_left
        rw [none_left, List.getLast?_nil, eq_comm, List.getLast?_eq_none_iff] at last
        exact only last
      rw [collapsed]
      split
      · split
        · exact last
        · rw [List.getLast?_cons_of_ne_nil some_left, last]
      · rw [List.getLast?_cons_of_ne_nil some_left, last]

theorem IsEven.of_infix (even : IsEven t) (within : s <:+: t) : IsEven s :=
  ⟨fun c there => even.1 c (within.subset there), fun two => even.2 (two.trans within)⟩

theorem IsEven.concat (even : IsEven t) (letter : isSpace y = false) : IsEven (t ++ [y]) := by
  refine ⟨fun c there space => ?_, fun two => ?_⟩
  · rcases List.mem_append.mp there with here | last
    · exact even.1 c here space
    · rw [List.mem_singleton.mp last, letter] at space
      cases space
  · rcases List.infix_concat_iff.mp two with ⟨before, whole⟩ | earlier
    · have last := congrArg List.getLast? whole
      rw [List.getLast?_concat, List.getLast?_append] at last
      cases last
      cases letter
    · exact even.2 earlier

theorem isEven_collapsed (s : List Char) : IsEven (collapsed s) := by
  fun_induction collapsed s with
  | case1 => exact collapsed_eq_self_iff.mp rfl
  | case2 c rest _ _ ih => exact ih
  | case3 c rest _ next ih =>
    have apart : ∀ d ∈ rest.head?, isSpace d = false := by
      intro d first
      rw [Option.mem_def.mp first] at next
      exact Bool.eq_false_iff.mpr next
    refine isEven_cons.mpr ⟨fun _ => ⟨rfl, fun blank => ?_⟩, ih⟩
    rw [head?_collapsed apart] at blank
    cases apart ' ' blank
  | case4 c rest here ih => exact isEven_cons.mpr ⟨fun space => absurd space here, ih⟩

theorem stripped_between (hx : isSpace x = false) (hy : isSpace y = false) :
    stripped (x :: (t ++ [y])) = x :: (t ++ [y]) := by
  rw [stripped, strippedOf, List.dropWhile_cons_of_neg (Bool.eq_false_iff.mp hx), ← List.cons_append,
    List.rdropWhile_concat_neg _ _ _ (Bool.eq_false_iff.mp hy)]

end Normalized

section Trimmed

open Text (isBlank trim)

theorem isBlank_of_isSpace {c : Char} (h : isSpace c = true) : isBlank c = true := by
  simp only [isSpace, Bool.or_eq_true, decide_eq_true_eq] at h
  rcases h with ((rfl | rfl) | rfl) | rfl <;> decide

variable {kind : Char → Bool} {before after : List Char}

theorem exists_strippedOf (kind : Char → Bool) (s : List Char) : ∃ before after,
    s = before ++ strippedOf kind s ++ after ∧ (∀ c ∈ before, kind c = true) ∧
      ∀ c ∈ after, kind c = true := by
  refine ⟨s.takeWhile kind, (s.dropWhile kind).rtakeWhile kind, ?_, ?_, ?_⟩
  · rw [strippedOf, List.append_assoc, List.rdropWhile_append_rtakeWhile,
      List.takeWhile_append_dropWhile]
  · exact fun c => List.mem_takeWhile_imp
  · exact fun c => List.mem_rtakeWhile_imp

theorem strippedOf_between (hb : ∀ c ∈ before, kind c = true) (ha : ∀ c ∈ after, kind c = true)
    (s : List Char) : strippedOf kind (before ++ s ++ after) = strippedOf kind s := by
  have backwards : ∀ c ∈ after.reverse, kind c = true :=
    fun c there => ha c (List.mem_reverse.mp there)
  rw [strippedOf, strippedOf, List.append_assoc, List.dropWhile_append_of_pos hb, List.dropWhile_append]
  split
  · next empty =>
    have bare : after.dropWhile kind = [] := List.dropWhile_eq_nil_iff.mpr ha
    rw [bare, List.isEmpty_iff.mp empty]
  · rw [List.rdropWhile, List.reverse_append, List.dropWhile_append_of_pos backwards, List.rdropWhile]

theorem ends_strippedOf (kind : Char → Bool) (s : List Char) :
    (∀ c ∈ (strippedOf kind s).head?, kind c = false) ∧
      ∀ c ∈ (strippedOf kind s).getLast?, kind c = false := by
  constructor
  · intro c first
    obtain ⟨rest, whole⟩ := List.head?_eq_some_iff.mp first
    obtain ⟨dropped, begins⟩ := List.rdropWhile_prefix (p := kind) (s.dropWhile kind)
    have kept := List.head?_dropWhile_not kind s
    rw [← begins, ← strippedOf, whole] at kept
    exact kept
  · intro c last
    obtain ⟨some_left, rfl⟩ := List.mem_getLast?_eq_getLast last
    exact Bool.eq_false_iff.mpr (List.rdropWhile_last_not kind _ some_left)

/-- A trimmed text is normalized just if only white space of XML was trimmed, and it is even. -/
theorem normalized_eq_trim_iff (s : List Char) :
    normalized s = trim s ↔ stripped s = trim s ∧ IsEven (trim s) := by
  constructor
  · intro same
    obtain ⟨before, after, whole, spaces_before, spaces_after⟩ := exists_strippedOf isSpace s
    have trimmed : trim s = trim (stripped s) := by
      conv_lhs => rw [whole]
      exact strippedOf_between (fun c there => isBlank_of_isSpace (spaces_before c there))
        (fun c there => isBlank_of_isSpace (spaces_after c there)) _
    -- collapsing keeps the first and the last character, and those of a trimmed text are not blank
    have kept : trim (stripped s) = stripped s := by
      have heads : (normalized s).head? = (stripped s).head? :=
        head?_collapsed (ends_strippedOf isSpace s).1
      have lasts : (normalized s).getLast? = (stripped s).getLast? :=
        getLast?_collapsed (ends_strippedOf isSpace s).2
      apply Text.trim_eq_self_of_ends
      · rw [← heads, same]
        exact (ends_strippedOf isBlank s).1
      · rw [← lasts, same]
        exact (ends_strippedOf isBlank s).2
    have one : stripped s = trim s := (trimmed.trans kept).symm
    refine ⟨one, collapsed_eq_self_iff.mp ?_⟩
    rw [← one, ← normalized, same, one]
  · rintro ⟨one, even⟩
    rw [normalized, one, collapsed_eq_self_iff.mpr even]

end Trimmed

end PageWalk.XPath
