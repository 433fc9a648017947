import Mathlib.Data.List.TakeWhile
import PageWalk.Proofs.Query
import PageWalk.Url.Parser

/-!
# Addresses with other queries

A URL that is read from what it is written as is read so with any other query that needs no encoding.
Nothing has to be known of its other parts: percent encoding never shortens a text, so a mark in what
is written before the query would have made the query longer, or the fragment.
-/

namespace PageWalk.Url

set_option autoImplicit false

/-! ## Texts around a query -/

section Splitting

variable {mark : Char} {before : List Char}

theorem cut_of_notMem (h : mark ∉ before) : cut mark before = (before, none) := by
  rw [cut, Text.splitFirst_of_not_mem h]

theorem cut_append (h : mark ∉ before) (after : List Char) :
    cut mark (before ++ mark :: after) = (before, some after) := by
  rw [cut, Text.splitFirst_append h]

end Splitting

section Cleaning

def isTrimmed (c : Char) : Bool :=
  c.toNat ≤ 0x20

def isBreak (c : Char) : Bool :=
  c = '\t' || c = '\n' || c = '\r'

/-- A text without control characters and spaces before it and without tabs and line breaks. -/
def opened (s : List Char) : List Char :=
  (s.dropWhile isTrimmed).filter fun c => !isBreak c

theorem isBreak_of_not_isTrimmed {c : Char} (h : isTrimmed c = false) : isBreak c = false := by
  rw [Bool.eq_false_iff]
  intro breaks
  rw [isBreak, Bool.or_eq_true, Bool.or_eq_true, decide_eq_true_iff, decide_eq_true_iff,
    decide_eq_true_iff] at breaks
  rcases breaks with (rfl | rfl) | rfl <;> exact absurd h (by decide)

/-- What can be seen at the end of a text stays. -/
theorem cleaned_append {s t : List Char} (begun : ∃ c ∈ s, isTrimmed c = false) (some : t ≠ [])
    (seen : ∀ c ∈ t, isTrimmed c = false) : cleaned (s ++ t) = opened s ++ t := by
  have left : (s ++ t).dropWhile isTrimmed = s.dropWhile isTrimmed ++ t := by
    obtain ⟨c, there, visible⟩ := begun
    rw [List.dropWhile_append, if_neg]
    rw [List.isEmpty_iff, List.dropWhile_eq_nil_iff]
    exact fun all => Bool.false_ne_true (visible ▸ all c there)
  have right : (s.dropWhile isTrimmed ++ t).reverse.dropWhile isTrimmed =
      (s.dropWhile isTrimmed ++ t).reverse := by
    obtain ⟨last, more, ends⟩ := List.exists_cons_of_ne_nil (List.reverse_ne_nil_iff.mpr some)
    have visible := seen last (List.mem_reverse.mp (ends ▸ List.mem_cons_self))
    rw [List.reverse_append, ends, List.cons_append, List.dropWhile_cons_of_neg]
    rw [visible]
    exact Bool.false_ne_true
  have whole : t.filter (fun c => !isBreak c) = t := by
    refine List.filter_eq_self.mpr fun c there => ?_
    rw [isBreak_of_not_isTrimmed (seen c there)]
    rfl
  show ((((s ++ t).dropWhile isTrimmed).reverse.dropWhile isTrimmed).reverse).filter
    (fun c => !isBreak c) = _
  rw [left, right, List.reverse_reverse, List.filter_append, whole]
  rfl

end Cleaning

/-! ## What queries and fragments keep -/

namespace Percent

section Printable

variable {excluded : List Char} {c : Char}

theorem notMem_of_printableBut (h : printableBut excluded c = true) : c ∉ excluded := by
  rw [printableBut, Bool.and_eq_true, Bool.not_eq_true'] at h
  exact fun mem => Bool.false_ne_true (h.2 ▸ List.contains_iff_mem.mpr mem)

theorem not_isTrimmed_of_printableBut (space : ' ' ∈ excluded)
    (h : printableBut excluded c = true) : isTrimmed c = false := by
  have visible : c ≠ ' ' := by
    rintro rfl
    exact notMem_of_printableBut h space
  have code : c.toNat ≠ 0x20 := fun same => visible (Char.toNat_inj.mp same)
  rw [printableBut, Bool.and_eq_true, Bool.and_eq_true, decide_eq_true_iff] at h
  exact decide_eq_false (by omega)

theorem printableBut_of_isAlphanum (marks : excluded.any Char.isAlphanum = false)
    (h : c.isAlphanum = true) : printableBut excluded c = true := by
  have apart : c ∉ excluded := fun mem => List.any_eq_false.mp marks c mem h
  have range : 0x20 ≤ c.toNat ∧ c.toNat < 0x7F := by
    have bounds := Text.bounds_of_isAlphanum h
    omega
  rw [printableBut, decide_eq_true range.1, decide_eq_true range.2, Bool.true_and, Bool.true_and,
    Bool.not_eq_true', Bool.eq_false_iff]
  exact fun contains => apart (List.contains_iff_mem.mp contains)

end Printable

end Percent

/-- What the query of a URL keeps. -/
def Rules.keepsInQuery (r : Rules) : Char → Bool :=
  if r.isSpecial then Percent.keepsInSpecialQuery else Percent.keepsInQuery

theorem queryText_eq (r : Rules) (s : List Char) :
    queryText r s = String.ofList (Percent.encode r.keepsInQuery s) := rfl

/-- A query that is read as it is. -/
def Rules.Fits (r : Rules) (query : String) : Prop :=
  ∀ c ∈ query.toList, r.keepsInQuery c = true

namespace Rules

variable {r : Rules} {query : String}

theorem keepsInQuery_byteChars (r : Rules) : ∀ c ∈ Percent.byteChars, r.keepsInQuery c = true := by
  cases r <;> exact Percent.forall_mem_byteChars (by decide) (by decide)

theorem exists_keepsInQuery (r : Rules) :
    ∃ excluded, r.keepsInQuery = Percent.printableBut excluded ∧ ' ' ∈ excluded ∧ '#' ∈ excluded ∧
      excluded.any Char.isAlphanum = false := by
  cases r <;> exact ⟨_, rfl, by decide, by decide, by decide⟩

theorem fits_queryText (r : Rules) (s : List Char) : r.Fits (queryText r s) := by
  intro c there
  rw [queryText_eq, String.toList_ofList] at there
  exact Percent.keeps_of_mem_encode r.keepsInQuery_byteChars there

theorem Fits.queryText_eq (h : r.Fits query) : queryText r query.toList = query := by
  rw [Url.queryText_eq, Percent.encode_of_kept h, String.ofList_toList]

theorem Fits.seen (h : r.Fits query) : ∀ c ∈ query.toList, isTrimmed c = false := by
  obtain ⟨excluded, keeps, space, -, -⟩ := r.exists_keepsInQuery
  exact fun c there => Percent.not_isTrimmed_of_printableBut space (keeps ▸ h c there)

theorem Fits.notMem (h : r.Fits query) : '#' ∉ query.toList := by
  obtain ⟨excluded, keeps, -, mark, -⟩ := r.exists_keepsInQuery
  exact fun there => Percent.notMem_of_printableBut (keeps ▸ h '#' there) mark

/-- A written query fits into every URL. -/
theorem fits_write (r : Rules) (list : List (String × String)) : r.Fits (Query.write list) := by
  obtain ⟨excluded, keeps, -, -, marks⟩ := r.exists_keepsInQuery
  have others : ['*', '-', '.', '_', '%', '&', '+', '='].all r.keepsInQuery = true := by
    cases r <;> decide
  intro c there
  rcases Query.of_mem_write there with kept | mark
  · by_cases alphanum : c.isAlphanum = true
    · rw [keeps, Percent.printableBut_of_isAlphanum marks alphanum]
    · simp only [Query.keeps, alphanum, Bool.false_or, Bool.or_eq_true, decide_eq_true_iff] at kept
      refine List.all_eq_true.mp others c ?_
      rcases kept with ((rfl | rfl) | rfl) | rfl <;> decide
  · exact List.all_eq_true.mp others c (List.mem_append_right ['*', '-', '.', '_'] mark)

end Rules

theorem seen_fragmentText (s : List Char) : ∀ c ∈ (fragmentText s).toList, isTrimmed c = false := by
  intro c there
  rw [fragmentText, String.toList_ofList] at there
  have bytes : ∀ c ∈ Percent.byteChars, Percent.keepsInFragment c = true :=
    Percent.forall_mem_byteChars (by decide) (by decide)
  have kept := Percent.keeps_of_mem_encode bytes there
  exact Percent.not_isTrimmed_of_printableBut (by decide) kept

/-! ## Reading what is written -/

section Parse

variable {s : String} {u : Url} (h : parse s = .ok u)

include h

theorem exists_of_parse : ∃ name rest place, scheme? (Pieces.of s).start = some (name, rest) ∧
    hierarchy (String.ofList name) rest = .ok place ∧
    (Pieces.of s).complete (String.ofList name) place = u := by
  unfold parse at h
  dsimp only at h
  split at h
  · cases h
  · next name rest named =>
    cases read : hierarchy (String.ofList name) rest with
    | error e =>
      rw [read] at h
      cases h
    | ok place =>
      rw [read] at h
      exact ⟨name, rest, place, named, read, Except.ok.inj h⟩

theorem query_of_parse : u.query = (Pieces.of s).query.map (queryText (Rules.of u.scheme)) := by
  obtain ⟨name, rest, place, -, -, rfl⟩ := exists_of_parse h
  generalize Pieces.of s = pieces
  rfl

theorem fragment_of_parse : u.fragment = (Pieces.of s).fragment.map fragmentText := by
  obtain ⟨name, rest, place, -, -, rfl⟩ := exists_of_parse h
  generalize Pieces.of s = pieces
  rfl

theorem fits_of_parse {q : String} (queried : u.query = some q) : (Rules.of u.scheme).Fits q := by
  rw [query_of_parse h] at queried
  obtain ⟨asked, -, rfl⟩ := Option.map_eq_some_iff.mp queried
  exact Rules.fits_queryText _ asked

end Parse

/-- What a URL is written with before its query. -/
def start (u : Url) : List Char :=
  (u.scheme ++ ":" ++ separator u.authority u.path ++ u.path.text).toList

/-- What a URL is written with after its query. -/
def ending (u : Url) : List Char :=
  (marked "#" u.fragment).toList

section Ending

variable {u : Url}

theorem ending_of_none (h : u.fragment = none) : u.ending = [] := by
  rw [ending, h]
  rfl

theorem ending_of_some {f : String} (h : u.fragment = some f) : u.ending = '#' :: f.toList := by
  rw [ending, h]
  exact String.toList_append

theorem seen_ending {s : String} (h : parse s = .ok u) : ∀ c ∈ u.ending, isTrimmed c = false := by
  cases fragment : u.fragment with
  | none =>
    rw [ending_of_none fragment]
    exact fun c there => absurd there List.not_mem_nil
  | some f =>
    rw [ending_of_some fragment, List.forall_mem_cons]
    rw [fragment_of_parse h] at fragment
    obtain ⟨given, -, rfl⟩ := Option.map_eq_some_iff.mp fragment
    exact ⟨by decide, seen_fragmentText given⟩

theorem cut_ending {before : List Char} (h : '#' ∉ before) :
    cut '#' (before ++ u.ending) = (before, u.fragment.map String.toList) := by
  cases fragment : u.fragment with
  | none =>
    rw [ending_of_none fragment, List.append_nil, cut_of_notMem h]
    rfl
  | some f =>
    rw [ending_of_some fragment, cut_append h]
    rfl

end Ending

section Reading

variable {u : Url} {q : String} (queried : u.query = some q)

include queried

theorem toList_text : u.text.toList = u.start ++ '?' :: (q.toList ++ u.ending) := by
  rw [text, queried, String.toList_append, String.toList_append]
  show u.start ++ ("?" ++ q).toList ++ u.ending = _
  rw [String.toList_append, List.append_assoc, List.append_assoc]
  rfl

theorem cleaned_text (fits : (Rules.of u.scheme).Fits q)
    (seen : ∀ c ∈ u.ending, isTrimmed c = false) :
    cleaned u.text.toList = opened u.start ++ '?' :: (q.toList ++ u.ending) := by
  have begun : ∃ c ∈ u.start, isTrimmed c = false := by
    refine ⟨':', ?_, by decide⟩
    simp [start]
  rw [toList_text queried]
  refine cleaned_append begun (List.cons_ne_nil _ _) ?_
  rw [List.forall_mem_cons, List.forall_mem_append]
  exact ⟨by decide, fits.seen, seen⟩

theorem cut_text (fits : (Rules.of u.scheme).Fits q) (seen : ∀ c ∈ u.ending, isTrimmed c = false)
    (hash : '#' ∉ opened u.start) : cut '#' (cleaned u.text.toList) =
      (opened u.start ++ '?' :: q.toList, u.fragment.map String.toList) := by
  have before : '#' ∉ opened u.start ++ '?' :: q.toList := by
    rw [List.mem_append, List.mem_cons, not_or, not_or]
    exact ⟨hash, by decide, fits.notMem⟩
  rw [cleaned_text queried fits seen, ← List.cons_append, ← List.append_assoc, cut_ending before]

/-- The pieces of a URL, where no other mark comes before those of its query and its fragment. -/
theorem pieces_text (fits : (Rules.of u.scheme).Fits q) (seen : ∀ c ∈ u.ending, isTrimmed c = false)
    (hash : '#' ∉ opened u.start) (mark : '?' ∉ opened u.start) :
    Pieces.of u.text = ⟨opened u.start, some q.toList, u.fragment.map String.toList⟩ := by
  rw [Pieces.of, cut_text queried fits seen hash]
  dsimp only
  rw [cut_append mark]

variable (stable : parse u.text = .ok u)

include stable

/-- If the fragment began at an earlier mark, it would have been longer. -/
theorem hash_notMem_opened_start : '#' ∉ opened u.start := by
  intro there
  obtain ⟨a, b, begins, first⟩ := List.eq_append_cons_of_mem there
  have cleaned := cleaned_text queried (fits_of_parse stable queried) (seen_ending stable)
  have fragment := fragment_of_parse stable
  rw [Pieces.of, cleaned, begins, List.append_assoc, List.cons_append, cut_append first] at fragment
  have length := congrArg List.length (ending_of_some fragment)
  have longer := Percent.length_le_encode Percent.keepsInFragment
    (b ++ '?' :: (q.toList ++ u.ending))
  rw [fragmentText, String.toList_ofList] at length
  simp only [List.length_append, List.length_cons] at length longer
  omega

/-- If the query began at an earlier mark, it would have been longer. -/
theorem mark_notMem_opened_start : '?' ∉ opened u.start := by
  intro there
  obtain ⟨a, b, begins, first⟩ := List.eq_append_cons_of_mem there
  have cut := cut_text queried (fits_of_parse stable queried) (seen_ending stable)
    (hash_notMem_opened_start queried stable)
  have query := query_of_parse stable
  rw [queried, Pieces.of, cut, begins, List.append_assoc, List.cons_append] at query
  dsimp only at query
  rw [cut_append first] at query
  have length := congrArg (fun q => q.toList.length) (Option.some.inj query)
  have longer := Percent.length_le_encode (Rules.of u.scheme).keepsInQuery (b ++ '?' :: q.toList)
  simp only [queryText_eq, String.toList_ofList] at length
  rw [List.length_append, List.length_cons] at longer
  omega

/-- A URL that is read from what it is written as is read so with any other query as well. -/
theorem parse_text_of_query {q' : String} (fits : (Rules.of u.scheme).Fits q') :
    parse (Url.text { u with query := some q' }) = .ok { u with query := some q' } := by
  have seen := seen_ending stable
  have hash := hash_notMem_opened_start queried stable
  have mark := mark_notMem_opened_start queried stable
  obtain ⟨name, rest, place, named, read, complete⟩ := exists_of_parse stable
  rw [pieces_text queried (fits_of_parse stable queried) seen hash mark] at named complete
  have pieces : Pieces.of (Url.text { u with query := some q' }) =
      ⟨opened u.start, some q'.toList, u.fragment.map String.toList⟩ :=
    pieces_text rfl fits seen hash mark
  have scheme : String.ofList name = u.scheme := congrArg Url.scheme complete
  have authority : place.1 = u.authority := congrArg Url.authority complete
  have path : place.2 = u.path := congrArg Url.path complete
  have fragment : (u.fragment.map String.toList).map fragmentText = u.fragment :=
    congrArg Url.fragment complete
  simp only [parse, pieces, named, read, Except.map, Pieces.complete, Option.map_some]
  rw [scheme, fits.queryText_eq, authority, path, fragment]

end Reading

end PageWalk.Url
