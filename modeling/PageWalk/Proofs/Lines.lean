import PageWalk.Text.Basic

/-!
# Lines of a text

Texts without a line break that are joined by line feeds can be taken apart again, and to indent the
whole is to indent each of them. A carriage return right before a line feed belongs to the line end.
-/

namespace PageWalk.Text

set_option autoImplicit false

/-- A text within one line. -/
def Unbroken (s : List Char) : Prop :=
  '\n' ∉ s ∧ '\r' ∉ s

instance (s : List Char) : Decidable (Unbroken s) :=
  inferInstanceAs (Decidable (_ ∧ _))

/-- An unbroken text that is seen as a line wherever it stands, also at the end. -/
def IsLine (s : List Char) : Prop :=
  s ≠ [] ∧ Unbroken s

instance (s : List Char) : Decidable (IsLine s) :=
  inferInstanceAs (Decidable (_ ∧ _))

section Unbroken

variable {s t : List Char}

theorem Unbroken.append (hs : Unbroken s) (ht : Unbroken t) : Unbroken (s ++ t) := by
  refine ⟨?_, ?_⟩
  · rw [List.mem_append, not_or]
    exact ⟨hs.1, ht.1⟩
  · rw [List.mem_append, not_or]
    exact ⟨hs.2, ht.2⟩

theorem Unbroken.of_cons {c : Char} (h : Unbroken (c :: s)) : c ≠ '\n' ∧ c ≠ '\r' ∧ Unbroken s := by
  obtain ⟨feed, ret⟩ := h
  rw [List.mem_cons, not_or] at feed ret
  exact ⟨Ne.symm feed.1, Ne.symm ret.1, feed.2, ret.2⟩

theorem unbroken_cons_iff {c : Char} :
    Unbroken (c :: s) ↔ ¬ (c = '\n' ∨ c = '\r') ∧ Unbroken s := by
  constructor
  · intro h
    obtain ⟨feed, ret, later⟩ := h.of_cons
    exact ⟨not_or.mpr ⟨feed, ret⟩, later⟩
  · rintro ⟨plain, feed, ret⟩
    rw [not_or] at plain
    exact ⟨List.not_mem_cons_of_ne_of_not_mem (Ne.symm plain.1) feed,
      List.not_mem_cons_of_ne_of_not_mem (Ne.symm plain.2) ret⟩

end Unbroken

section Lines

/-- A line without the carriage return at its end. -/
def unreturned (line : List Char) : List Char :=
  if line.getLast? = some '\r' then line.dropLast else line

variable {s last : List Char} {ls : List (List Char)}

theorem unreturned_of_unbroken (h : Unbroken s) : unreturned s = s :=
  if_neg fun ret => h.2 (List.mem_of_getLast? ret)

theorem unreturned_cons (c : Char) (some : s ≠ []) : unreturned (c :: s) = c :: unreturned s := by
  rw [unreturned, unreturned, List.getLast?_cons_of_ne_nil some, List.dropLast_cons_of_ne_nil some]
  split <;> rfl

theorem mem_of_mem_unreturned {c : Char} (h : c ∈ unreturned s) : c ∈ s := by
  unfold unreturned at h
  split at h
  · exact List.dropLast_subset s h
  · exact h

theorem lines_cons {c : Char} {rest : List Char} (feed : c ≠ '\n')
    (ret : c = '\r' → rest.head? ≠ some '\n') :
    lines (c :: rest) =
      match lines rest with
      | [] => [[c]]
      | line :: more => (c :: line) :: more :=
  lines.eq_4 c rest feed fun _ same next => ret same (by rw [next]; rfl)

theorem lines_append_feed (h : '\n' ∉ s) (t : List Char) :
    lines (s ++ '\n' :: t) = unreturned s :: lines t := by
  induction s with
  | nil => rfl
  | cons c s ih =>
    rw [List.mem_cons, not_or] at h
    cases s with
    | nil =>
      -- only a carriage return right before the line feed belongs to the line end
      by_cases ret : c = '\r'
      · subst ret
        rfl
      · have plain : Unbroken [c] := by simp [Unbroken, Ne.symm ret, h.1]
        rw [unreturned_of_unbroken plain]
        exact lines_cons (Ne.symm h.1) fun same => absurd same ret
    | cons d s =>
      have next : (d :: s ++ '\n' :: t).head? ≠ some '\n' :=
        fun first => h.2 (List.mem_of_head? (first : (d :: s).head? = some '\n'))
      rw [List.cons_append, lines_cons (Ne.symm h.1) fun _ => next, ih h.2,
        unreturned_cons c (List.cons_ne_nil d s)]

theorem lines_of_not_mem (some : s ≠ []) (h : '\n' ∉ s) : lines s = [s] := by
  induction s with
  | nil => exact absurd rfl some
  | cons c s ih =>
    rw [List.mem_cons, not_or] at h
    rw [lines_cons (Ne.symm h.1) fun _ first => h.2 (List.mem_of_head? first)]
    cases s with
    | nil => rfl
    | cons d s => rw [ih (List.cons_ne_nil d s) h.2]

theorem lines_of_isLine (h : IsLine s) : lines s = [s] :=
  lines_of_not_mem h.1 h.2.1

/-- What is joined by line feeds are the lines, but for the carriage returns before those. -/
theorem lines_intercalate_concat (h : ∀ line ∈ ls, '\n' ∉ line) (some : last ≠ []) (one : '\n' ∉ last) :
    lines (List.intercalate ['\n'] (ls ++ [last])) = ls.map unreturned ++ [last] := by
  induction ls with
  | nil =>
    rw [List.nil_append, List.intercalate_singleton]
    exact lines_of_not_mem some one
  | cons line rest ih =>
    have more : rest ++ [last] ≠ [] := List.append_ne_nil_of_right_ne_nil _ (List.cons_ne_nil _ _)
    have later : ∀ l ∈ rest, '\n' ∉ l := fun l there => h l (List.mem_cons_of_mem _ there)
    rw [List.cons_append, List.intercalate_cons_of_ne_nil more, List.append_assoc,
      List.singleton_append, lines_append_feed (h line List.mem_cons_self), ih later]
    rfl

theorem lines_intercalate (h : ∀ line ∈ ls, IsLine line) :
    lines (List.intercalate ['\n'] ls) = ls := by
  rcases List.eq_nil_or_concat ls with rfl | ⟨earlier, last, rfl⟩
  · rfl
  · rw [List.concat_eq_append] at h ⊢
    have whole : ∀ line ∈ earlier, IsLine line := fun line there => h line (List.mem_append_left _ there)
    have final : IsLine last := h last (by simp)
    rw [lines_intercalate_concat (fun line there => (whole line there).2.1) final.1 final.2.1,
      List.map_congr_left fun line there => unreturned_of_unbroken (whole line there).2, List.map_id']

theorem indent_intercalate (h : ∀ line ∈ ls, IsLine line) :
    indent (List.intercalate ['\n'] ls) =
      List.intercalate ['\n'] (ls.map fun line => ' ' :: ' ' :: line) := by
  rw [indent, lines_intercalate h]

end Lines

section Pieces

variable {mark : Char}

theorem splitFirst_of_not_mem {s : List Char} (h : mark ∉ s) : splitFirst mark s = none := by
  induction s with
  | nil => rfl
  | cons c s ih =>
    rw [List.mem_cons, not_or] at h
    rw [splitFirst, if_neg (Ne.symm h.1), ih h.2]
    rfl

theorem pieces_of_not_mem {s : List Char} (h : mark ∉ s) : pieces mark s = [s] := by
  induction s with
  | nil => rfl
  | cons c s ih =>
    rw [List.mem_cons, not_or] at h
    rw [pieces, if_neg (Ne.symm h.1), ih h.2]

theorem pieces_intercalate {parts : List (List Char)} (some : parts ≠ []) :
    pieces mark (List.intercalate [mark] parts) = parts.flatMap (pieces mark) := by
  induction parts with
  | nil => exact absurd rfl some
  | cons part rest ih =>
    by_cases only : rest = []
    · rw [only, List.intercalate_singleton, List.flatMap_singleton]
    · rw [List.intercalate_cons_of_ne_nil only, List.append_assoc, List.singleton_append,
        pieces_append_mark, ih only, List.flatMap_cons]

theorem flatMap_pieces {parts : List (List Char)} (h : ∀ part ∈ parts, mark ∉ part) :
    parts.flatMap (pieces mark) = parts := by
  induction parts with
  | nil => rfl
  | cons part rest ih =>
    have later := ih fun p there => h p (List.mem_cons_of_mem _ there)
    rw [List.flatMap_cons, pieces_of_not_mem (h part List.mem_cons_self), later]
    rfl

theorem length_pieces (mark : Char) (s : List Char) :
    (pieces mark s).length = s.count mark + 1 := by
  induction s with
  | nil => rfl
  | cons c s ih =>
    rw [pieces]
    split
    · next same => rw [same, List.length_cons, ih, List.count_cons_self]
    · next other =>
      rw [List.count_cons_of_ne other, ← ih]
      cases split : pieces mark s with
      | nil => exact absurd split (pieces_ne_nil mark s)
      | cons first more => rfl

theorem not_mem_of_mem_pieces {s piece : List Char} (h : piece ∈ pieces mark s) : mark ∉ piece := by
  induction s generalizing piece with
  | nil =>
    rw [List.mem_singleton.mp h]
    exact List.not_mem_nil
  | cons c s ih =>
    rw [pieces] at h
    split at h
    · rcases List.mem_cons.mp h with rfl | later
      · exact List.not_mem_nil
      · exact ih later
    · next other =>
      cases split : pieces mark s with
      | nil => exact absurd split (pieces_ne_nil mark s)
      | cons first more =>
        simp only [split] at h ih
        rcases List.mem_cons.mp h with rfl | later
        · rw [List.mem_cons, not_or]
          exact ⟨Ne.symm other, ih List.mem_cons_self⟩
        · exact ih (List.mem_cons_of_mem _ later)

/-- Texts are the pieces into which they are cut just if none of them holds the mark. -/
theorem flatMap_pieces_eq_iff {parts : List (List Char)} :
    parts.flatMap (pieces mark) = parts ↔ ∀ part ∈ parts, mark ∉ part := by
  refine ⟨fun same part there => ?_, flatMap_pieces⟩
  rw [← same] at there
  obtain ⟨_, _, cut⟩ := List.mem_flatMap.mp there
  exact not_mem_of_mem_pieces cut

theorem exists_mem_pieces {s : List Char} {c : Char} (h : c ∈ s) (other : c ≠ mark) :
    ∃ piece ∈ pieces mark s, c ∈ piece := by
  induction s with
  | nil => cases h
  | cons d s ih =>
    rw [pieces]
    split
    · next same =>
      rcases List.mem_cons.mp h with rfl | later
      · exact absurd same other
      · obtain ⟨piece, there, mem⟩ := ih later
        exact ⟨piece, List.mem_cons_of_mem _ there, mem⟩
    · cases split : pieces mark s with
      | nil => exact absurd split (pieces_ne_nil mark s)
      | cons first more =>
        rw [split] at ih
        rcases List.mem_cons.mp h with rfl | later
        · exact ⟨c :: first, List.mem_cons_self, List.mem_cons_self⟩
        · obtain ⟨piece, there, mem⟩ := ih later
          rcases List.mem_cons.mp there with rfl | there
          · exact ⟨d :: piece, List.mem_cons_self, List.mem_cons_of_mem _ mem⟩
          · exact ⟨piece, List.mem_cons_of_mem _ there, mem⟩

theorem mem_iff_exists_mem_pieces {s : List Char} {c : Char} (other : c ≠ mark) :
    c ∈ s ↔ ∃ piece ∈ pieces mark s, c ∈ piece :=
  ⟨fun h => exists_mem_pieces h other, fun ⟨_, there, mem⟩ => mem_of_mem_pieces there mem⟩

theorem intercalate_concat {parts : List (List Char)} (some : parts ≠ []) (last : List Char) :
    List.intercalate [mark] (parts ++ [last]) = List.intercalate [mark] parts ++ mark :: last := by
  rw [intercalate_append some (List.cons_ne_nil _ _), List.intercalate_singleton]

end Pieces

section Ends

variable {s : List Char}

/-- The lines of a text that ends within one. -/
def linesWithin (s : List Char) : List (List Char) :=
  (pieces '\n' s).dropLast.map unreturned ++ (pieces '\n' s).getLast?.toList

theorem linesWithin_of_unbroken (h : Unbroken s) : linesWithin s = [s] := by
  rw [linesWithin, pieces_of_not_mem h.1]
  rfl

theorem linesWithin_intercalate {ls : List (List Char)} (some : ls ≠ []) (h : ∀ line ∈ ls, Unbroken line) :
    linesWithin (List.intercalate ['\n'] ls) = ls := by
  have cut : pieces '\n' (List.intercalate ['\n'] ls) = ls := by
    rw [pieces_intercalate some, flatMap_pieces fun line there => (h line there).1]
  have same : ls.dropLast.map unreturned = ls.dropLast.map id :=
    List.map_congr_left fun line there => unreturned_of_unbroken (h line (List.dropLast_subset ls there))
  rw [linesWithin, cut, same, List.map_id, List.getLast?_eq_some_getLast some]
  exact List.dropLast_concat_getLast some

theorem not_mem_of_mem_linesWithin {line : List Char} (h : line ∈ linesWithin s) : '\n' ∉ line := by
  rcases List.mem_append.mp h with earlier | last
  · obtain ⟨piece, there, rfl⟩ := List.mem_map.mp earlier
    exact fun feed => not_mem_of_mem_pieces (List.dropLast_subset _ there) (mem_of_mem_unreturned feed)
  · exact not_mem_of_mem_pieces (List.mem_of_getLast? (Option.mem_toList.mp last))

theorem lines_eq_linesWithin {c : Char} (last : s.getLast? = some c) (other : c ≠ '\n') :
    lines s = linesWithin s := by
  obtain ⟨earlier, final, cut⟩ : ∃ earlier final, pieces '\n' s = earlier ++ [final] :=
    ⟨_, _, (List.dropLast_concat_getLast (pieces_ne_nil '\n' s)).symm⟩
  have one {piece : List Char} (there : piece ∈ earlier ++ [final]) : '\n' ∉ piece :=
    not_mem_of_mem_pieces (cut ▸ there)
  have whole : s = List.intercalate ['\n'] (earlier ++ [final]) := by rw [← cut, intercalate_pieces]
  have some : final ≠ [] := by
    rintro rfl
    by_cases none : earlier = []
    · rw [none, List.nil_append, List.intercalate_singleton] at whole
      rw [whole] at last
      cases last
    · rw [intercalate_concat none] at whole
      rw [whole, List.getLast?_concat] at last
      exact other (Option.some.inj last).symm
  rw [linesWithin, cut, List.dropLast_concat, List.getLast?_concat, whole,
    lines_intercalate_concat (fun piece there => one (List.mem_append_left _ there)) some
      (one (List.mem_append_right _ List.mem_cons_self))]
  rfl

/-- Cut at line feeds, an indented text is its lines, each two columns further to the right. -/
theorem pieces_indent {c : Char} (last : s.getLast? = some c) (other : c ≠ '\n') :
    pieces '\n' (indent s) = (linesWithin s).map fun line => ' ' :: ' ' :: line := by
  have some : linesWithin s ≠ [] := by
    intro none
    have final := (List.append_eq_nil_iff.mp none).2
    rw [List.getLast?_eq_some_getLast (pieces_ne_nil '\n' s)] at final
    cases final
  rw [indent, lines_eq_linesWithin last other, pieces_intercalate (mt List.map_eq_nil_iff.mp some),
    flatMap_pieces]
  intro line there
  obtain ⟨inner, within, rfl⟩ := List.mem_map.mp there
  simpa using not_mem_of_mem_linesWithin within

end Ends

end PageWalk.Text
