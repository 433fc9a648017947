import PageWalk.Proofs.Lines
import PageWalk.World.FilePath
import Mathlib.Data.List.TakeWhile
import Mathlib.Tactic.SplitIfs

/-!
# File paths

The directory of a path is what the path begins with, but for parts that do not count. A name joined to
a directory is the last part of a path that begins as that of the directory does.
-/

namespace PageWalk.FilePath

set_option autoImplicit false

/-- A part of a path that does not count. -/
abbrev IsDot (part : List Char) : Prop :=
  part = [] ∨ part = ['.']

theorem exists_trimmed (parts : List (List Char)) :
    ∃ dots, parts = trimmed parts ++ dots ∧ ∀ part ∈ dots, IsDot part := by
  cases parts with
  | nil => exact ⟨[], rfl, List.forall_mem_nil _⟩
  | cons first rest =>
    let isDot : List Char → Bool := fun part => part = [] || part = ['.']
    refine ⟨(rest.reverse.takeWhile isDot).reverse, ?_, fun part there => ?_⟩
    · have whole : rest.reverse.takeWhile isDot ++ rest.reverse.dropWhile isDot = rest.reverse :=
        List.takeWhile_append_dropWhile
      have back := congrArg List.reverse whole
      rw [List.reverse_append, List.reverse_reverse] at back
      exact congrArg (first :: ·) back.symm
    · have dot : isDot part = true := List.mem_takeWhile_imp (List.mem_reverse.mp there)
      simpa [isDot] using dot

theorem trimmed_ne_nil {parts : List (List Char)} (h : parts ≠ []) : trimmed parts ≠ [] := by
  cases parts with
  | nil => exact absurd rfl h
  | cons first rest => exact List.cons_ne_nil _ _

theorem ofParts_begins {parts more : List (List Char)} (some_part : parts ≠ [])
    (some_more : more ≠ []) : ofParts parts <+: List.intercalate ['/'] (parts ++ more) := by
  rw [Text.intercalate_append some_part some_more]
  unfold ofParts
  split
  · exact List.prefix_append _ _
  · exact List.prefix_append _ _

theorem pieces_ofParts {parts : List (List Char)} (some_part : parts ≠ [])
    (h : ∀ part ∈ parts, '/' ∉ part) :
    Text.pieces '/' (ofParts parts) = parts ∨ Text.pieces '/' (ofParts parts) = parts ++ [[]] := by
  unfold ofParts
  split
  · exact .inr rfl
  · left
    rw [Text.pieces_intercalate some_part, Text.flatMap_pieces h]

/-- The path of the directory that a file lies in is the beginning of the path of the file. -/
theorem exists_of_parent? {path parent : String} (h : parent? path = some parent)
    (named : parent ≠ "") :
    parent.toList <+: path.toList ∧ ∃ base dots part rest,
      Text.pieces '/' path.toList = base ++ dots ++ part :: rest ∧
      (Text.pieces '/' parent.toList = base ∨ Text.pieces '/' parent.toList = base ++ [[]]) ∧
      (∀ dot ∈ dots, IsDot dot) ∧ ∀ dot ∈ rest, IsDot dot := by
  obtain ⟨rest, whole, of_rest⟩ := exists_trimmed (Text.pieces '/' path.toList)
  have unmarked : ∀ part ∈ Text.pieces '/' path.toList, '/' ∉ part :=
    fun part => Text.not_mem_of_mem_pieces
  unfold parent? at h
  generalize trimmed (Text.pieces '/' path.toList) = parts at h whole
  split at h
  · cases h
  · cases h
  · exact absurd (Option.some.inj h).symm named
  · next none root single =>
    obtain rfl := Option.some.inj h
    have some_part : parts ≠ [] := none
    have init : parts.dropLast ≠ [] := by
      intro empty
      have length := congrArg List.length empty
      have pos := List.length_pos_iff.mpr some_part
      rw [List.length_dropLast, List.length_nil] at length
      obtain ⟨only, rfl⟩ := List.length_eq_one_iff.mp (show parts.length = 1 by omega)
      exact single only rfl
    obtain ⟨dots, split, of_dots⟩ := exists_trimmed parts.dropLast
    have pieces : Text.pieces '/' path.toList =
        trimmed parts.dropLast ++ (dots ++ parts.getLast some_part :: rest) := by
      rw [whole, ← List.append_assoc, ← split, List.append_cons, List.dropLast_concat_getLast]
    have slashless : ∀ part ∈ trimmed parts.dropLast, '/' ∉ part := by
      intro part there
      exact unmarked part (pieces ▸ List.mem_append_left _ there)
    have begins := ofParts_begins (trimmed_ne_nil init)
      (List.append_ne_nil_of_right_ne_nil dots (List.cons_ne_nil (parts.getLast some_part) rest))
    rw [← pieces, Text.intercalate_pieces] at begins
    rw [String.toList_ofList]
    refine ⟨begins, trimmed parts.dropLast, dots, parts.getLast some_part, rest, ?_,
      pieces_ofParts (trimmed_ne_nil init) slashless, of_dots, of_rest⟩
    rw [pieces, List.append_assoc]

/-- A name that leads from a directory to what lies in it. -/
def IsName (name : String) : Prop :=
  ¬ IsDot name.toList ∧ name ≠ ".." ∧ '/' ∉ name.toList ∧ '\x00' ∉ name.toList

instance (name : String) : Decidable (IsName name) :=
  inferInstanceAs (Decidable (_ ∧ _))

section Joining

variable {directory name : String}

theorem toList_join_begins (directory name : String) :
    directory.toList <+: (join directory name).toList := by
  unfold join
  split_ifs
  · rw [String.toList_append]
    exact List.prefix_append _ _
  · rw [String.toList_append, String.toList_append, List.append_assoc]
    exact List.prefix_append _ _

/-- A joined path leads where the directory leads, and then to the name. -/
theorem pieces_join (named : directory ≠ "") (slash : '/' ∉ name.toList) :
    ∃ base dots, base ≠ [] ∧ (dots = [] ∨ dots = [[]]) ∧
      Text.pieces '/' directory.toList = base ++ dots ∧
      Text.pieces '/' (join directory name).toList = base ++ [name.toList] := by
  have one := Text.pieces_of_not_mem slash
  by_cases ends : directory.toList.getLast? = some '/'
  · obtain ⟨front, whole⟩ := List.getLast?_eq_some_iff.mp ends
    refine ⟨Text.pieces '/' front, [[]], Text.pieces_ne_nil _ _, .inr rfl, ?_, ?_⟩
    · rw [whole, Text.pieces_append_mark]
      rfl
    · rw [join, if_pos (.inr ends), String.toList_append, whole, List.append_assoc,
        List.singleton_append, Text.pieces_append_mark, one]
  · refine ⟨Text.pieces '/' directory.toList, [], Text.pieces_ne_nil _ _, .inl rfl, ?_, ?_⟩
    · rw [List.append_nil]
    · have alone : ¬ (directory = "" ∨ directory.toList.getLast? = some '/') := by
        rw [not_or]
        exact ⟨named, ends⟩
      have mark : "/".toList = ['/'] := rfl
      rw [join, if_neg alone, String.toList_append, String.toList_append, mark, List.append_assoc,
        List.singleton_append, Text.pieces_append_mark, one]

theorem trimmed_concat {parts : List (List Char)} {part : List Char} (some_part : parts ≠ [])
    (plain : ¬ IsDot part) : trimmed (parts ++ [part]) = parts ++ [part] := by
  cases parts with
  | nil => exact absurd rfl some_part
  | cons first rest =>
    have keeps : ¬ (decide (part = []) || decide (part = ['.'])) = true := by
      simpa [IsDot] using plain
    rw [List.cons_append, trimmed, List.reverse_append, List.reverse_singleton,
      List.singleton_append, List.dropWhile_cons, if_neg keeps, List.reverse_cons,
      List.reverse_reverse]

theorem parent?_of_trimmed {path : String} {parts : List (List Char)}
    (h : trimmed (Text.pieces '/' path.toList) = parts) (long : 2 ≤ parts.length) :
    parent? path = some (String.ofList (ofParts (trimmed parts.dropLast))) := by
  unfold parent?
  rw [h]
  split
  · exact absurd long (by decide)
  · exact absurd long (by decide)
  · exact absurd long (Nat.not_succ_le_self 1)
  · rfl

theorem ofParts_ne_nil {parts : List (List Char)} (some_part : parts ≠ [])
    (slashless : ∀ part ∈ parts, '/' ∉ part) : ofParts parts ≠ [] := by
  intro empty
  have pieces := pieces_ofParts some_part slashless
  rw [empty] at pieces
  have nil : Text.pieces '/' [] = [[]] := rfl
  rw [nil] at pieces
  rcases pieces with same | same
  · rw [← same] at empty
    cases empty
  · have length := congrArg List.length same
    have pos := List.length_pos_iff.mpr some_part
    rw [List.length_append] at length
    simp only [List.length_singleton] at length
    omega

/-- The directory of a joined path is the directory, but for parts at its end that do not count. -/
theorem exists_parent?_join (named : directory ≠ "") (is_name : IsName name) :
    ∃ parent kept gone dots, parent? (join directory name) = some parent ∧ parent ≠ "" ∧
      Text.pieces '/' directory.toList = kept ++ (gone ++ dots) ∧
      Text.pieces '/' (join directory name).toList = kept ++ gone ++ [name.toList] ∧
      (∀ dot ∈ gone, IsDot dot) ∧ (∀ dot ∈ dots, dot = []) ∧
      (Text.pieces '/' parent.toList = kept ∨ Text.pieces '/' parent.toList = kept ++ [[]]) := by
  obtain ⟨plain, up, slash, zero⟩ := is_name
  obtain ⟨base, dots, some_part, of_dots, whole, joined⟩ := pieces_join named slash
  obtain ⟨gone, split, of_gone⟩ := exists_trimmed base
  have slashless : ∀ part ∈ trimmed base, '/' ∉ part := by
    intro part there
    have mem : part ∈ Text.pieces '/' directory.toList := by
      rw [whole, split]
      exact List.mem_append_left _ (List.mem_append_left _ there)
    exact Text.not_mem_of_mem_pieces mem
  have long : 2 ≤ (base ++ [name.toList]).length := by
    have pos := List.length_pos_iff.mpr some_part
    rw [List.length_append, List.length_singleton]
    omega
  have last : trimmed (Text.pieces '/' (join directory name).toList) = base ++ [name.toList] := by
    rw [joined, trimmed_concat some_part plain]
  have parent := parent?_of_trimmed last long
  rw [List.dropLast_concat] at parent
  have pieces := pieces_ofParts (trimmed_ne_nil some_part) slashless
  refine ⟨_, trimmed base, gone, dots, parent, ?_, ?_, ?_, of_gone, ?_, ?_⟩
  · intro empty
    have chars := congrArg String.toList empty
    rw [String.toList_ofList] at chars
    exact ofParts_ne_nil (trimmed_ne_nil some_part) slashless chars
  · rw [← List.append_assoc, ← split, whole]
  · rw [← split, joined]
  · rcases of_dots with rfl | rfl
    · exact List.forall_mem_nil _
    · exact List.forall_mem_singleton.mpr rfl
  · rw [String.toList_ofList]
    exact pieces

end Joining

end PageWalk.FilePath
