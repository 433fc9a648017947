import PageWalk.Proofs.Decoding
import PageWalk.Proofs.FilePath
import PageWalk.World.FileTree
import Mathlib.Data.List.Basic
import Mathlib.Data.List.Find
import Mathlib.Tactic.SplitIfs

/-!
# Trees of files

Where a path leads depends on the directories alone. Making directories leaves the files as they are
and only adds directories, so that paths lead where they led before.
-/

namespace PageWalk

set_option autoImplicit false

open Json (exists_of_bind_ok)

open FilePath (IsDot)

namespace FileTree

variable {tree made other : FileTree} {place last : Location} {parts more : List (List Char)}
  {path : String}

/-! ## Following a path -/

theorem enter_eq_ok_iff : tree.enter place = .ok () ↔ tree.isDirectory place = true := by
  unfold enter
  split_ifs <;> simp_all

theorem follow_append : tree.follow place (parts ++ more) =
    (tree.follow place parts).bind fun last => tree.follow last more := by
  induction parts generalizing place with
  | nil => rfl
  | cons part parts ih =>
    rw [List.cons_append, follow, follow]
    cases tree.enter place with
    | error e => rfl
    | ok _ =>
      simp only [bind, Except.bind]
      split_ifs
      · exact ih
      · exact ih
      · rfl
      · exact ih

theorem isDirectory_of_follow {part : List Char} (h : tree.follow place (part :: parts) = .ok last) :
    tree.isDirectory place = true := by
  rw [follow] at h
  obtain ⟨_, enter, -⟩ := exists_of_bind_ok h
  exact enter_eq_ok_iff.mp enter

/-- One tree after another, in which only directories were added. -/
structure Extends (tree made : FileTree) : Prop where
  files : made.files = tree.files
  here : made.here = tree.here
  directories : ∀ place, tree.isDirectory place = true → made.isDirectory place = true

namespace Extends

theorem refl (tree : FileTree) : tree.Extends tree :=
  ⟨rfl, rfl, fun _ h => h⟩

theorem trans (first : tree.Extends made) (second : made.Extends other) : tree.Extends other :=
  ⟨second.files.trans first.files, second.here.trans first.here,
    fun place h => second.directories place (first.directories place h)⟩

end Extends

theorem follow_mono (more : ∀ place, tree.isDirectory place = true → other.isDirectory place = true)
    (h : tree.follow place parts = .ok last) : other.follow place parts = .ok last := by
  induction parts generalizing place with
  | nil => exact h
  | cons part parts ih =>
    have entered := enter_eq_ok_iff.mpr (more place (isDirectory_of_follow h))
    rw [follow, enter_eq_ok_iff.mpr (isDirectory_of_follow h)] at h
    rw [follow, entered]
    simp only [bind, Except.bind] at h ⊢
    split_ifs at h ⊢
    · exact ih h
    · exact ih h
    · exact ih h

/-- Where a path begins. -/
def beginning (tree : FileTree) (path : String) : Location :=
  if path.toList.head? = some '/' then [] else tree.here

theorem locate_eq_ok_iff : tree.locate path = .ok last ↔
    path ≠ "" ∧ '\x00' ∉ path.toList ∧ path.utf8ByteSize ≤ maxPath ∧
      tree.follow (tree.beginning path) (Text.pieces '/' path.toList) = .ok last := by
  by_cases named : path = ""
  · simp [locate, named]
  · by_cases zero : '\x00' ∈ path.toList
    · simp [locate, named, zero]
    · by_cases long : maxPath < path.utf8ByteSize
      · simp [locate, named, zero, long, Nat.not_le.mpr long]
      · rw [locate, if_neg named, if_neg zero, if_neg long]
        simp only [ne_eq, named, zero, Nat.not_lt.mp long, not_false_eq_true, true_and]
        rfl

theorem locate_mono (here : other.here = tree.here)
    (more : ∀ place, tree.isDirectory place = true → other.isDirectory place = true)
    (h : tree.locate path = .ok last) : other.locate path = .ok last := by
  rw [locate_eq_ok_iff] at h ⊢
  obtain ⟨named, zero, short, leads⟩ := h
  have same : other.beginning path = tree.beginning path := by rw [beginning, here, beginning]
  rw [same]
  exact ⟨named, zero, short, follow_mono more leads⟩

/-! ## Contents -/

section Contents

variable {content : FileContent}

def without (tree : FileTree) (place : Location) : FileTree :=
  { tree with files := tree.files.filter (·.1 != place) }

theorem content?_without_self : (tree.without place).content? place = none := by
  simp [without, content?, List.find?_filter]

theorem content?_without_of_ne (ne : last ≠ place) :
    (tree.without place).content? last = tree.content? last := by
  have same : (tree.files.filter (·.1 != place)).find? (·.1 == last) =
      tree.files.find? (·.1 == last) := by
    rw [List.find?_filter]
    refine List.find?_congr fun file _ => ?_
    by_cases lies : file.1 = last
    · simp [lies, ne]
    · simp [lies]
  rw [content?, without, same, content?]

theorem content?_put_self : (tree.put place content).content? place = some content := by
  simp [put, content?]

theorem content?_put_of_ne (ne : last ≠ place) :
    (tree.put place content).content? last = tree.content? last := by
  have first : (place == last) = false := beq_eq_false_iff_ne.mpr (Ne.symm ne)
  have later : (tree.without place).content? last = tree.content? last := content?_without_of_ne ne
  rw [← later, content?, put, List.find?_cons_of_neg (by simp [first])]
  rfl

theorem put_put {newer : FileContent} :
    (tree.put place content).put place newer = tree.put place newer := by
  simp [put, List.filter_filter]

theorem locate_put (h : tree.locate path = .ok last) :
    (tree.put place content).locate path = .ok last := by
  have leads : (tree.put place content).locate path = .ok last :=
    locate_mono (show (tree.put place content).here = tree.here from rfl) (fun _ there => there) h
  exact leads

theorem write_eq_ok_iff : tree.write path content = .ok made ↔
    ∃ place, tree.locate path = .ok place ∧ tree.isDirectory place = false ∧
      made = tree.put place content := by
  constructor
  · intro h
    unfold write at h
    obtain ⟨place, leads, h⟩ := exists_of_bind_ok h
    split_ifs at h with directory
    cases h
    exact ⟨place, leads, Bool.eq_false_iff.mpr directory, rfl⟩
  · rintro ⟨place, leads, file, rfl⟩
    unfold write
    rw [leads]
    exact if_neg (by simp [file])

theorem remove_eq_ok (leads : tree.locate path = .ok place) (directory : tree.isDirectory place = false)
    (file : tree.isFile place = true) : tree.remove path = .ok (tree.without place) := by
  unfold remove
  rw [leads]
  simp only [bind, Except.bind, directory, file]
  rfl

theorem nameIn?_eq_some_iff {name : String} : nameIn? place last = some name ↔ last = place ++ [name] := by
  unfold nameIn?
  constructor
  · intro h
    split_ifs at h with lies
    obtain ⟨some_name, rfl⟩ := lies
    obtain ⟨front, rfl⟩ := List.getLast?_eq_some_iff.mp h
    rw [List.dropLast_concat]
  · rintro rfl
    rw [if_pos ⟨List.concat_ne_nil _ _, List.dropLast_concat⟩, List.getLast?_concat]

theorem isFile_iff : tree.isFile place = true ↔ ∃ file ∈ tree.files, file.1 = place := by
  simp [isFile, content?]

def fileNames (tree : FileTree) (place : Location) : List String :=
  tree.files.filterMap fun file => nameIn? place file.1

theorem mem_fileNames {name : String} :
    name ∈ tree.fileNames place ↔ tree.isFile (place ++ [name]) = true := by
  rw [isFile_iff, fileNames, List.mem_filterMap]
  simp only [nameIn?_eq_some_iff]

theorem list_of_flat (leads : tree.locate path = .ok place) (directory : tree.isDirectory place = true)
    (flat : ∀ file, tree.isDirectory (place ++ [file]) = false) :
    tree.list path = .ok (tree.fileNames place) := by
  have none : tree.directories.filterMap (nameIn? place) = [] := by
    rw [List.filterMap_eq_nil_iff]
    intro last there
    rw [Option.eq_none_iff_forall_ne_some]
    intro name lies
    have free := flat name
    rw [← nameIn?_eq_some_iff.mp lies] at free
    simp [isDirectory, there] at free
  unfold list
  rw [leads]
  simp only [bind, Except.bind, enter_eq_ok_iff.mpr directory, none, List.append_nil]
  rfl

theorem nodup_fileNames_without (h : (tree.fileNames place).Nodup) :
    ((tree.without last).fileNames place).Nodup :=
  h.sublist (List.filter_sublist.filterMap _)

theorem nodup_fileNames_put (h : (tree.fileNames place).Nodup) :
    ((tree.put last content).fileNames place).Nodup := by
  have rest : ((tree.without last).fileNames place).Nodup := nodup_fileNames_without h
  unfold fileNames at rest ⊢
  rw [put, List.filterMap_cons]
  split
  · exact rest
  · next name lies =>
    refine List.nodup_cons.mpr ⟨fun there => ?_, rest⟩
    have file := mem_fileNames.mp (show name ∈ (tree.without last).fileNames place from there)
    rw [← nameIn?_eq_some_iff.mp lies, isFile, content?_without_self] at file
    cases file

end Contents

/-! ## Making directories -/

def withDirectory (tree : FileTree) (place : Location) : FileTree :=
  if tree.isDirectory place then tree
  else { tree with directories := place :: tree.directories }

theorem extends_withDirectory : tree.Extends (tree.withDirectory place) := by
  unfold withDirectory
  split_ifs with there
  · exact .refl tree
  · refine ⟨rfl, rfl, fun last h => ?_⟩
    simp only [isDirectory, Bool.or_eq_true, List.contains_cons] at h ⊢
    exact h.imp_right .inr

theorem isDirectory_withDirectory : (tree.withDirectory place).isDirectory place = true := by
  unfold withDirectory
  split_ifs with there
  · exact there
  · simp [isDirectory]

/-- A part is passed over, leads up or makes a directory. -/
theorem makeAlong_cons_iff {part : List Char} :
    tree.makeAlong place (part :: parts) = .ok made ↔
      (IsDot part ∧ tree.makeAlong place parts = .ok made) ∨
      (part = ['.', '.'] ∧ tree.makeAlong place.dropLast parts = .ok made) ∨
      (¬ IsDot part ∧ part ≠ ['.', '.'] ∧ (String.ofList part).utf8ByteSize ≤ maxName ∧
        (tree.isFile (place ++ [String.ofList part]) = true →
          tree.isDirectory (place ++ [String.ofList part]) = true) ∧
        (tree.withDirectory (place ++ [String.ofList part])).makeAlong
          (place ++ [String.ofList part]) parts = .ok made) := by
  rw [makeAlong]
  by_cases dot : part = [] ∨ part = ['.']
  · have up : part ≠ ['.', '.'] := by
      rintro rfl
      exact absurd dot (by decide)
    rw [if_pos dot]
    simp [IsDot, dot, up]
  · rw [if_neg dot]
    by_cases up : part = ['.', '.']
    · rw [if_pos up]
      simp [IsDot, up]
    · rw [if_neg up]
      dsimp only
      by_cases long : maxName < (String.ofList part).utf8ByteSize
      · simp [IsDot, dot, up, long, Nat.not_le.mpr long]
      · by_cases there : tree.isDirectory (place ++ [String.ofList part]) = true
        · simp [IsDot, dot, up, long, Nat.not_lt.mp long, there, withDirectory]
        · by_cases file : tree.isFile (place ++ [String.ofList part]) = true
          · simp [IsDot, dot, up, long, there, file]
          · simp [IsDot, dot, up, long, Nat.not_lt.mp long, there, file, withDirectory]

theorem makeAlong_extends (h : tree.makeAlong place parts = .ok made) : tree.Extends made := by
  induction parts generalizing tree place with
  | nil =>
    obtain rfl := Except.ok.inj h
    exact .refl _
  | cons part parts ih =>
    rcases makeAlong_cons_iff.mp h with ⟨-, h⟩ | ⟨-, h⟩ | ⟨-, -, -, -, h⟩
    · exact ih h
    · exact ih h
    · exact Extends.trans extends_withDirectory (ih h)

/-- What was made is there when it is made again. -/
theorem makeAlong_again (h : tree.makeAlong place parts = .ok made)
    (later : ∀ place, made.isDirectory place = true → other.isDirectory place = true) :
    other.makeAlong place parts = .ok other := by
  induction parts generalizing tree place with
  | nil => rfl
  | cons part parts ih =>
    rw [makeAlong_cons_iff]
    rcases makeAlong_cons_iff.mp h with ⟨dot, h⟩ | ⟨up, h⟩ | ⟨dot, up, short, -, h⟩
    · exact .inl ⟨dot, ih h⟩
    · exact .inr (.inl ⟨up, ih h⟩)
    · have there : other.isDirectory (place ++ [String.ofList part]) = true :=
        later _ ((makeAlong_extends h).directories _ isDirectory_withDirectory)
      refine .inr (.inr ⟨dot, up, short, fun _ => there, ?_⟩)
      rw [withDirectory, if_pos there]
      exact ih h

theorem makeAlong_dots (dots : ∀ part ∈ more, IsDot part) :
    tree.makeAlong place (parts ++ more) = .ok made ↔ tree.makeAlong place parts = .ok made := by
  induction parts generalizing tree place with
  | nil =>
    induction more with
    | nil => rfl
    | cons dot more ih =>
      obtain ⟨first, later⟩ := List.forall_mem_cons.mp dots
      have passed : tree.makeAlong place (dot :: more) = tree.makeAlong place more := by
        rw [makeAlong]
        exact if_pos first
      rw [List.nil_append, passed]
      exact ih later
  | cons part parts ih => rw [List.cons_append, makeAlong_cons_iff, makeAlong_cons_iff, ih, ih, ih]

/-- Nothing is made along a path that leads from directory to directory. -/
theorem makeAlong_of_follow (h : tree.follow place parts = .ok last)
    (directory : tree.isDirectory last = true) : tree.makeAlong place parts = .ok tree := by
  induction parts generalizing place with
  | nil => rfl
  | cons part parts ih =>
    rw [follow, enter_eq_ok_iff.mpr (isDirectory_of_follow h)] at h
    simp only [bind, Except.bind] at h
    rw [makeAlong]
    by_cases dot : part = [] ∨ part = ['.']
    · rw [if_pos dot] at h ⊢
      exact ih h
    · by_cases up : part = ['.', '.']
      · rw [if_neg dot, if_pos up] at h ⊢
        exact ih h
      · rw [if_neg dot, if_neg up] at h ⊢
        split_ifs at h with long
        have there : tree.isDirectory (place ++ [String.ofList part]) = true := by
          cases parts with
          | nil =>
            cases h
            exact directory
          | cons next parts => exact isDirectory_of_follow h
        rw [if_neg long, if_pos there]
        exact ih h

theorem makeDirectories_eq_ok_iff : tree.makeDirectories path = .ok made ↔
    '\x00' ∉ path.toList ∧ path.utf8ByteSize ≤ maxPath ∧
      tree.makeAlong (tree.beginning path) (Text.pieces '/' path.toList) = .ok made := by
  by_cases zero : '\x00' ∈ path.toList
  · simp [makeDirectories, zero]
  · by_cases long : maxPath < path.utf8ByteSize
    · simp [makeDirectories, zero, long, Nat.not_le.mpr long]
    · rw [makeDirectories, if_neg zero, if_neg long]
      simp only [zero, Nat.not_lt.mp long, not_false_eq_true, true_and]
      rfl

theorem makeDirectories_extends (h : tree.makeDirectories path = .ok made) : tree.Extends made :=
  makeAlong_extends (makeDirectories_eq_ok_iff.mp h).2.2

theorem makeDirectories_again (h : tree.makeDirectories path = .ok made) (here : other.here = made.here)
    (later : ∀ place, made.isDirectory place = true → other.isDirectory place = true) :
    other.makeDirectories path = .ok other := by
  have same : other.beginning path = tree.beginning path := by
    rw [beginning, here, (makeDirectories_extends h).here, beginning]
  obtain ⟨zero, short, along⟩ := makeDirectories_eq_ok_iff.mp h
  rw [makeDirectories_eq_ok_iff, same]
  exact ⟨zero, short, makeAlong_again along later⟩

theorem makeDirectories_of_locate (h : tree.locate path = .ok last)
    (directory : tree.isDirectory last = true) : tree.makeDirectories path = .ok tree := by
  obtain ⟨-, zero, short, leads⟩ := locate_eq_ok_iff.mp h
  exact makeDirectories_eq_ok_iff.mpr ⟨zero, short, makeAlong_of_follow leads directory⟩

/-! ## The directory of a file -/

/-- The tree with the directory that a file lies in, if its path names one. -/
def parentMade (tree : FileTree) (path : String) : Except FileError FileTree :=
  match FilePath.parent? path with
  | none => .ok tree
  | some parent => if parent = "" then .ok tree else tree.makeDirectories parent

theorem parentMade_extends (h : tree.parentMade path = .ok made) : tree.Extends made := by
  unfold parentMade at h
  split at h
  · cases h
    exact .refl _
  · split_ifs at h
    · cases h
      exact .refl _
    · exact makeDirectories_extends h

theorem parentMade_again (h : tree.parentMade path = .ok made) (here : other.here = made.here)
    (later : ∀ place, made.isDirectory place = true → other.isDirectory place = true) :
    other.parentMade path = .ok other := by
  unfold parentMade at h ⊢
  split at h
  · rfl
  · split_ifs at h ⊢
    · rfl
    · exact makeDirectories_again h here later

theorem beginning_of_begins {parent : String} (begins : parent.toList <+: path.toList)
    (named : parent ≠ "") : tree.beginning parent = tree.beginning path := by
  obtain ⟨more, whole⟩ := begins
  have some_char : parent.toList ≠ [] := by
    intro empty
    exact named (String.toList_eq_nil_iff.mp empty)
  rw [beginning, beginning, ← whole, List.head?_append_of_ne_nil _ some_char]

theorem utf8ByteSize_le_of_begins {parent : String} (begins : parent.toList <+: path.toList) :
    parent.utf8ByteSize ≤ path.utf8ByteSize := by
  obtain ⟨more, whole⟩ := begins
  have split : path = parent ++ String.ofList more := by
    apply String.toList_inj.mp
    rw [String.toList_append, String.toList_ofList, whole]
  rw [split, String.utf8ByteSize_append]
  exact Nat.le_add_right _ _

theorem makeDirectories_parent {parent : String} (h : FilePath.parent? path = some parent)
    (named : parent ≠ "") (zero : '\x00' ∉ path.toList) (short : path.utf8ByteSize ≤ maxPath) :
    ∃ base dots part rest, Text.pieces '/' path.toList = base ++ dots ++ part :: rest ∧
      (∀ dot ∈ dots, IsDot dot) ∧ (∀ dot ∈ rest, IsDot dot) ∧
      ∀ tree made : FileTree, tree.makeDirectories parent = .ok made ↔
        tree.makeAlong (tree.beginning path) base = .ok made := by
  obtain ⟨begins, base, dots, part, rest, split, pieces, of_dots, of_rest⟩ :=
    FilePath.exists_of_parent? h named
  refine ⟨base, dots, part, rest, split, of_dots, of_rest, fun tree made => ?_⟩
  have zero' : '\x00' ∉ parent.toList := fun there => zero (begins.subset there)
  have short' := (utf8ByteSize_le_of_begins begins).trans short
  rw [makeDirectories_eq_ok_iff, beginning_of_begins begins named]
  simp only [zero', short', not_false_eq_true, true_and]
  rcases pieces with same | same
  · rw [same]
  · rw [same]
    exact makeAlong_dots (List.forall_mem_singleton.mpr (.inl rfl))

/-- The directory of a file is there, if its path leads anywhere. -/
theorem parentMade_of_locate (h : tree.locate path = .ok last) : tree.parentMade path = .ok tree := by
  obtain ⟨-, zero, short, leads⟩ := locate_eq_ok_iff.mp h
  unfold parentMade
  split
  · rfl
  · next parent directory =>
    split_ifs with named
    · rfl
    · obtain ⟨base, dots, part, rest, split, -, -, along⟩ :=
        makeDirectories_parent directory named zero short
      rw [split, List.append_assoc, follow_append] at leads
      obtain ⟨place, to_place, leads⟩ := exists_of_bind_ok leads
      have directory : tree.isDirectory place = true := by
        cases dots with
        | nil => exact isDirectory_of_follow leads
        | cons dot dots => exact isDirectory_of_follow leads
      exact (along tree tree).mpr (makeAlong_of_follow to_place directory)

/-! ## A file in a directory -/

section Joined

variable {directory name : String}

theorem beginning_join (named : directory ≠ "") :
    tree.beginning (FilePath.join directory name) = tree.beginning directory :=
  (beginning_of_begins (FilePath.toList_join_begins directory name) named).symm

theorem zero_mem_join (zero : '\x00' ∉ name.toList) :
    '\x00' ∈ (FilePath.join directory name).toList ↔ '\x00' ∈ directory.toList := by
  unfold FilePath.join
  split_ifs
  · simp [zero]
  · simp [zero]

theorem utf8ByteSize_directory (short : (FilePath.join directory name).utf8ByteSize ≤ maxPath) :
    directory.utf8ByteSize ≤ maxPath :=
  (utf8ByteSize_le_of_begins (FilePath.toList_join_begins directory name)).trans short

theorem zero_mem_dots {kept : List (List Char)} (dots : ∀ part ∈ more, IsDot part) :
    (∃ part ∈ kept ++ more, '\x00' ∈ part) ↔ ∃ part ∈ kept, '\x00' ∈ part := by
  constructor
  · rintro ⟨part, there, zero⟩
    rcases List.mem_append.mp there with there | there
    · exact ⟨part, there, zero⟩
    · rcases dots part there with rfl | rfl
      · cases zero
      · exact absurd zero (by decide)
  · rintro ⟨part, there, zero⟩
    exact ⟨part, List.mem_append_left _ there, zero⟩

/-- Making the directory of a file in a directory is making that directory. -/
theorem parentMade_join (named : directory ≠ "") (is_name : FilePath.IsName name)
    (short : (FilePath.join directory name).utf8ByteSize ≤ maxPath) :
    tree.parentMade (FilePath.join directory name) = .ok made ↔
      tree.makeDirectories directory = .ok made := by
  obtain ⟨parent, kept, gone, dots, of_path, some_name, whole, -, of_gone, of_dots, pieces⟩ :=
    FilePath.exists_parent?_join named is_name
  obtain ⟨begins, -⟩ := FilePath.exists_of_parent? of_path some_name
  have passed : ∀ part ∈ gone ++ dots, IsDot part :=
    List.forall_mem_append.mpr ⟨of_gone, fun part there => .inl (of_dots part there)⟩
  have leads : ∃ empty, Text.pieces '/' parent.toList = kept ++ empty ∧ ∀ part ∈ empty, IsDot part := by
    rcases pieces with same | same
    · exact ⟨[], by rw [same, List.append_nil], List.forall_mem_nil _⟩
    · exact ⟨[[]], same, List.forall_mem_singleton.mpr (.inl rfl)⟩
  obtain ⟨empty, pieces, of_empty⟩ := leads
  have zero : '\x00' ∈ parent.toList ↔ '\x00' ∈ directory.toList := by
    have slash : '\x00' ≠ '/' := by decide
    rw [Text.mem_iff_exists_mem_pieces slash, Text.mem_iff_exists_mem_pieces slash, pieces, whole,
      zero_mem_dots of_empty, zero_mem_dots passed]
  have parent_short := (utf8ByteSize_le_of_begins begins).trans short
  have opens : tree.parentMade (FilePath.join directory name) = tree.makeDirectories parent := by
    rw [parentMade, of_path]
    exact if_neg some_name
  rw [opens, makeDirectories_eq_ok_iff, makeDirectories_eq_ok_iff, zero,
    beginning_of_begins begins some_name, beginning_join named, pieces, whole,
    makeAlong_dots of_empty, makeAlong_dots passed]
  simp only [parent_short, utf8ByteSize_directory short]

theorem follow_name (is_name : FilePath.IsName name) (fits : name.utf8ByteSize ≤ maxName) :
    tree.follow last [name.toList] = .ok place ↔
      tree.isDirectory last = true ∧ place = last ++ [name] := by
  obtain ⟨plain, up, -, -⟩ := is_name
  have not_up : name.toList ≠ ['.', '.'] := fun same => up (String.toList_inj.mp same)
  rw [follow]
  by_cases directory : tree.isDirectory last = true
  · rw [enter_eq_ok_iff.mpr directory, if_neg plain, if_neg not_up, String.ofList_toList,
      if_neg (Nat.not_lt.mpr fits)]
    simp only [directory, true_and]
    exact ⟨fun same => (Except.ok.inj same).symm, fun same => congrArg Except.ok same.symm⟩
  · constructor
    · intro h
      obtain ⟨_, enter, -⟩ := exists_of_bind_ok h
      exact absurd (enter_eq_ok_iff.mp enter) directory
    · rintro ⟨there, -⟩
      exact absurd there directory

theorem locate_join (named : directory ≠ "") (is_name : FilePath.IsName name)
    (fits : name.utf8ByteSize ≤ maxName)
    (short : (FilePath.join directory name).utf8ByteSize ≤ maxPath) :
    tree.locate (FilePath.join directory name) = .ok place ↔
      ∃ last, tree.locate directory = .ok last ∧ tree.isDirectory last = true ∧
        place = last ++ [name] := by
  have ⟨_, _, slash, zero⟩ := is_name
  obtain ⟨base, dots, -, of_dots, whole, joined⟩ := FilePath.pieces_join named slash
  have some_path : FilePath.join directory name ≠ "" := by
    intro empty
    have begins := FilePath.toList_join_begins directory name
    rw [empty] at begins
    exact named (String.toList_eq_nil_iff.mp (List.prefix_nil.mp begins))
  simp only [locate_eq_ok_iff, zero_mem_join zero, short, utf8ByteSize_directory short, some_path,
    named, beginning_join named, whole, joined, follow_append, true_and, ne_eq, not_false_eq_true]
  cases base_leads : tree.follow (tree.beginning directory) base with
  | error e => simp [Except.bind]
  | ok last =>
    have stays : ∀ other, tree.follow last dots = .ok other ∧ tree.isDirectory other = true ↔
        last = other ∧ tree.isDirectory last = true := by
      intro other
      rcases of_dots with rfl | rfl
      · rw [follow, Except.ok.injEq]
        exact and_congr_right fun same => by rw [same]
      · by_cases directory : tree.isDirectory last = true
        · rw [follow, enter_eq_ok_iff.mpr directory]
          show tree.follow last [] = .ok other ∧ _ ↔ _
          rw [follow, Except.ok.injEq]
          exact and_congr_right fun same => by rw [same]
        · refine ⟨fun h => absurd (isDirectory_of_follow h.1) directory, fun h => absurd h.2 directory⟩
    simp only [Except.bind, follow_name is_name fits]
    constructor
    · rintro ⟨zero, directory, lies⟩
      obtain ⟨leads, -⟩ := (stays last).mpr ⟨rfl, directory⟩
      exact ⟨last, ⟨zero, leads⟩, directory, lies⟩
    · rintro ⟨other, ⟨zero, leads⟩, directory, lies⟩
      obtain ⟨rfl, directory⟩ := (stays other).mp ⟨leads, directory⟩
      exact ⟨zero, directory, lies⟩

end Joined

end FileTree

end PageWalk
