import PageWalk.Proofs.SessionList
import Mathlib.Logic.Function.Basic

/-!
# Session stores as shelves

A shelf maps the name of a file to what was last written to it. A store answers every operation as its
shelf does, whatever was done before, also by others that write to its files. Nothing can be written as
long as the directory of the store is not there and cannot be made.
-/

namespace PageWalk

set_option autoImplicit false

/-- What was last written to a file. -/
inductive Kept where
  | saved (d : Session)
  | written (text : String)

namespace Kept

def text : Kept → String
  | saved d => d.text
  | written text => text

def session? : Kept → Option Session
  | saved d => some d
  | written text => Session.ofText? text

end Kept

abbrev Shelf := String → Option Kept

inductive StoreOp where
  | save (name : String) (d : Session)
  | load (name : String)
  | delete (name : String)
  | list
  /-- Something else writes a text to a file in the directory of the store. -/
  | write (file text : String)

namespace SessionStore

/-- A name that a file in the directory of a store can have. -/
structure Fits (store : SessionStore) (file : String) : Prop where
  is_name : FilePath.IsName file
  name : file.utf8ByteSize ≤ FileTree.maxName
  path : (FilePath.join store.directory file).utf8ByteSize ≤ FileTree.maxPath

/-- A name that a session of a store can have. -/
structure CanName (store : SessionStore) (name : String) : Prop where
  some_name : name ≠ ""
  plain : isPath name = false
  zero : '\x00' ∉ name.toList
  file : (fileName name).utf8ByteSize ≤ FileTree.maxName
  path : (FilePath.join store.directory (fileName name)).utf8ByteSize ≤ FileTree.maxPath

/-- Whether a list of sessions tells of one by this name, with so many commands and cookies. -/
def ListsSession (reply : Except Fault (List SessionEntry)) (name : String) (commands cookies : Nat) : Prop :=
  ∃ entries, reply = .ok entries ∧ ∃ e ∈ entries,
    e.name = name ∧ e.commands = commands ∧ e.cookies = cookies

end SessionStore

namespace StoreOp

open SessionStore (fileName)

def Reply : StoreOp → Type
  | save _ _ => Except Fault String
  | load _ => Session
  | delete _ => Except Fault Unit
  | list => Except Fault (List SessionEntry)
  | write _ _ => Except FileError Unit

def run (store : SessionStore) : (op : StoreOp) → FileTree → op.Reply × FileTree
  | save name d, tree => (store.save name d).run FileTree.respond tree
  | load name, tree => (store.load name).run FileTree.respond tree
  | delete name, tree => (store.delete name).run FileTree.respond tree
  | list, tree => store.list.run FileTree.respond tree
  | write file text, tree =>
    let path := FilePath.join store.directory file
    tree.after do (← tree.parentMade path).write path (.text text)

def Valid (store : SessionStore) : StoreOp → Prop
  | save name d => store.CanName name ∧ d.Arises
  | load name => store.CanName name
  | delete name => store.CanName name
  | list => True
  | write file _ => store.Fits file

def file? : StoreOp → Option String
  | save name _ => some (fileName name)
  | load name => some (fileName name)
  | delete name => some (fileName name)
  | list => none
  | write file _ => some file

/-- What a shelf answers. -/
def Answers (able : Bool) (store : SessionStore) (shelf : Shelf) : (op : StoreOp) → op.Reply → Prop
  | save name _, reply =>
    if able then reply = .ok (store.resolve name) else ∃ fault, reply = .error fault
  | load name, reply => reply = ((shelf (fileName name)).bind Kept.session?).getD {}
  | delete name, reply =>
    reply = if (shelf (fileName name)).isSome then .ok () else .error (SessionStore.missing name)
  | list, reply =>
    (∃ entries, reply = .ok entries ∧ entries.Pairwise fun a b =>
      Text.Utf8.encode a.name.toList < Text.Utf8.encode b.name.toList) ∧
    ∀ name commands cookies, SessionStore.ListsSession reply name commands cookies ↔
      name ≠ "" ∧ ∃ d, (shelf (fileName name)).bind Kept.session? = some d ∧
        commands = d.history.length ∧ cookies = d.cookies.length
  | write _ _, reply => if able then reply = .ok () else ∃ e, reply = .error e

def next (able : Bool) : StoreOp → Shelf → Shelf
  | save name d, shelf =>
    if able then Function.update shelf (fileName name) (some (.saved d)) else shelf
  | load _, shelf => shelf
  | delete name, shelf => Function.update shelf (fileName name) none
  | list, shelf => shelf
  | write file text, shelf => if able then Function.update shelf file (some (.written text)) else shelf

end StoreOp

namespace SessionStore

variable {store : SessionStore} {tree made : FileTree} {place : Location} {shelf : Shelf}
  {name file : String}

/-! ## Names -/

theorem CanName.resolve (h : store.CanName name) :
    store.resolve name = FilePath.join store.directory (fileName name) := by
  unfold SessionStore.resolve
  rw [if_neg (by simp [h.plain])]
  rfl

theorem CanName.fits (h : store.CanName name) : store.Fits (fileName name) := by
  have ends : (fileName name).toList = name.toList ++ ".json".toList := by
    simp [fileName, ending, String.toList_append]
  have slash : '/' ∉ name.toList := by
    have plain := h.plain
    unfold isPath at plain
    simp only [Bool.or_eq_false_iff, decide_eq_false_iff_not] at plain
    exact plain.1
  refine ⟨⟨?_, ?_, ?_, ?_⟩, h.file, h.path⟩
  · rw [ends]
    rintro (empty | dot)
    · simp at empty
    · have last := congrArg List.getLast? dot
      simp at last
  · intro up
    have last := congrArg (fun s : String => s.toList.getLast?) up
    simp [ends] at last
  · rw [ends, List.mem_append]
    exact fun there => there.elim slash (by decide)
  · rw [ends, List.mem_append]
    exact fun there => there.elim h.zero (by decide)

/-! ## Directories with files only -/

/-- The directory of a store is there and its files are those on a shelf. -/
structure Holds (store : SessionStore) (place : Location) (shelf : Shelf) (tree : FileTree) :
    Prop where
  leads : tree.locate store.directory = .ok place
  directory : tree.isDirectory place = true
  flat : ∀ file, tree.isDirectory (place ++ [file]) = false
  once : (tree.fileNames place).Nodup
  fits : ∀ file, (shelf file).isSome = true → store.Fits file
  storable : ∀ file d, shelf file = some (.saved d) → d.Storable
  kept : ∀ file, (tree.content? (place ++ [file])).map FileContent.text? =
    (shelf file).map fun kept => some kept.text

namespace Holds

theorem named (h : store.Holds place shelf tree) : store.directory ≠ "" :=
  (FileTree.locate_eq_ok_iff.mp h.leads).1

theorem locate_file (h : store.Holds place shelf tree) (fits : store.Fits file) :
    tree.locate (FilePath.join store.directory file) = .ok (place ++ [file]) :=
  (FileTree.locate_join h.named fits.is_name fits.name fits.path).mpr
    ⟨place, h.leads, h.directory, rfl⟩

theorem isFile_iff (h : store.Holds place shelf tree) :
    tree.isFile (place ++ [file]) = (shelf file).isSome := by
  have same := congrArg Option.isSome (h.kept file)
  rw [Option.isSome_map, Option.isSome_map] at same
  exact same

theorem read_file (h : store.Holds place shelf tree) (fits : store.Fits file) :
    (∀ kept, shelf file = some kept →
      tree.read (FilePath.join store.directory file) = .ok kept.text) ∧
    (shelf file = none → tree.read (FilePath.join store.directory file) = .error .notFound) := by
  have leads := h.locate_file fits
  have same := h.kept file
  refine ⟨fun kept there => ?_, fun gone => ?_⟩
  · rw [there] at same
    obtain ⟨content, there, of_text⟩ := Option.map_eq_some_iff.mp same
    exact FileTree.read_of_content leads there of_text
  · rw [gone] at same
    have none := Option.map_eq_none_iff.mp same
    unfold FileTree.read
    rw [leads]
    simp only [bind, Except.bind, none, h.flat file]
    rfl

theorem decodes (h : store.Holds place shelf tree) {kept : Kept} (there : shelf file = some kept) :
    Session.ofText? kept.text = kept.session? := by
  cases kept with
  | saved d => exact Session.ofText?_text (h.storable file d there)
  | written text => rfl

theorem sessionAt_eq (h : store.Holds place shelf tree) (fits : store.Fits file) :
    sessionAt tree (FilePath.join store.directory file) =
      ((shelf file).bind Kept.session?).getD {} := by
  obtain ⟨present, absent⟩ := h.read_file fits
  unfold sessionAt
  cases there : shelf file with
  | none => rw [absent there, Option.bind_none, Option.getD_none]
  | some kept => rw [present kept there, Option.bind_some, ← h.decodes there]

theorem isThere_file (h : store.Holds place shelf tree) (fits : store.Fits file) :
    tree.isThere (FilePath.join store.directory file) = (shelf file).isSome := by
  unfold FileTree.isThere
  rw [h.locate_file fits]
  simp only [h.isFile_iff, h.flat file, Bool.or_false]

theorem isThere (h : store.Holds place shelf tree) : tree.isThere store.directory = true := by
  unfold FileTree.isThere
  rw [h.leads]
  simp [h.directory]

theorem list_eq (h : store.Holds place shelf tree) :
    tree.list store.directory = .ok (tree.fileNames place) :=
  FileTree.list_of_flat h.leads h.directory h.flat

theorem mem_fileNames (h : store.Holds place shelf tree) :
    file ∈ tree.fileNames place ↔ (shelf file).isSome = true := by
  rw [FileTree.mem_fileNames, h.isFile_iff]

theorem makeDirectories_eq (h : store.Holds place shelf tree) :
    tree.makeDirectories store.directory = .ok tree :=
  FileTree.makeDirectories_of_locate h.leads h.directory

/-- Something else is kept in one file. -/
theorem update (h : store.Holds place shelf tree) {kept : Option Kept} {after : FileTree}
    (here : after.here = tree.here) (directories : after.directories = tree.directories)
    (once : (after.fileNames place).Nodup) (fits : kept.isSome = true → store.Fits file)
    (storable : ∀ d, kept = some (.saved d) → d.Storable)
    (self : (after.content? (place ++ [file])).map FileContent.text? = kept.map fun k => some k.text)
    (others : ∀ last, last ≠ place ++ [file] → after.content? last = tree.content? last) :
    store.Holds place (Function.update shelf file kept) after := by
  have same_directories : after.isDirectory = tree.isDirectory := by
    unfold FileTree.isDirectory
    rw [directories]
  refine ⟨?_, ?_, ?_, once, ?_, ?_, ?_⟩
  · exact FileTree.locate_mono here (fun _ there => by rw [same_directories, there]) h.leads
  · rw [same_directories]
    exact h.directory
  · rw [same_directories]
    exact h.flat
  · intro other
    by_cases same : other = file
    · rw [same, Function.update_self]
      exact fits
    · rw [Function.update_of_ne same]
      exact h.fits other
  · intro other
    by_cases same : other = file
    · rw [same, Function.update_self]
      exact storable
    · rw [Function.update_of_ne same]
      exact h.storable other
  · intro other
    by_cases same : other = file
    · rw [same, Function.update_self]
      exact self
    · have apart : place ++ [other] ≠ place ++ [file] := by simpa using same
      rw [Function.update_of_ne same, others _ apart]
      exact h.kept other

theorem put (h : store.Holds place shelf tree) (fits : store.Fits file) {kept : Kept}
    (storable : ∀ d, kept = .saved d → d.Storable) :
    store.Holds place (Function.update shelf file (some kept))
      (tree.put (place ++ [file]) (.text kept.text)) := by
  refine h.update rfl rfl (FileTree.nodup_fileNames_put h.once) (fun _ => fits) ?_ ?_ ?_
  · exact fun d same => storable d (Option.some.inj same)
  · rw [FileTree.content?_put_self]
    rfl
  · exact fun last ne => FileTree.content?_put_of_ne ne

theorem without (h : store.Holds place shelf tree) (file : String) :
    store.Holds place (Function.update shelf file none) (tree.without (place ++ [file])) := by
  refine h.update rfl rfl (FileTree.nodup_fileNames_without h.once) nofun nofun ?_ ?_
  · rw [FileTree.content?_without_self]
    rfl
  · exact fun last ne => FileTree.content?_without_of_ne ne

theorem listsSession_iff (h : store.Holds place shelf tree) {commands cookies : Nat} :
    ListsSession (store.list.run FileTree.respond tree).1 name commands cookies ↔
      name ≠ "" ∧ ∃ d, (shelf (fileName name)).bind Kept.session? = some d ∧
        commands = d.history.length ∧ cookies = d.cookies.length := by
  rw [run_list h.list_eq h.isThere]
  have mem : ∀ e, e ∈ store.entriesAt tree (tree.fileNames place) ↔
      ∃ file, file ∈ tree.fileNames place ∧ store.entryAt tree file = some e := by
    intro e
    rw [entriesAt, List.mem_mergeSort, List.mem_filterMap]
  constructor
  · rintro ⟨entries, listed, e, there, rfl, rfl, rfl⟩
    obtain rfl := Except.ok.inj listed
    obtain ⟨file, there, told⟩ := (mem e).mp there
    obtain ⟨rfl, some_name, lies, -, text, d, read, decodes, of_commands, of_cookies⟩ :=
      entryAt_eq_some_iff.mp told
    obtain ⟨kept, of_file⟩ := Option.isSome_iff_exists.mp (h.mem_fileNames.mp there)
    have same := (h.read_file (h.fits _ (h.mem_fileNames.mp there))).1 kept of_file
    rw [lies, same] at read
    obtain rfl := Except.ok.inj read
    rw [h.decodes of_file] at decodes
    exact ⟨some_name, d, by rw [of_file, Option.bind_some, decodes], of_commands, of_cookies⟩
  · rintro ⟨some_name, d, held, rfl, rfl⟩
    obtain ⟨kept, of_file, decodes⟩ := Option.bind_eq_some_iff.mp held
    have there : fileName name ∈ tree.fileNames place := by
      rw [h.mem_fileNames, of_file]
      rfl
    have read := (h.read_file (h.fits _ (h.mem_fileNames.mp there))).1 kept of_file
    let path := FilePath.join store.directory (fileName name)
    let e : SessionEntry :=
      { name, path, commands := d.history.length, cookies := d.cookies.length,
        modified := if tree.isThere path then some tree.changed else none }
    refine ⟨_, rfl, e, (mem e).mpr ⟨_, there, ?_⟩, rfl, rfl, rfl⟩
    rw [entryAt_eq_some_iff]
    exact ⟨rfl, some_name, rfl, rfl, kept.text, d, read, (h.decodes of_file).trans decodes, rfl, rfl⟩

end Holds

end SessionStore

end PageWalk
