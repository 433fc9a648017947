import PageWalk.Proofs.Shelf

/-!
# Runs of a session store

The step lemma: an operation on a store that stands as a shelf does answers as the shelf, and the store
stands as the next shelf afterwards. Runs follow by induction over the operations.
-/

namespace PageWalk

set_option autoImplicit false

/-- One tree after another, in which no file has changed but those in a directory. -/
structure FileTree.Beside (directory : String) (tree after : FileTree) : Prop where
  here : after.here = tree.here
  directories : ∀ place, tree.isDirectory place = true → after.isDirectory place = true
  contents : ∀ place, after.locate directory ≠ .ok place.dropLast →
    after.content? place = tree.content? place

namespace FileTree.Beside

variable {directory : String} {tree after later : FileTree}

theorem refl (directory : String) (tree : FileTree) : tree.Beside directory tree :=
  ⟨rfl, fun _ h => h, fun _ _ => rfl⟩

theorem trans (first : tree.Beside directory after) (second : after.Beside directory later) :
    tree.Beside directory later := by
  refine ⟨second.here.trans first.here, fun place h => ?_, fun place outside => ?_⟩
  · exact second.directories place (first.directories place h)
  · have before : after.locate directory ≠ .ok place.dropLast := by
      intro leads
      exact outside (FileTree.locate_mono second.here second.directories leads)
    exact (second.contents place outside).trans (first.contents place before)

theorem of_extends (h : tree.Extends after) : tree.Beside directory after := by
  refine ⟨h.here, h.directories, fun place _ => ?_⟩
  rw [FileTree.content?, FileTree.content?, h.files]

end FileTree.Beside

namespace SessionStore

variable {store : SessionStore} {tree : FileTree} {place : Location} {shelf : Shelf}
  {name file : String} {able : Bool}

/-- A store whose directory is not there, and is empty once it is made. -/
structure Absent (store : SessionStore) (tree : FileTree) : Prop where
  gone : tree.isThere store.directory = false
  empty : ∀ made, tree.makeDirectories store.directory = .ok made →
    ∃ place, store.Holds place (fun _ => none) made

theorem run_delete_missing (gone : tree.isThere (store.resolve name) = false) :
    (store.delete name).run FileTree.respond tree = (.error (missing name), tree) := by
  unfold SessionStore.delete
  show Program.run FileTree.respond (if tree.isThere (store.resolve name) then _ else _) tree = _
  rw [if_neg (Bool.eq_false_iff.mp gone)]
  rfl

theorem run_delete_ok {after : FileTree} (there : tree.isThere (store.resolve name) = true)
    (removed : tree.remove (store.resolve name) = .ok after) :
    (store.delete name).run FileTree.respond tree = (.ok (), after) := by
  unfold SessionStore.delete
  show Program.run FileTree.respond (if tree.isThere (store.resolve name) then _ else _) tree = _
  rw [if_pos there]
  show (Except.mapError FileError.fault (tree.after (tree.remove (store.resolve name))).1,
    (tree.after (tree.remove (store.resolve name))).2) = _
  rw [removed]
  rfl

namespace Absent

theorem named (h : store.Absent tree) : store.directory ≠ "" := by
  intro empty
  have made : tree.makeDirectories store.directory = .ok tree := by
    rw [empty]
    rfl
  obtain ⟨place, holds⟩ := h.empty tree made
  exact holds.named empty

theorem isThere_file (h : store.Absent tree) (fits : store.Fits file) :
    tree.isThere (FilePath.join store.directory file) = false := by
  unfold FileTree.isThere
  cases leads : tree.locate (FilePath.join store.directory file) with
  | error e => rfl
  | ok place =>
    obtain ⟨last, to_directory, directory, -⟩ :=
      (FileTree.locate_join h.named fits.is_name fits.name fits.path).mp leads
    have gone := h.gone
    unfold FileTree.isThere at gone
    rw [to_directory] at gone
    simp [directory] at gone

theorem sessionAt_file (h : store.Absent tree) (fits : store.Fits file) :
    sessionAt tree (FilePath.join store.directory file) = {} := by
  obtain ⟨e, unread⟩ := FileTree.exists_read_of_not_isThere (h.isThere_file fits)
  rw [sessionAt, unread]

end Absent

/-- How the files of a store and its shelf belong together, when files can be written or not. -/
inductive Stands (store : SessionStore) (able : Bool) (shelf : Shelf) (tree : FileTree) : Prop where
  | held {place : Location} (holds : store.Holds place shelf tree) (can : able = true)
  | absent (absent : store.Absent tree) (can : able = (tree.makeDirectories store.directory).isOk)
      (empty : shelf = fun _ => none)

namespace Stands

theorem exists_made (h : store.Stands true shelf tree) :
    ∃ made place, tree.makeDirectories store.directory = .ok made ∧ store.Holds place shelf made := by
  cases h with
  | held holds _ => exact ⟨tree, _, holds.makeDirectories_eq, holds⟩
  | absent absent can empty =>
    cases directory : tree.makeDirectories store.directory with
    | error e =>
      rw [directory] at can
      cases can
    | ok made =>
      obtain ⟨place, holds⟩ := absent.empty made directory
      rw [empty]
      exact ⟨made, place, rfl, holds⟩

/-- Where files can be written, the next shelf has the file. -/
theorem exists_put (h : store.Stands true shelf tree) (fits : store.Fits file) :
    ∃ made place, tree.parentMade (FilePath.join store.directory file) = .ok made ∧
      made.locate (FilePath.join store.directory file) = .ok (place ++ [file]) ∧
      made.isDirectory (place ++ [file]) = false ∧
      ∀ kept : Kept, (∀ d, kept = .saved d → d.Storable) →
        store.Stands true (Function.update shelf file (some kept))
          (made.put (place ++ [file]) (.text kept.text)) ∧
        tree.Beside store.directory (made.put (place ++ [file]) (.text kept.text)) := by
  obtain ⟨made, place, directory, holds⟩ := h.exists_made
  refine ⟨made, place, ?_, holds.locate_file fits, holds.flat file, fun kept storable => ⟨?_, ?_⟩⟩
  · exact (FileTree.parentMade_join holds.named fits.is_name fits.path).mpr directory
  · exact .held (holds.put fits storable) rfl
  · refine (FileTree.Beside.of_extends (FileTree.makeDirectories_extends directory)).trans ?_
    refine ⟨rfl, fun _ there => there, fun last outside => FileTree.content?_put_of_ne ?_⟩
    rintro rfl
    rw [FileTree.locate_put holds.leads, List.dropLast_concat] at outside
    exact outside rfl

theorem exists_unable (h : store.Stands false shelf tree) (fits : store.Fits file) :
    ∃ e, tree.parentMade (FilePath.join store.directory file) = .error e := by
  cases h with
  | held _ can => cases can
  | absent absent can empty =>
    cases parent : tree.parentMade (FilePath.join store.directory file) with
    | error e => exact ⟨e, rfl⟩
    | ok made =>
      rw [(FileTree.parentMade_join absent.named fits.is_name fits.path).mp parent] at can
      cases can

theorem save (h : store.Stands able shelf tree) (names : store.CanName name) {d : Session}
    (storable : d.Storable) :
    let after := (store.save name d).run FileTree.respond tree
    (StoreOp.save name d).Answers able store shelf after.1 ∧
      store.Stands able ((StoreOp.save name d).next able shelf) after.2 ∧
      tree.Beside store.directory after.2 := by
  intro after
  have resolve := names.resolve
  cases able with
  | true =>
    obtain ⟨made, place, directory, leads, file, standing⟩ := h.exists_put names.fits
    rw [← resolve] at directory leads
    have run : after = _ := run_save_ok directory leads file
    obtain ⟨stands, beside⟩ := standing (.saved d) fun other same => by cases same; exact storable
    rw [run]
    exact ⟨rfl, stands, beside⟩
  | false =>
    obtain ⟨e, directory⟩ := h.exists_unable names.fits
    rw [← resolve] at directory
    obtain ⟨fault, run⟩ := exists_run_save (d := d) directory
    have run : after = _ := run
    rw [run]
    exact ⟨⟨fault, rfl⟩, h, .refl _ _⟩

theorem load (h : store.Stands able shelf tree) (names : store.CanName name) :
    (StoreOp.load name).Answers able store shelf (sessionAt tree (store.resolve name)) := by
  show sessionAt tree (store.resolve name) = _
  rw [names.resolve]
  cases h with
  | held holds _ => exact holds.sessionAt_eq names.fits
  | absent absent _ empty =>
    rw [absent.sessionAt_file names.fits, empty]
    rfl

theorem isThere_file (h : store.Stands able shelf tree) (fits : store.Fits file) :
    tree.isThere (FilePath.join store.directory file) = (shelf file).isSome := by
  cases h with
  | held holds _ => exact holds.isThere_file fits
  | absent absent _ empty =>
    rw [absent.isThere_file fits, empty]
    rfl

theorem delete (h : store.Stands able shelf tree) (names : store.CanName name) :
    let after := (store.delete name).run FileTree.respond tree
    (StoreOp.delete name).Answers able store shelf after.1 ∧
      store.Stands able ((StoreOp.delete name).next able shelf) after.2 ∧
      tree.Beside store.directory after.2 := by
  intro after
  have resolve := names.resolve
  have there := h.isThere_file names.fits
  rw [← resolve] at there
  show after.1 = (if _ then _ else _) ∧
    store.Stands able (Function.update shelf (fileName name) none) after.2 ∧ _
  cases file : shelf (fileName name) with
  | none =>
    rw [file] at there
    have run : after = _ := run_delete_missing there
    have same : Function.update shelf (fileName name) none = shelf := by
      rw [← file]
      exact Function.update_eq_self _ _
    rw [run, same]
    exact ⟨rfl, h, .refl _ _⟩
  | some kept =>
    rw [file] at there
    cases h with
    | absent _ _ empty =>
      rw [empty] at file
      cases file
    | @held place holds can =>
      have is_file : tree.isFile (place ++ [fileName name]) = true := by rw [holds.isFile_iff, file]; rfl
      have removed := FileTree.remove_eq_ok (holds.locate_file names.fits) (holds.flat _) is_file
      rw [← resolve] at removed
      have run : after = _ := run_delete_ok there removed
      have stands := holds.without (fileName name)
      rw [run]
      refine ⟨rfl, .held stands can, rfl, fun _ there => there, fun last outside => ?_⟩
      refine FileTree.content?_without_of_ne ?_
      rintro rfl
      rw [stands.leads, List.dropLast_concat] at outside
      exact outside rfl

theorem list (h : store.Stands able shelf tree) :
    StoreOp.list.Answers able store shelf (store.list.run FileTree.respond tree).1 ∧
      (store.list.run FileTree.respond tree).2 = tree := by
  cases h with
  | held holds _ =>
    have run := run_list holds.list_eq holds.isThere
    refine ⟨⟨⟨_, congrArg Prod.fst run, entriesAt_increasing holds.once⟩, ?_⟩, congrArg Prod.snd run⟩
    exact fun name commands cookies => holds.listsSession_iff
  | absent absent _ empty =>
    have run := run_list_absent absent.gone
    refine ⟨⟨⟨_, congrArg Prod.fst run, .nil⟩, fun name commands cookies => ?_⟩, congrArg Prod.snd run⟩
    rw [run, empty]
    constructor
    · rintro ⟨entries, listed, e, there, -⟩
      cases listed
      cases there
    · rintro ⟨-, d, held, -⟩
      cases held

theorem write (h : store.Stands able shelf tree) (fits : store.Fits file) (text : String) :
    let after := (StoreOp.write file text).run store tree
    (StoreOp.write file text).Answers able store shelf after.1 ∧
      store.Stands able ((StoreOp.write file text).next able shelf) after.2 ∧
      tree.Beside store.directory after.2 := by
  intro after
  cases able with
  | true =>
    obtain ⟨made, place, directory, leads, free, standing⟩ := h.exists_put fits
    have written : made.write (FilePath.join store.directory file) (.text text) = .ok _ :=
      FileTree.write_eq_ok_iff.mpr ⟨_, leads, free, rfl⟩
    have run : after = (.ok (), made.put (place ++ [file]) (.text text)) := by
      show tree.after (tree.parentMade _ >>= fun made => made.write _ (.text text)) = _
      rw [directory]
      show tree.after (made.write _ (.text text)) = _
      rw [written]
      rfl
    obtain ⟨stands, beside⟩ := standing (.written text) fun _ same => nomatch same
    rw [run]
    exact ⟨rfl, stands, beside⟩
  | false =>
    obtain ⟨e, directory⟩ := h.exists_unable fits
    have run : after = (.error e, tree) := by
      show tree.after (tree.parentMade _ >>= fun made => made.write _ (.text text)) = _
      rw [directory]
      rfl
    rw [run]
    exact ⟨⟨e, rfl⟩, h, .refl _ _⟩

/-- Every operation answers as the shelf does, and the store stands as the next shelf then. -/
theorem step (h : store.Stands able shelf tree) {op : StoreOp} (valid : op.Valid store) :
    op.Answers able store shelf (op.run store tree).1 ∧
      store.Stands able (op.next able shelf) (op.run store tree).2 ∧
      tree.Beside store.directory (op.run store tree).2 := by
  cases op with
  | save name d => exact h.save valid.1 valid.2.storable
  | load name =>
    have run : (StoreOp.load name).run store tree = _ := run_load store name tree
    rw [run]
    exact ⟨h.load valid, h, .refl _ _⟩
  | delete name => exact h.delete valid
  | list =>
    obtain ⟨answers, same⟩ := h.list
    refine ⟨answers, ?_, ?_⟩
    · show store.Stands able shelf (store.list.run FileTree.respond tree).2
      rw [same]
      exact h
    · show tree.Beside store.directory (store.list.run FileTree.respond tree).2
      rw [same]
      exact .refl _ _
  | write file text => exact h.write valid text

end Stands

/-! ## Whole runs -/

def after (store : SessionStore) (ops : List StoreOp) (tree : FileTree) : FileTree :=
  ops.foldl (fun tree op => (op.run store tree).2) tree

end SessionStore

def Shelf.after (able : Bool) (ops : List StoreOp) (shelf : Shelf) : Shelf :=
  ops.foldl (fun shelf op => op.next able shelf) shelf

theorem StoreOp.next_of_ne {able : Bool} {op : StoreOp} {file : String} (h : op.file? ≠ some file)
    (shelf : Shelf) : op.next able shelf file = shelf file := by
  cases op with
  | save name d =>
    have other : file ≠ SessionStore.fileName name := fun same => h (congrArg some same.symm)
    cases able with
    | true => exact Function.update_of_ne other _ _
    | false => rfl
  | load name => rfl
  | delete name =>
    have other : file ≠ SessionStore.fileName name := fun same => h (congrArg some same.symm)
    exact Function.update_of_ne other _ _
  | list => rfl
  | write name text =>
    have other : file ≠ name := fun same => h (congrArg some same.symm)
    cases able with
    | true => exact Function.update_of_ne other _ _
    | false => rfl

namespace SessionStore

variable {store : SessionStore} {tree : FileTree} {shelf : Shelf} {able : Bool}

theorem Stands.after (h : store.Stands able shelf tree) {ops : List StoreOp}
    (valid : ∀ op ∈ ops, op.Valid store) :
    store.Stands able (shelf.after able ops) (store.after ops tree) ∧
      tree.Beside store.directory (store.after ops tree) := by
  induction ops generalizing shelf tree with
  | nil => exact ⟨h, .refl _ _⟩
  | cons op ops ih =>
    obtain ⟨first, later⟩ := List.forall_mem_cons.mp valid
    obtain ⟨-, stands, beside⟩ := h.step first
    obtain ⟨stands, beside'⟩ := ih stands later
    exact ⟨stands, beside.trans beside'⟩

/-- The texts of the files in the directory of a store. -/
def texts (store : SessionStore) (tree : FileTree) (file : String) : Option String :=
  match tree.list store.directory with
  | .ok names =>
    if file ∈ names then (tree.read (FilePath.join store.directory file)).toOption else none
  | .error _ => none

/-- A directory with files only, each of which can be read. -/
def Readable (store : SessionStore) (tree : FileTree) : Prop :=
  ∃ names, tree.list store.directory = .ok names ∧ names.Nodup ∧ ∀ file ∈ names,
    store.Fits file ∧ ∃ text, tree.read (FilePath.join store.directory file) = .ok text

/-- What a store may start from: its directory is such a one, or it is absent, so that it would be empty
if it were made. -/
def Ready (store : SessionStore) (tree : FileTree) : Prop :=
  store.Readable tree ∨
    tree.isThere store.directory = false ∧
      ∀ made, tree.makeDirectories store.directory = .ok made → made.list store.directory = .ok []

def found (store : SessionStore) (tree : FileTree) : Shelf :=
  fun file => (store.texts tree file).map .written

theorem Readable.exists_holds (h : store.Readable tree) :
    ∃ place, store.Holds place (store.found tree) tree := by
  obtain ⟨names, listed, once, each⟩ := h
  have list_ok := listed
  unfold FileTree.list at list_ok
  obtain ⟨place, leads, list_ok⟩ := Json.exists_of_bind_ok list_ok
  obtain ⟨_, enter, list_ok⟩ := Json.exists_of_bind_ok list_ok
  have whole : tree.fileNames place ++ tree.directories.filterMap (FileTree.nameIn? place) = names :=
    Except.ok.inj list_ok
  have directory := FileTree.enter_eq_ok_iff.mp enter
  have named := (FileTree.locate_eq_ok_iff.mp leads).1
  have held : ∀ file ∈ names, store.Fits file ∧ ∃ content text,
      tree.content? (place ++ [file]) = some content ∧ content.text? = some text ∧
      tree.read (FilePath.join store.directory file) = .ok text := by
    intro file there
    obtain ⟨fits, text, read⟩ := each file there
    obtain ⟨last, content, lies, there, of_text⟩ := FileTree.exists_of_read read
    have leads := (FileTree.locate_join named fits.is_name fits.name fits.path).mpr
      ⟨place, leads, directory, rfl⟩
    obtain rfl := Except.ok.inj (leads.symm.trans lies)
    exact ⟨fits, content, text, there, of_text, read⟩
  -- every name is that of a file, so that none is left for a directory
  have flat : ∀ file, tree.isDirectory (place ++ [file]) = false := by
    intro file
    refine Bool.eq_false_iff.mpr fun there => ?_
    have among : file ∈ tree.directories.filterMap (FileTree.nameIn? place) := by
      refine List.mem_filterMap.mpr ⟨_, ?_, FileTree.nameIn?_eq_some_iff.mpr rfl⟩
      simpa [FileTree.isDirectory] using there
    rw [← whole] at once held
    obtain ⟨-, content, text, there, -⟩ := held file (List.mem_append_right _ among)
    have is_file : file ∈ tree.fileNames place := by
      rw [FileTree.mem_fileNames, FileTree.isFile, there]
      rfl
    exact (List.nodup_append.mp once).2.2 file is_file file among rfl
  obtain rfl := Except.ok.inj (listed.symm.trans (FileTree.list_of_flat leads directory flat))
  have found (file : String) : store.found tree file =
      ((if file ∈ tree.fileNames place then
        (tree.read (FilePath.join store.directory file)).toOption else none).map .written) := by
    rw [SessionStore.found, texts, listed]
  refine ⟨place, leads, directory, flat, once, ?_, ?_, ?_⟩
  · intro file there
    by_cases is_file : file ∈ tree.fileNames place
    · exact (held file is_file).1
    · rw [found, if_neg is_file] at there
      cases there
  · intro file d there
    obtain ⟨text, -, same⟩ := Option.map_eq_some_iff.mp there
    cases same
  · intro file
    by_cases is_file : file ∈ tree.fileNames place
    · obtain ⟨-, content, text, there, of_text, read⟩ := held file is_file
      rw [found, if_pos is_file, there, read, Option.map_some, of_text]
      rfl
    · rw [found, if_neg is_file]
      rw [FileTree.mem_fileNames, FileTree.isFile, Option.not_isSome_iff_eq_none] at is_file
      rw [is_file]
      rfl

theorem texts_of_not_isThere (gone : tree.isThere store.directory = false) (file : String) :
    store.texts tree file = none := by
  unfold texts
  cases listed : tree.list store.directory with
  | error e => rfl
  | ok names =>
    unfold FileTree.list at listed
    obtain ⟨place, leads, listed⟩ := Json.exists_of_bind_ok listed
    obtain ⟨_, enter, -⟩ := Json.exists_of_bind_ok listed
    unfold FileTree.isThere at gone
    rw [leads] at gone
    simp [FileTree.enter_eq_ok_iff.mp enter] at gone

theorem Ready.stands (h : store.Ready tree) :
    store.Stands (tree.makeDirectories store.directory).isOk (store.found tree) tree := by
  rcases h with readable | ⟨gone, empty⟩
  · obtain ⟨place, holds⟩ := readable.exists_holds
    refine .held holds ?_
    rw [holds.makeDirectories_eq]
    rfl
  · refine .absent ⟨gone, fun made directory => ?_⟩ rfl ?_
    · have listed := empty made directory
      have readable : store.Readable made := ⟨[], listed, .nil, List.forall_mem_nil _⟩
      obtain ⟨place, holds⟩ := readable.exists_holds
      have none : store.found made = fun _ => none := by
        funext file
        rw [found, texts, listed]
        rfl
      rw [none] at holds
      exact ⟨place, holds⟩
    · funext file
      rw [found, texts_of_not_isThere gone]
      rfl

theorem Stands.texts_eq (h : store.Stands able shelf tree) (file : String) :
    store.texts tree file = (shelf file).map Kept.text := by
  cases h with
  | absent absent _ empty =>
    rw [texts_of_not_isThere absent.gone, empty]
    rfl
  | held holds _ =>
    rw [texts, holds.list_eq]
    dsimp only
    cases there : shelf file with
    | none =>
      have gone : file ∉ _ := fun among => by simpa [there] using holds.mem_fileNames.mp among
      rw [if_neg gone]
      rfl
    | some kept =>
      have among := holds.mem_fileNames.mpr (Option.isSome_iff_exists.mpr ⟨kept, there⟩)
      rw [if_pos among, (holds.read_file (holds.fits _ (holds.mem_fileNames.mp among))).1 kept there]
      rfl

/-- Whatever is done to a store, it answers as a map from the names of files to what was last written
there. -/
theorem answers_after (ready : store.Ready tree) {ops : List StoreOp}
    (valid : ∀ op ∈ ops, op.Valid store) :
    let able := (tree.makeDirectories store.directory).isOk
    let shelf := (store.found tree).after able ops
    let before := store.after ops tree
    (∀ op : StoreOp, op.Valid store → op.Answers able store shelf (op.run store before).1) ∧
    (∀ file, store.texts before file = (shelf file).map Kept.text) ∧
    (∀ place, before.locate store.directory ≠ .ok place.dropLast →
      before.content? place = tree.content? place) ∧
    (∀ place, tree.isDirectory place = true → before.isDirectory place = true) ∧
    ∀ op : StoreOp, op.Valid store → ∀ name, op.file? ≠ some (fileName name) →
      let after := (op.run store before).2
      (store.CanName name →
        ((StoreOp.load name).run store after).1 = ((StoreOp.load name).run store before).1 ∧
        ((StoreOp.delete name).run store after).1 = ((StoreOp.delete name).run store before).1) ∧
      ∀ commands cookies, ListsSession (StoreOp.list.run store after).1 name commands cookies ↔
        ListsSession (StoreOp.list.run store before).1 name commands cookies := by
  intro able shelf before
  obtain ⟨stands, beside⟩ := ready.stands.after valid
  refine ⟨fun op valid => (stands.step valid).1, stands.texts_eq, beside.contents,
    beside.directories, ?_⟩
  intro op valid name other after
  have later := (stands.step valid).2.1
  have same : op.next able shelf (fileName name) = shelf (fileName name) :=
    StoreOp.next_of_ne other shelf
  refine ⟨fun names => ⟨?_, ?_⟩, fun commands cookies => ?_⟩
  · have valid : (StoreOp.load name).Valid store := names
    have first : _ = _ := (stands.step valid).1
    have second : _ = _ := (later.step valid).1
    rw [first, second, same]
  · have valid : (StoreOp.delete name).Valid store := names
    have first : _ = _ := (stands.step valid).1
    have second : _ = _ := (later.step valid).1
    rw [first, second, same]
  · have valid : StoreOp.list.Valid store := trivial
    have first := (stands.step valid).1.2 name commands cookies
    have second := (later.step valid).1.2 name commands cookies
    rw [first, second, same]

def oneCookie : Responder wireSignature Unit
  | .send .cookies, s => (.ok (.arr [.obj [("name", .str "sid"), ("value", .str "1")]]), s)
  | .send .currentUrl, s => (.ok (.str "about:blank"), s)
  | call, s => unreachable call s

/-- A session by a name with a dot is saved beside a file that holds none, which is deleted, and its text is
copied to another file. -/
theorem answers_after_dotted :
    let store : SessionStore := ⟨"sessions"⟩
    let tree : FileTree := {
      files := [(["sessions", "b.json"], .text "no session"), (["sessions", "notes.txt"], .text "")]
      directories := [["sessions"]] }
    let d : Session := { cookies := [{ name := "sid", value := "1" }] }
    let after := store.after [.save "a.1" d, .delete "b", .write "c.json" d.text] tree
    ((StoreOp.load "a.1").run store after).1 = d ∧
      ((StoreOp.delete "b").run store after).1 = .error (missing "b") ∧
      ListsSession (StoreOp.list.run store after).1 "a.1" 0 1 ∧
      ListsSession (StoreOp.list.run store after).1 "c" 0 1 ∧
      ¬ ListsSession (StoreOp.list.run store after).1 "b" 0 0 := by
  intro store tree d after
  have arises : d.Arises := by
    have held : (Storage.capture.run oneCookie ()).1 = .ok (d.cookies, []) := rfl
    exact .captured oneCookie () held (List.forall_mem_nil _)
  have fits (file : String) (is_name : FilePath.IsName file) (name : file.utf8ByteSize ≤ 255)
      (path : (FilePath.join "sessions" file).utf8ByteSize ≤ 4095) : store.Fits file :=
    ⟨is_name, name, path⟩
  have ready : store.Ready tree := by
    refine .inl ⟨["b.json", "notes.txt"], by decide +kernel, by decide, ?_⟩
    refine List.forall_mem_cons.mpr ⟨⟨fits _ ?_ ?_ ?_, "no session", ?_⟩,
      List.forall_mem_singleton.mpr ⟨fits _ ?_ ?_ ?_, "", ?_⟩⟩ <;> decide +kernel
  have names_a : store.CanName "a.1" := by constructor <;> decide +kernel
  have names_b : store.CanName "b" := by constructor <;> decide +kernel
  have fits_c : store.Fits "c.json" := by constructor <;> decide +kernel
  have valid : ∀ op ∈ [StoreOp.save "a.1" d, .delete "b", .write "c.json" d.text], op.Valid store :=
    List.forall_mem_cons.mpr ⟨⟨names_a, arises⟩, List.forall_mem_cons.mpr
      ⟨names_b, List.forall_mem_singleton.mpr fits_c⟩⟩
  obtain ⟨answers, -⟩ := answers_after ready valid
  have able : (tree.makeDirectories store.directory).isOk = true := by decide +kernel
  rw [able] at answers
  have listed := (answers .list trivial).2
  refine ⟨?_, ?_, ?_, ?_, ?_⟩
  · refine (answers (.load "a.1") names_a).trans ?_
    rfl
  · refine (answers (.delete "b") names_b).trans ?_
    rfl
  · exact (listed "a.1" 0 1).mpr ⟨by decide, d, rfl, rfl, rfl⟩
  · exact (listed "c" 0 1).mpr ⟨by decide, d, Session.ofText?_text arises.storable, rfl, rfl⟩
  · rintro told
    obtain ⟨-, d, held, -⟩ := (listed "b" 0 0).mp told
    have none : (none : Option Session) = some d := held
    cases none

end SessionStore

end PageWalk
