import PageWalk.Proofs.Program
import PageWalk.Proofs.SessionFile
import PageWalk.Proofs.Utf8

/-!
# Lists of sessions

A name in the directory of a store is that of a session file when it ends as such names do and the
file holds a session. The list tells of these in the order of their names, which is that of the bytes
of the names.
-/

namespace PageWalk

set_option autoImplicit false

def SessionStore.fileName (name : String) : String :=
  name ++ "." ++ SessionStore.ending

namespace FilePath

/-- A name is taken apart at the last dot, unless nothing comes before that. -/
theorem splitExtension_eq_iff {fileName name extension : String} (plain : '.' ∉ extension.toList) :
    splitExtension fileName = (name, some extension) ↔
      fileName = name ++ "." ++ extension ∧ name ≠ "" ∧ fileName ≠ ".." := by
  have whole : (name ++ "." ++ extension).toList.reverse =
      extension.toList.reverse ++ '.' :: name.toList.reverse := by
    simp [String.toList_append]
  unfold splitExtension
  constructor
  · intro h
    split at h
    · next last stem cut =>
      have kept : ¬ (stem = [] ∨ fileName = "..") := by
        intro none
        rw [if_pos none] at h
        cases h
      rw [if_neg kept] at h
      obtain ⟨rfl, rfl⟩ : String.ofList stem.reverse = name ∧ String.ofList last.reverse = extension := by
        simpa only [Prod.mk.injEq, Option.some.injEq] using h
      obtain ⟨none, up⟩ := not_or.mp kept
      refine ⟨String.toList_inj.mp (List.reverse_injective ?_), ?_, up⟩
      · rw [whole, Text.append_of_splitFirst cut]
        simp
      · intro empty
        exact none (by simpa using congrArg String.toList empty)
    · simp at h
  · rintro ⟨rfl, some_name, up⟩
    have cut : Text.splitFirst '.' (name ++ "." ++ extension).toList.reverse =
        some (extension.toList.reverse, name.toList.reverse) := by
      rw [whole]
      exact Text.splitFirst_append (by simpa using plain) _
    rw [cut]
    have kept : ¬ (name.toList.reverse = [] ∨ name ++ "." ++ extension = "..") := by
      rw [not_or]
      exact ⟨by simpa using some_name, up⟩
    simp only [if_neg kept]
    simp

end FilePath

namespace SessionStore

variable {store : SessionStore} {tree : FileTree} {fileName : String} {e : SessionEntry}

theorem splitExtension_eq_ending {name : String} :
    FilePath.splitExtension fileName = (name, some ending) ↔
      fileName = SessionStore.fileName name ∧ name ≠ "" := by
  rw [FilePath.splitExtension_eq_iff (by decide)]
  refine ⟨fun ⟨whole, some_name, _⟩ => ⟨whole, some_name⟩, fun ⟨whole, some_name⟩ =>
    ⟨whole, some_name, ?_⟩⟩
  rintro rfl
  have last := congrArg (fun s : String => s.toList.getLast?) whole
  simp [SessionStore.fileName, ending] at last

def entryAt (store : SessionStore) (tree : FileTree) (fileName : String) : Option SessionEntry :=
  let path := FilePath.join store.directory fileName
  match FilePath.splitExtension fileName with
  | (name, some extension) =>
    if extension = ending then
      match tree.read path with
      | .error _ => none
      | .ok text => (Session.ofText? text).map fun session =>
        { name, path, commands := session.history.length, cookies := session.cookies.length,
          modified := if tree.isThere path then some tree.changed else none }
    else none
  | (_, none) => none

theorem run_entry? (store : SessionStore) (fileName : String) (tree : FileTree) :
    (store.entry? fileName).run FileTree.respond tree = (store.entryAt tree fileName, tree) := by
  unfold entry? entryAt
  dsimp only
  generalize FilePath.splitExtension fileName = parts
  obtain ⟨name, _ | extension⟩ := parts
  · rfl
  · dsimp only
    by_cases ends : extension = ending
    · rw [if_pos ends, if_pos ends]
      generalize FilePath.join store.directory fileName = path
      have told : (Files.read path).run FileTree.respond tree = (tree.read path, tree) := rfl
      simp only [bind, Program.run_bind, told]
      cases tree.read path with
      | error e => rfl
      | ok text =>
        dsimp only
        cases Session.ofText? text <;> rfl
    · rw [if_neg ends, if_neg ends]
      rfl

theorem run_entries (store : SessionStore) (names : List String) (tree : FileTree) :
    (store.entries names).run FileTree.respond tree = (names.filterMap (store.entryAt tree), tree) := by
  induction names with
  | nil => rfl
  | cons fileName names ih =>
    rw [entries]
    simp only [bind, Program.run_bind, run_entry?, ih, List.filterMap_cons]
    cases store.entryAt tree fileName <;> rfl

/-- The entries of a list, before they are sorted. -/
def entriesAt (store : SessionStore) (tree : FileTree) (names : List String) : List SessionEntry :=
  (names.filterMap (store.entryAt tree)).mergeSort fun a b => a.name ≤ b.name

theorem run_list {names : List String} (listed : tree.list store.directory = .ok names)
    (there : tree.isThere store.directory = true) :
    store.list.run FileTree.respond tree = (.ok (store.entriesAt tree names), tree) := by
  have asked : (Files.isThere store.directory).run FileTree.respond tree = (true, tree) :=
    congrArg (fun yes => (yes, tree)) there
  have told : (Files.list store.directory).run FileTree.respond tree = (.ok names, tree) :=
    congrArg (fun reply => (reply, tree)) listed
  unfold list
  simp only [bind, Program.run_bind, asked, if_true, told, run_entries]
  rfl

theorem run_list_absent (gone : tree.isThere store.directory = false) :
    store.list.run FileTree.respond tree = (.ok [], tree) := by
  have asked : (Files.isThere store.directory).run FileTree.respond tree = (false, tree) :=
    congrArg (fun yes => (yes, tree)) gone
  unfold list
  simp only [bind, Program.run_bind, asked]
  rfl

theorem entryAt_eq_some_iff : store.entryAt tree fileName = some e ↔
    fileName = SessionStore.fileName e.name ∧ e.name ≠ "" ∧
      e.path = FilePath.join store.directory fileName ∧
      e.modified = (if tree.isThere e.path then some tree.changed else none) ∧
      ∃ text d, tree.read e.path = .ok text ∧ Session.ofText? text = some d ∧
        e.commands = d.history.length ∧ e.cookies = d.cookies.length := by
  unfold entryAt
  constructor
  · intro h
    dsimp only at h
    split at h
    · next name extension parts =>
      by_cases ends : extension = ending
      · rw [if_pos ends] at h
        obtain ⟨whole, some_name⟩ := splitExtension_eq_ending.mp (ends ▸ parts)
        split at h
        · cases h
        · next text read =>
          obtain ⟨d, decodes, rfl⟩ := Option.map_eq_some_iff.mp h
          exact ⟨whole, some_name, rfl, rfl, text, d, read, decodes, rfl, rfl⟩
      · rw [if_neg ends] at h
        cases h
    · cases h
  · obtain ⟨name, path, commands, cookies, modified⟩ := e
    rintro ⟨whole, some_name, lies, changed, text, d, read, decodes, of_commands, of_cookies⟩
    dsimp only at lies changed read of_commands of_cookies
    rw [splitExtension_eq_ending.mpr ⟨whole, some_name⟩, ← lies]
    dsimp only
    rw [if_pos rfl, read, changed, of_commands, of_cookies]
    simp only [decodes, Option.map_some]

/-- The entries are in the order of the bytes of their names, of which there are no two alike. -/
theorem entriesAt_increasing {names : List String} (once : names.Nodup) :
    (store.entriesAt tree names).Pairwise fun a b =>
      Text.Utf8.encode a.name.toList < Text.Utf8.encode b.name.toList := by
  have alike : (names.filterMap (store.entryAt tree)).Pairwise fun a b => a.name ≠ b.name := by
    refine List.Pairwise.filterMap _ (fun first second differ a of_first b of_second same => ?_) once
    obtain ⟨whole, -⟩ := entryAt_eq_some_iff.mp of_first
    obtain ⟨whole', -⟩ := entryAt_eq_some_iff.mp of_second
    rw [whole, whole', same] at differ
    exact differ rfl
  let before (a b : SessionEntry) : Bool := a.name ≤ b.name
  have sorted : (store.entriesAt tree names).Pairwise fun a b => before a b = true := by
    refine List.pairwise_mergeSort (fun a b c ab bc => ?_) (fun a b => ?_) _
    · exact decide_eq_true (String.le_trans (of_decide_eq_true ab) (of_decide_eq_true bc))
    · simpa [before] using String.le_total a.name b.name
  have apart : (store.entriesAt tree names).Pairwise fun a b => a.name ≠ b.name :=
    ((List.mergeSort_perm _ before).pairwise_iff Ne.symm).mpr alike
  refine (sorted.and apart).imp fun {a b} ⟨le, differ⟩ => Text.Utf8.encode_lt ?_
  exact String.not_le.mp fun ge => differ (String.le_antisymm (of_decide_eq_true le) ge)

end SessionStore

end PageWalk
