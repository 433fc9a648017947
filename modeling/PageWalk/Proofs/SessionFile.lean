import PageWalk.Browser.Storage
import PageWalk.Proofs.FileTree
import PageWalk.Proofs.Program
import PageWalk.Proofs.SessionText
import PageWalk.Session.Store

/-!
# Sessions kept in files

What a store does to a tree of files, and that a session comes back from the file that it was saved to.
-/

namespace PageWalk

set_option autoImplicit false

section Reading

variable {tree : FileTree} {path : String} {place : Location}

theorem FileTree.read_of_content {content : FileContent} {text : String}
    (leads : tree.locate path = .ok place) (there : tree.content? place = some content)
    (of_text : content.text? = some text) : tree.read path = .ok text := by
  unfold FileTree.read
  rw [leads]
  simp only [bind, Except.bind, there, of_text]

theorem FileTree.exists_of_read {text : String} (h : tree.read path = .ok text) :
    ∃ place content, tree.locate path = .ok place ∧ tree.content? place = some content ∧
      content.text? = some text := by
  unfold FileTree.read at h
  obtain ⟨place, leads, h⟩ := Json.exists_of_bind_ok h
  split at h
  · next content there =>
    split at h
    · next of_text =>
      cases h
      exact ⟨place, content, leads, there, of_text⟩
    · cases h
  · cases h

theorem FileTree.exists_read_of_not_isThere (h : tree.isThere path = false) :
    ∃ e, tree.read path = .error e := by
  unfold FileTree.read
  unfold FileTree.isThere at h
  cases leads : tree.locate path with
  | error e => exact ⟨e, rfl⟩
  | ok place =>
    rw [leads] at h
    obtain ⟨file, -⟩ := Bool.or_eq_false_iff.mp h
    have none : tree.content? place = none := by simpa [FileTree.isFile] using file
    simp only [bind, Except.bind, none]
    exact ⟨_, rfl⟩

end Reading

namespace SessionStore

variable {store : SessionStore} {name path : String} {tree made : FileTree} {place : Location}
  {d : Session}

/-- The session that a file holds, an empty one if it holds none. -/
def sessionAt (tree : FileTree) (path : String) : Session :=
  match tree.read path with
  | .ok text => (Session.ofText? text).getD {}
  | .error _ => {}

theorem run_load (store : SessionStore) (name : String) (tree : FileTree) :
    (store.load name).run FileTree.respond tree = (sessionAt tree (store.resolve name), tree) := by
  unfold load sessionAt
  generalize store.resolve name = path
  let decoded : Except FileError String → FileProgram Session
    | .ok text => pure ((Session.ofText? text).getD {})
    | .error _ => pure {}
  show ((if tree.isThere path then (Files.read path).bind decoded
    else pure {} : FileProgram Session)).run FileTree.respond tree = _
  by_cases there : tree.isThere path = true
  · rw [if_pos there]
    show (decoded (tree.read path)).run FileTree.respond tree = _
    cases tree.read path <;> rfl
  · obtain ⟨e, unread⟩ := FileTree.exists_read_of_not_isThere (Bool.eq_false_iff.mpr there)
    rw [if_neg there, unread]
    rfl

theorem run_makeParent_ok (h : tree.parentMade path = .ok made) :
    (makeParent path).run FileTree.respond tree = (.ok (), made) := by
  unfold makeParent
  unfold FileTree.parentMade at h
  cases directory : FilePath.parent? path with
  | none =>
    rw [directory] at h
    obtain rfl := Except.ok.inj h
    rfl
  | some parent =>
    simp only [directory] at h ⊢
    split_ifs at h ⊢ with empty
    · obtain rfl := Except.ok.inj h
      rfl
    · show (FileError.within _ (tree.after (tree.makeDirectories parent)).1,
        (tree.after (tree.makeDirectories parent)).2) = _
      rw [h]
      rfl

theorem exists_run_makeParent {e : FileError} (h : tree.parentMade path = .error e) :
    ∃ fault, (makeParent path).run FileTree.respond tree = (.error fault, tree) := by
  unfold makeParent
  unfold FileTree.parentMade at h
  cases directory : FilePath.parent? path with
  | none =>
    rw [directory] at h
    cases h
  | some parent =>
    simp only [directory] at h ⊢
    split_ifs at h ⊢ with empty
    show ∃ fault, (FileError.within _ (tree.after (tree.makeDirectories parent)).1,
      (tree.after (tree.makeDirectories parent)).2) = _
    rw [h]
    exact ⟨_, rfl⟩

theorem run_save_ok (directory : tree.parentMade (store.resolve name) = .ok made)
    (leads : made.locate (store.resolve name) = .ok place) (file : made.isDirectory place = false) :
    (store.save name d).run FileTree.respond tree =
      (.ok (store.resolve name), made.put place (.text d.text)) := by
  have written : made.write (store.resolve name) (.text d.text) =
      .ok (made.put place (.text d.text)) :=
    FileTree.write_eq_ok_iff.mpr ⟨place, leads, file, rfl⟩
  unfold save
  simp only [bind, Program.run_bind, run_makeParent_ok directory]
  show (Except.map _ (FileError.within _ (made.after (made.write _ (.text d.text))).1),
    (made.after (made.write _ (.text d.text))).2) = _
  rw [written]
  rfl

theorem exists_run_save {e : FileError} (directory : tree.parentMade (store.resolve name) = .error e) :
    ∃ fault, (store.save name d).run FileTree.respond tree = (.error fault, tree) := by
  obtain ⟨fault, run⟩ := exists_run_makeParent directory
  unfold save
  simp only [bind, Program.run_bind, run]
  exact ⟨fault, rfl⟩

/-- A session that is not saved leaves all files as they are. -/
theorem of_run_save {reply : Except Fault String} {after : FileTree}
    (h : (store.save name d).run FileTree.respond tree = (reply, after)) :
    (∃ fault, reply = .error fault ∧ tree.Extends after) ∨
    (reply = .ok (store.resolve name) ∧ ∃ made place,
      tree.parentMade (store.resolve name) = .ok made ∧
      made.locate (store.resolve name) = .ok place ∧ made.isDirectory place = false ∧
      after = made.put place (.text d.text)) := by
  cases directory : tree.parentMade (store.resolve name) with
  | error e =>
    obtain ⟨fault, run⟩ := exists_run_save (d := d) directory
    rw [run] at h
    cases h
    exact .inl ⟨fault, rfl, .refl tree⟩
  | ok made =>
    cases written : made.write (store.resolve name) (.text d.text) with
    | error e =>
      unfold save at h
      simp only [bind, Program.run_bind, run_makeParent_ok directory] at h
      have run : (Except.map (fun _ => store.resolve name) (FileError.within
          s!"Failed to save session to {store.resolve name}"
          (made.after (made.write (store.resolve name) (.text d.text))).1),
          (made.after (made.write (store.resolve name) (.text d.text))).2) = (reply, after) := h
      rw [written] at run
      cases run
      exact .inl ⟨_, rfl, FileTree.parentMade_extends directory⟩
    | ok changed =>
      obtain ⟨place, leads, file, -⟩ := FileTree.write_eq_ok_iff.mp written
      rw [run_save_ok directory leads file] at h
      cases h
      exact .inr ⟨rfl, made, place, rfl, leads, file, rfl⟩

theorem sessionAt_put {content : FileContent} {text : String}
    (leads : tree.locate path = .ok place) (of_text : content.text? = some text)
    (decodes : Session.ofText? text = some d) : sessionAt (tree.put place content) path = d := by
  have read := FileTree.read_of_content (FileTree.locate_put leads) FileTree.content?_put_self of_text
  simp only [sessionAt, read, decodes, Option.getD_some]

/-- Loads a session and saves it again so many times, and then loads it. -/
def loadAgain (store : SessionStore) (name : String) : Nat → FileProgram Session
  | 0 => store.load name
  | n + 1 => do
    let d ← store.load name
    let _ ← store.save name d
    store.loadAgain name n

end SessionStore

namespace Session

/-- How a session comes about: it was loaded and holds no floating-point number, or it was put together
from what a browser holds and what was recorded. -/
inductive Arises : Session → Prop where
  | loaded {σ : Type} (files : Responder fileSignature σ) (f : σ) (store : SessionStore)
      (name : String) (free : ((store.load name).run files f).1.FloatFree) :
      Arises ((store.load name).run files f).1
  | captured {σ : Type} (driver : Responder wireSignature σ) (s : σ) {cookies : List Cookie}
      {origins : List OriginStorage} {history : History}
      (held : (Storage.capture.run driver s).1 = .ok (cookies, origins))
      (timed : ∀ r ∈ history, r.Timed) : Arises { cookies, origins, history }

theorem always_load (store : SessionStore) (name : String) :
    (store.load name).Always fun d => d = {} ∨ ∃ text, ofText? text = some d := by
  unfold SessionStore.load
  rintro (_ | _)
  · exact .inl rfl
  · rintro (_ | text)
    · exact .inl rfl
    · show (ofText? text).getD {} = {} ∨ ∃ other, ofText? other = some ((ofText? text).getD {})
      cases decodes : ofText? text with
      | none => exact .inl rfl
      | some d => exact .inr ⟨text, decodes⟩

/-- Nothing is kept of a cookie of the browser but its known fields. -/
theorem extra_of_cookie {j : Json} {c : Cookie} (h : Answer.cookie j = .ok c) : c.extra = [] := by
  unfold Answer.cookie at h
  obtain ⟨fields, -, h⟩ := Json.exists_of_bind_ok h
  obtain ⟨name, -, h⟩ := Json.exists_of_bind_ok h
  obtain ⟨value, -, h⟩ := Json.exists_of_bind_ok h
  obtain ⟨path, -, h⟩ := Json.exists_of_bind_ok h
  obtain ⟨domain, -, h⟩ := Json.exists_of_bind_ok h
  obtain ⟨secure, -, h⟩ := Json.exists_of_bind_ok h
  obtain ⟨httpOnly, -, h⟩ := Json.exists_of_bind_ok h
  obtain ⟨expiry, -, h⟩ := Json.exists_of_bind_ok h
  obtain ⟨sameSite, -, h⟩ := Json.exists_of_bind_ok h
  cases h
  rfl

theorem extra_of_asCookies {value : Json} {cookies : List Cookie}
    (h : Answer.asCookies value = .ok cookies) : ∀ c ∈ cookies, c.extra = [] := by
  unfold Answer.asCookies at h
  cases listed : value.asList Answer.cookie with
  | error e =>
    rw [listed] at h
    cases h
  | ok all =>
    rw [listed] at h
    cases h
    obtain ⟨items, -, each⟩ := Json.asList_eq_ok listed
    intro c there
    obtain ⟨item, -, of_item⟩ := Json.exists_of_mem_mapM_ok each c there
    exact extra_of_cookie of_item

theorem always_andThen {α β : Type} {P : α → Prop} {Q : Except Fault β → Prop}
    {step : WireProgram (Except Fault α)} {next : α → WireProgram (Except Fault β)}
    (first : step.Always fun reply => ∀ a, reply = .ok a → P a)
    (later : ∀ a, P a → (next a).Always Q) (failed : ∀ fault, Q (.error fault)) :
    (Driving.andThen step next).Always Q := by
  refine Program.Always.bind first fun reply holds => ?_
  cases reply with
  | error fault => exact failed fault
  | ok a => exact later a (holds a rfl)

theorem always_cookies (context : String) :
    (Driving.inContext context (Driving.asking .cookies Answer.asCookies)).Always fun reply =>
      ∀ cookies, reply = .ok cookies → ∀ c ∈ cookies, c.extra = [] := by
  intro answer
  show ∀ cookies, Except.within context
    ((answer.mapError WireError.fault).bind Answer.asCookies) = .ok cookies → _
  intro cookies h
  cases answer with
  | error e => cases h
  | ok value =>
    have read : (Answer.asCookies value).mapError (Fault.within context) = .ok cookies := h
    cases decoded : Answer.asCookies value with
    | error fault =>
      rw [decoded] at read
      cases read
    | ok all =>
      rw [decoded] at read
      cases read
      exact extra_of_asCookies decoded

theorem always_capture : Storage.capture.Always fun reply =>
    ∀ cookies origins, reply = .ok (cookies, origins) → ∀ c ∈ cookies, c.extra = [] := by
  refine always_andThen (always_cookies _) (fun cookies plain => ?_) fun _ => nofun
  refine always_andThen (P := fun _ => True) ?_ (fun page _ => ?_) fun _ => nofun
  · exact Program.always_of_forall _ fun _ _ _ => trivial
  refine always_andThen (P := fun _ => True) ?_ (fun origins _ => ?_) fun _ => nofun
  · exact Program.always_of_forall _ fun _ _ _ => trivial
  · intro _ _ same
    cases same
    exact plain

theorem Arises.storable {d : Session} (arises : d.Arises) : d.Storable := by
  cases arises with
  | loaded files f store name free =>
    rcases (always_load store name).run files f with empty | ⟨text, decodes⟩
    · rw [empty]
      exact storable_empty
    · exact storable_of_ofText? decodes free
  | captured driver s held timed =>
    refine ⟨fun c there => ?_, timed⟩
    exact Cookie.storable_of_extra_eq_nil (always_capture.run driver s _ _ held c there)

end Session

namespace SessionStore

variable {store : SessionStore} {name path : String} {tree : FileTree} {d : Session}

theorem run_loadAgain {after : FileTree} (loaded : sessionAt after (store.resolve name) = d)
    (saved : (store.save name d).run FileTree.respond after = (.ok path, tree))
    (kept : sessionAt tree (store.resolve name) = d)
    (again : (store.save name d).run FileTree.respond tree = (.ok path, tree)) (n : Nat) :
    ((store.loadAgain name n).run FileTree.respond after).1 = d := by
  induction n generalizing after with
  | zero =>
    rw [loadAgain, run_load]
    exact loaded
  | succ n ih =>
    rw [loadAgain]
    simp only [bind, Program.run_bind, run_load, loaded, saved]
    exact ih kept again

/-- Saving once more gives the same file, whatever the file holds meanwhile. -/
theorem run_save_put {made : FileTree} {place : Location}
    (directory : tree.parentMade (store.resolve name) = .ok made)
    (leads : made.locate (store.resolve name) = .ok place) (file : made.isDirectory place = false)
    (content : FileContent) :
    (store.save name d).run FileTree.respond (made.put place content) =
      (.ok (store.resolve name), made.put place (.text d.text)) := by
  have there : (made.put place content).parentMade (store.resolve name) =
      .ok (made.put place content) := FileTree.parentMade_again directory rfl fun _ h => h
  rw [run_save_ok there (FileTree.locate_put leads) file, FileTree.put_put]

/-- A session comes back from its file, however often it is loaded and saved; what could not be saved leaves
all files alone. -/
theorem load_save {d : Session} (arises : d.Arises) (store : SessionStore) (name : String)
    (tree : FileTree) :
    let path := store.resolve name
    let saved := (store.save name d).run FileTree.respond tree
    (∀ changed, tree.write path (.text d.text) = .ok changed → saved.1 = .ok path) ∧
    (∀ fault, saved.1 = .error fault → saved.2.files = tree.files) ∧
    ∀ written, saved.1 = .ok written →
      saved.2.read path = .ok d.text ∧
      (∀ n, ((store.loadAgain name n).run FileTree.respond saved.2).1 = d) ∧
      ∀ olderCommand olderLocator, ∃ older,
        saved.2.write path (.text (d.namedText olderCommand olderLocator)) = .ok older ∧
        ∀ n, ((store.loadAgain name n).run FileTree.respond older).1 = d := by
  intro path saved
  have storable := arises.storable
  have run : (store.save name d).run FileTree.respond tree = (saved.1, saved.2) := rfl
  refine ⟨?_, ?_, ?_⟩
  · intro changed written
    obtain ⟨place, leads, file, -⟩ := FileTree.write_eq_ok_iff.mp written
    have run := run_save_ok (d := d) (FileTree.parentMade_of_locate leads) leads file
    exact congrArg Prod.fst run
  · intro fault failed
    rcases of_run_save run with ⟨-, -, grown⟩ | ⟨ok, -⟩
    · exact grown.files
    · rw [failed] at ok
      cases ok
  · intro written ok
    rcases of_run_save run with ⟨fault, failed, -⟩ | ⟨-, made, place, directory, leads, file, after⟩
    · rw [failed] at ok
      cases ok
    · have decodes := Session.ofText?_text storable
      have kept : sessionAt (made.put place (.text d.text)) path = d :=
        sessionAt_put leads rfl decodes
      have again := run_save_put (d := d) directory leads file
      rw [after]
      refine ⟨?_, ?_, ?_⟩
      · exact FileTree.read_of_content (FileTree.locate_put leads) FileTree.content?_put_self rfl
      · exact run_loadAgain kept (again _) kept (again _)
      · intro olderCommand olderLocator
        have named : sessionAt (made.put place (.text (d.namedText olderCommand olderLocator))) path =
            d := sessionAt_put leads rfl (Session.ofText?_namedText storable _ _)
        refine ⟨_, FileTree.write_eq_ok_iff.mpr ⟨place, FileTree.locate_put leads, file, rfl⟩, ?_⟩
        rw [FileTree.put_put]
        exact run_loadAgain named (again _) kept (again _)

/-- A cookie with an unknown field of many parts, and a record from before the year 1970. -/
theorem load_save_nested :
    let d : Session := {
      cookies := [{ name := "sid", value := "\"é\"\n", extra := [("priority", .obj
        [("a", .int 18446744073709551615), ("b", .arr [.null, .int (-2)])])] }]
      origins := [⟨"http://127.0.0.1", [⟨"theme", "dark"⟩]⟩]
      history := [⟨"click:#save", some "getByText('Save')", -1⟩] }
    let store : SessionStore := ⟨"sessions"⟩
    let tree : FileTree := { directories := [["sessions"]] }
    let saved := (store.save "a" d).run FileTree.respond tree
    saved.1 = .ok "sessions/a.json" ∧ ∃ older,
      saved.2.write "sessions/a.json" (.text (d.namedText (fun _ => true) fun _ => true)) = .ok older ∧
      ((store.load "a").run FileTree.respond older).1 = d := by
  intro d store tree saved
  have priority : (Json.obj [("a", .int 18446744073709551615),
      ("b", .arr [.null, .int (-2)])]).Exact := by
    refine .obj (List.forall_mem_cons.mpr ⟨?_, List.forall_mem_singleton.mpr ?_⟩)
    · exact .leaf rfl (show Json.InRange _ by decide)
    · refine .arr (List.forall_mem_cons.mpr ⟨?_, List.forall_mem_singleton.mpr ?_⟩)
      · exact .leaf rfl trivial
      · exact .leaf rfl (show Json.InRange _ by decide)
  have storable : d.Storable := by
    refine ⟨List.forall_mem_singleton.mpr ?_, List.forall_mem_singleton.mpr (by decide)⟩
    refine ⟨List.pairwise_singleton _ _, ?_, ?_, ?_, ?_⟩ <;> refine List.forall_mem_singleton.mpr ?_
    · decide
    · rfl
    · decide
    · exact priority
  have named : store.resolve "a" = "sessions/a.json" := by decide +kernel
  have leads : tree.locate (store.resolve "a") = .ok ["sessions", "a.json"] := by decide +kernel
  -- a session that is read back from its own text is one that was loaded
  have arises : d.Arises := by
    let kept := tree.put ["sessions", "a.json"] (.text d.text)
    have loaded : ((store.load "a").run FileTree.respond kept).1 = d := by
      rw [run_load]
      exact sessionAt_put leads rfl (Session.ofText?_text storable)
    have free : d.FloatFree := by
      refine List.forall_mem_singleton.mpr (List.forall_mem_singleton.mpr ?_)
      exact priority.imp fun v _ plain x same => by rw [same] at plain; exact plain
    rw [← loaded] at free ⊢
    exact .loaded FileTree.respond kept store "a" free
  have writes : tree.write (store.resolve "a") (.text d.text) =
      .ok (tree.put ["sessions", "a.json"] (.text d.text)) :=
    FileTree.write_eq_ok_iff.mpr ⟨_, leads, by decide, rfl⟩
  obtain ⟨saves, -, back⟩ := load_save arises store "a" tree
  have ok := saves _ writes
  obtain ⟨-, -, older⟩ := back _ ok
  obtain ⟨changed, renamed, loads⟩ := older (fun _ => true) fun _ => true
  rw [named] at ok renamed
  exact ⟨ok, changed, renamed, loads 0⟩

end SessionStore

end PageWalk
