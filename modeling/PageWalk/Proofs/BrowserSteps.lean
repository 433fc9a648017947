import PageWalk.Proofs.Exploring
import PageWalk.Proofs.SessionFile

/-!
# Steps of commands that drive a browser

Each step of such a command either succeeds, with what it has come to, or fails and leaves the files as
they are: what is written at all is written by a step that succeeds.
-/

namespace PageWalk

set_option autoImplicit false

/-- No file has changed but what a path leads to. -/
def FileTree.SameBut (path? : Option String) (tree after : FileTree) : Prop :=
  ∀ place, (∀ path, path? = some path → tree.locate path ≠ .ok place) →
    after.content? place = tree.content? place

namespace FileTree.SameBut

variable {path? : Option String} {tree after later : FileTree}

theorem refl (path? : Option String) (tree : FileTree) : tree.SameBut path? tree :=
  fun _ _ => rfl

theorem of_files (h : after.files = tree.files) : tree.SameBut path? after := by
  intro place _
  rw [FileTree.content?, FileTree.content?, h]

theorem trans_files (h : tree.SameBut path? after) (same : later.files = after.files) :
    tree.SameBut path? later := by
  intro place apart
  rw [← h place apart, FileTree.content?, FileTree.content?, same]

end FileTree.SameBut

namespace Browse

open Machine (andThen world wire)

variable {τ ω : Type} {console : Responder consoleSignature τ} {driver : Responder wireSignature ω}

/-- A page is opened, if there is one to open, and what a session holds of it is put back. -/
def Visits (driver : Responder wireSignature ω) (session : Session) (url : Option String) (w w' : ω) :
    Prop :=
  match url with
  | none => w' = w
  | some url => ∃ there, (Driving.goto url).run driver w = (.ok (), there) ∧
      (Storage.restore session).run driver there = (.ok (), w')

/-- A picture is taken and written, if one is asked for. -/
def Pictures (driver : Responder wireSignature ω) (path? : Option String) (tree : FileTree) (w : ω)
    (tree' : FileTree) (w' : ω) : Prop :=
  match path? with
  | none => tree' = tree ∧ w' = w
  | some path => ∃ bytes,
      (Driving.asking .screenshot Answer.asImage).run driver w = (.ok bytes, w') ∧
      tree.write path (.bytes bytes) = .ok tree'

/-- What the browser holds is captured and saved with a history. -/
def Saves (driver : Responder wireSignature ω) (store : SessionStore) (name : String) (history : History)
    (tree : FileTree) (w : ω) (tree' : FileTree) (w' : ω) : Prop :=
  ∃ cookies origins, Storage.capture.run driver w = (.ok (cookies, origins), w') ∧
    (store.save name { cookies, origins, history }).run FileTree.respond tree =
      (.ok (store.resolve name), tree')

section Parts

variable {α β : Type} {m m' : (FileTree × τ) × ω}

theorem run_andThen_iff {step : MachineProgram (Except Fault α)}
    {next : α → MachineProgram (Except Fault β)} {b : β} :
    (andThen step next).run (world console driver) m = (.ok b, m') ↔
      ∃ a t, step.run (world console driver) m = (.ok a, t) ∧
        (next a).run (world console driver) t = (.ok b, m') :=
  Program.run_bind_eq_ok_iff fun _ => rfl

theorem run_andThen_error {step : MachineProgram (Except Fault α)}
    {next : α → MachineProgram (Except Fault β)} {fault : Fault}
    (h : (andThen step next).run (world console driver) m = (.error fault, m')) :
    step.run (world console driver) m = (.error fault, m') ∨
      ∃ a t, step.run (world console driver) m = (.ok a, t) ∧
        (next a).run (world console driver) t = (.error fault, m') := by
  have h : (Program.bind step _).run (world console driver) m = _ := h
  exact Program.run_bind_eq_error h fun _ => rfl

theorem run_pure_iff {a b : α} :
    Program.run (world console driver) (pure a) m = (b, m') ↔ a = b ∧ m' = m := by
  constructor
  · intro h
    cases h
    exact ⟨rfl, rfl⟩
  · rintro ⟨rfl, rfl⟩
    rfl

theorem run_wire_iff {p : WireProgram α} {a : α} {d : FileTree × τ} {w : ω} :
    (wire p).run (world console driver) (d, w) = (a, m') ↔
      ∃ w', p.run driver w = (a, w') ∧ m' = (d, w') := by
  rw [Machine.run_wire]
  constructor
  · intro h
    cases h
    exact ⟨_, rfl, rfl⟩
  · rintro ⟨w', ran, rfl⟩
    rw [ran]

end Parts

section Steps

variable {session : Session} {url : Option String} {d : FileTree × τ} {tree tree' : FileTree} {c : τ}
  {w w' : ω} {m' : (FileTree × τ) × ω} {fault : Fault}

theorem run_visit_iff : (visit session true url).run (world console driver) (d, w) = (.ok (), m') ↔
    ∃ w', Visits driver session url w w' ∧ m' = (d, w') := by
  cases url with
  | none =>
    show (Except.ok (), (d, w)) = _ ↔ _
    constructor
    · intro h
      cases h
      exact ⟨w, rfl, rfl⟩
    · rintro ⟨w', rfl, rfl⟩
      rfl
  | some url =>
    unfold visit
    rw [run_andThen_iff]
    constructor
    · rintro ⟨_, t, went, back⟩
      obtain ⟨there, opened, rfl⟩ := run_wire_iff.mp went
      obtain ⟨w', restored, rfl⟩ := run_wire_iff.mp back
      exact ⟨w', ⟨there, opened, restored⟩, rfl⟩
    · rintro ⟨w', ⟨there, opened, restored⟩, rfl⟩
      refine ⟨(), (d, there), run_wire_iff.mpr ⟨there, opened, rfl⟩, ?_⟩
      exact run_wire_iff.mpr ⟨w', restored, rfl⟩

theorem run_visit_error
    (h : (visit session true url).run (world console driver) (d, w) = (.error fault, m')) :
    m'.1 = d := by
  cases url with
  | none => cases h
  | some url =>
    rcases run_andThen_error h with first | ⟨_, t, first, later⟩
    · obtain ⟨w', -, rfl⟩ := run_wire_iff.mp first
      rfl
    · obtain ⟨there, -, rfl⟩ := run_wire_iff.mp first
      obtain ⟨w', -, rfl⟩ := run_wire_iff.mp later
      rfl

theorem run_inContext_iff {α : Type} {context : String} {p : WireProgram (Except Fault α)} {a : α} :
    (Driving.inContext context p).run driver w = (.ok a, w') ↔ p.run driver w = (.ok a, w') := by
  have split : (Driving.inContext context p).run driver w =
      (Except.within context (p.run driver w).1, (p.run driver w).2) :=
    Program.run_bind driver p _ w
  rw [split]
  rcases p.run driver w with ⟨_ | b, t⟩
  · constructor <;> intro h <;> cases h
  · exact Iff.rfl

theorem run_screenshot_iff {path? : Option String} :
    (screenshot path?).run (world console driver) ((tree, c), w) = (.ok (), m') ↔
      ∃ tree' w', Pictures driver path? tree w tree' w' ∧ m' = ((tree', c), w') := by
  cases path? with
  | none =>
    show (Except.ok (), ((tree, c), w)) = _ ↔ _
    constructor
    · intro h
      cases h
      exact ⟨tree, w, ⟨rfl, rfl⟩, rfl⟩
    · rintro ⟨tree', w', ⟨rfl, rfl⟩, rfl⟩
      rfl
  | some path =>
    have written (bytes : List UInt8) (w : ω) :
        Program.run (world console driver) (do
          let reply ← Machine.files (Files.writeBytes path bytes)
          pure (FileError.within s!"Failed to write screenshot to {path}" reply)) ((tree, c), w) =
        (FileError.within s!"Failed to write screenshot to {path}"
          (tree.after (tree.write path (.bytes bytes))).1,
          (((tree.after (tree.write path (.bytes bytes))).2, c), w)) := rfl
    unfold screenshot
    rw [run_andThen_iff]
    constructor
    · rintro ⟨bytes, t, taken, kept⟩
      obtain ⟨w', seen, rfl⟩ := run_wire_iff.mp taken
      rw [written] at kept
      cases changed : tree.write path (.bytes bytes) with
      | error e =>
        rw [changed] at kept
        cases kept
      | ok tree' =>
        rw [changed] at kept
        cases kept
        exact ⟨tree', w', ⟨bytes, run_inContext_iff.mp seen, changed⟩, rfl⟩
    · rintro ⟨tree', w', ⟨bytes, seen, changed⟩, rfl⟩
      refine ⟨bytes, ((tree, c), w'), run_wire_iff.mpr ⟨w', run_inContext_iff.mpr seen, rfl⟩, ?_⟩
      rw [written, changed]
      rfl

theorem run_screenshot_error {path? : Option String}
    (h : (screenshot path?).run (world console driver) ((tree, c), w) = (.error fault, m')) :
    m'.1.1 = tree := by
  cases path? with
  | none => cases h
  | some path =>
    rcases run_andThen_error h with first | ⟨bytes, t, first, later⟩
    · obtain ⟨w', -, rfl⟩ := run_wire_iff.mp first
      rfl
    · obtain ⟨w', -, rfl⟩ := run_wire_iff.mp first
      have kept : (FileError.within s!"Failed to write screenshot to {path}"
          (tree.after (tree.write path (.bytes bytes))).1,
          (((tree.after (tree.write path (.bytes bytes))).2, c), w')) = (.error fault, m') := later
      cases changed : tree.write path (.bytes bytes) with
      | error e =>
        rw [changed] at kept
        cases kept
        rfl
      | ok tree' =>
        rw [changed] at kept
        cases kept

theorem Pictures.sameBut {path? : Option String} (h : Pictures driver path? tree w tree' w') :
    tree.SameBut path? tree' := by
  cases path? with
  | none =>
    obtain ⟨rfl, -⟩ := h
    exact .refl _ _
  | some path =>
    obtain ⟨bytes, -, written⟩ := h
    obtain ⟨place, leads, -, rfl⟩ := FileTree.write_eq_ok_iff.mp written
    intro last apart
    refine FileTree.content?_put_of_ne ?_
    rintro rfl
    exact apart path rfl leads

section Persisting

variable {store : SessionStore} {name : String} {history : History}

theorem run_saved (d : Session) : Program.run (world console driver) (do
      let reply ← Machine.files (store.save name d)
      pure (reply.map fun _ => ())) ((tree, c), w) =
    (((store.save name d).run FileTree.respond tree).1.map fun _ => (),
      ((((store.save name d).run FileTree.respond tree).2, c), w)) := by
  simp only [bind, Program.run_bind, Machine.run_files]
  rfl

theorem run_persist_iff :
    (persist store name history).run (world console driver) ((tree, c), w) = (.ok (), m') ↔
      ∃ tree' w', Saves driver store name history tree w tree' w' ∧ m' = ((tree', c), w') := by
  unfold persist
  rw [run_andThen_iff]
  constructor
  · rintro ⟨⟨cookies, origins⟩, t, first, saved⟩
    obtain ⟨w', captured, rfl⟩ := run_wire_iff.mp first
    have saved := (run_saved _).symm.trans saved
    rcases ran : (store.save name { cookies, origins, history }).run FileTree.respond tree with
      ⟨reply, tree'⟩
    rw [ran] at saved
    rcases SessionStore.of_run_save ran with ⟨fault, failed, -⟩ | ⟨ok, -⟩
    · rw [failed] at saved
      cases saved
    · rw [ok] at saved ran
      cases saved
      exact ⟨tree', w', ⟨cookies, origins, run_inContext_iff.mp captured, ran⟩, rfl⟩
  · rintro ⟨tree', w', ⟨cookies, origins, captured, saved⟩, rfl⟩
    refine ⟨(cookies, origins), ((tree, c), w'), ?_, (run_saved _).trans ?_⟩
    · exact run_wire_iff.mpr ⟨w', run_inContext_iff.mpr captured, rfl⟩
    · rw [saved]
      rfl

theorem run_persist_error
    (h : (persist store name history).run (world console driver) ((tree, c), w) = (.error fault, m')) :
    tree.Extends m'.1.1 := by
  rcases run_andThen_error h with first | ⟨⟨cookies, origins⟩, t, first, later⟩
  · obtain ⟨w', -, rfl⟩ := run_wire_iff.mp first
    exact .refl tree
  · obtain ⟨w', -, rfl⟩ := run_wire_iff.mp first
    have saved := (run_saved _).symm.trans later
    rcases ran : (store.save name { cookies, origins, history }).run FileTree.respond tree with
      ⟨reply, tree'⟩
    rw [ran] at saved
    rcases SessionStore.of_run_save ran with ⟨failure, failed, grown⟩ | ⟨ok, -⟩
    · rw [failed] at saved
      cases saved
      exact grown
    · rw [ok] at saved
      cases saved

/-- What was saved is loaded again: what was captured, with the history. -/
theorem Saves.exists_loaded {tree' : FileTree} {w' : ω}
    (h : Saves driver store name history tree w tree' w') (timed : ∀ r ∈ history, r.Timed) :
    ∃ cookies origins, Storage.capture.run driver w = (.ok (cookies, origins), w') ∧
      ((store.load name).run FileTree.respond tree').1 = { cookies, origins, history } := by
  obtain ⟨cookies, origins, captured, saved⟩ := h
  have arises : Session.Arises { cookies, origins, history } :=
    .captured driver w (congrArg Prod.fst captured) timed
  rcases SessionStore.of_run_save saved with ⟨fault, failed, -⟩ | ⟨-, made, place, -, leads, -, rfl⟩
  · cases failed
  · refine ⟨cookies, origins, captured, ?_⟩
    rw [SessionStore.run_load]
    exact SessionStore.sessionAt_put leads rfl (Session.ofText?_text arises.storable)

end Persisting

end Steps

section Commands

variable {α : Type} {tree tree' : FileTree} {c : τ} {w : ω} {m' : (FileTree × τ) × ω} {fault : Fault}

theorem run_inBrowser {plan : Browser.Plan} (body : MachineProgram (Except Fault α)) (d : FileTree × τ) :
    let started := (Browser.start plan).run driver w
    let ran := body.run (world console driver) (d, started.2)
    (inBrowser plan body).run (world console driver) (d, w) =
      match started.1 with
      | .ok _ => (ran.1, (ran.2.1, (Browser.close.run driver ran.2.2).2))
      | .error fault => (.error fault, (d, started.2)) := by
  intro started ran
  have split : (inBrowser plan body).run (world console driver) (d, w) = _ :=
    Program.run_bind (world console driver) (wire (Browser.start plan)) _ (d, w)
  rw [split, Machine.run_wire]
  dsimp only
  rcases started.1 with e | _
  · rfl
  · have rest := Program.run_bind (world console driver) body (fun result =>
      (wire Browser.close).bind fun _ => .done result) (d, started.2)
    refine rest.trans ?_
    rw [Program.run_bind]
    show (ran.1, ((wire Browser.close).run (world console driver) (ran.2.1, ran.2.2)).2) = _
    rw [Machine.run_wire]

theorem run_inBrowser_iff {plan : Browser.Plan} {body : MachineProgram (Except Fault α)} {a : α}
    {d : FileTree × τ} :
    (inBrowser plan body).run (world console driver) (d, w) = (.ok a, m') ↔
      ∃ w₀ d' w', (Browser.start plan).run driver w = (.ok (), w₀) ∧
        body.run (world console driver) (d, w₀) = (.ok a, (d', w')) ∧
        m' = (d', (Browser.close.run driver w').2) := by
  have run : (inBrowser plan body).run (world console driver) (d, w) = _ := run_inBrowser body d
  rw [run]
  rcases (Browser.start plan).run driver w with ⟨e | _, w₀⟩
  · constructor
    · intro h
      cases h
    · rintro ⟨w₁, d', w', first, -⟩
      cases first
  · dsimp only
    constructor
    · intro h
      rcases ran : body.run (world console driver) (d, w₀) with ⟨result, d', w'⟩
      rw [ran] at h
      cases h
      exact ⟨w₀, d', w', rfl, ran, rfl⟩
    · rintro ⟨w₁, d', w', first, ran, rfl⟩
      cases first
      rw [ran]

theorem run_inBrowser_error {plan : Browser.Plan} {body : MachineProgram (Except Fault α)}
    {d : FileTree × τ}
    (h : (inBrowser plan body).run (world console driver) (d, w) = (.error fault, m')) :
    m'.1 = d ∨ ∃ w₀ m₁, (Browser.start plan).run driver w = (.ok (), w₀) ∧
      body.run (world console driver) (d, w₀) = (.error fault, m₁) ∧ m'.1 = m₁.1 := by
  have run : (inBrowser plan body).run (world console driver) (d, w) = _ := run_inBrowser body d
  rw [run] at h
  rcases started : (Browser.start plan).run driver w with ⟨e | _, w₀⟩
  · rw [started] at h
    cases h
    exact .inl rfl
  · rw [started] at h
    rcases ran : body.run (world console driver) (d, w₀) with ⟨result, m₁⟩
    rw [ran] at h
    cases h
    exact .inr ⟨w₀, m₁, rfl, ran, rfl⟩

end Commands

section Console

variable {tree : FileTree} {c : τ} {w : ω}

theorem run_clock {α : Type} (next : Int → MachineProgram α) :
    (clock.bind next).run (world console driver) ((tree, c), w) =
      (next (console .clock c).1).run (world console driver) ((tree, (console .clock c).2), w) := by
  have told : clock.run (world console driver) ((tree, c), w) = _ :=
    Machine.run_console console driver ConsoleCall.clock.make tree c w
  rw [Program.run_bind, told]
  rfl

theorem run_tell {α : Type} (text : String) (a : α) :
    Program.run (world console driver)
        ((Machine.desk (Desk.write text)).bind fun _ => .done a) ((tree, c), w) =
      (a, ((tree, (console (.write text) c).2), w)) := by
  have told : (Machine.desk (Desk.write text)).run (world console driver) ((tree, c), w) = _ :=
    Machine.run_console console driver (ConsoleCall.write text).make tree c w
  rw [Program.run_bind, told]
  rfl

end Console

end Browse

end PageWalk
