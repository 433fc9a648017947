import PageWalk.Proofs.BrowserSteps

/-!
# Runs under the name of a session

`SucceedsNamed` says of a run that each of its steps succeeds, what it reports and which files it leaves.
A run that completes ends with the verdict on its report; any other run fails, and its files are as
they were but for the picture.
-/

namespace PageWalk

set_option autoImplicit false

namespace Browse

open Machine (andThen world wire)

variable {τ ω : Type} {console : Responder consoleSignature τ} {driver : Responder wireSignature ω}

section Expanding

theorem run_expandOne (argument : String) (tree : FileTree) :
    ((CommandFile.expandOne argument).run FileTree.respond tree).2 = tree := by
  unfold CommandFile.expandOne
  split <;> rfl

theorem run_expand (arguments : List String) (tree : FileTree) :
    ((CommandFile.expand arguments).run FileTree.respond tree).2 = tree := by
  induction arguments with
  | nil => rfl
  | cons argument rest ih =>
    unfold CommandFile.expand
    simp only [bind, Program.run_bind, run_expandOne]
    cases ((CommandFile.expandOne argument).run FileTree.respond tree).1 with
    | error fault => rfl
    | ok commands =>
      simp only [Program.run_bind]
      exact ih

theorem run_expanded (request : RunRequest) (tree : FileTree) :
    ((expanded request).run FileTree.respond tree).2 = tree := by
  unfold expanded
  simp only [bind, Program.run_bind, run_expand]
  cases ((CommandFile.expand request.actions).run FileTree.respond tree).1 with
  | error fault => rfl
  | ok actions =>
    simp only [Program.run_bind, run_expand]
    cases ((CommandFile.expand request.expectations).run FileTree.respond tree).1 <;> rfl

theorem run_files_expanded_iff {request : RunRequest} {tree : FileTree} {c : τ} {w : ω}
    {m' : (FileTree × τ) × ω} {reply : Except Fault (List String × List String)} :
    (Machine.files (expanded request)).run (world console driver) ((tree, c), w) = (reply, m') ↔
      ((expanded request).run FileTree.respond tree).1 = reply ∧ m' = ((tree, c), w) := by
  rw [Machine.run_files, run_expanded]
  constructor
  · intro h
    cases h
    exact ⟨rfl, rfl⟩
  · rintro ⟨rfl, rfl⟩
    rfl

end Expanding

section Runs

variable {settings : Settings} {store : SessionStore} {name : String} {tree : FileTree} {c : τ} {w : ω}
  {m' : (FileTree × τ) × ω} {fault : Fault} {request : RunRequest} {actions expectations : List String}
  {r : Report}

/-- The steps of a run up to the picture, each of which succeeds. -/
inductive Reaches (driver : Responder wireSignature ω) (settings : Settings) (store : SessionStore)
    (name : String) (request : RunRequest) (tree : FileTree) (w : ω) (r : Report) :
    FileTree → ω → Prop where
  | intro {actions expectations : List String} {plan : Browser.Plan} {w₀ w₁ w₂ w₃ : ω} {tree₁ : FileTree}
      (expands : ((expanded request).run FileTree.respond tree).1 = .ok (actions, expectations))
      (plans : Browse.plan settings request.browser = .ok plan)
      (starts : (Browser.start plan).run driver w = (.ok (), w₀))
      (visits : Visits driver (SessionStore.sessionAt tree (store.resolve name)) (some request.url) w₀ w₁)
      (explores : Exploration.Reports (Browser.page driver) actions expectations
        { monitor := request.monitor, forms := request.forms } w₁ r w₂)
      (pictures : Pictures driver request.screenshot tree w₂ tree₁ w₃) :
      Reaches driver settings store name request tree w r tree₁ w₃

/-- The steps of a run under the name of a session, each of which succeeds. -/
inductive SucceedsNamed (console : Responder consoleSignature τ) (driver : Responder wireSignature ω)
    (settings : Settings) (store : SessionStore) (name : String) (request : RunRequest) (tree : FileTree)
    (c : τ) (w : ω) (r : Report) : FileTree → Prop where
  | intro {w₁ w₂ : ω} {tree₁ tree₂ : FileTree}
      (reaches : Reaches driver settings store name request tree w r tree₁ w₁)
      (saves : Saves driver store name (noted (SessionStore.sessionAt tree (store.resolve name)).history
        (console .clock c).1 r.actions) tree₁ w₁ tree₂ w₂) :
      SucceedsNamed console driver settings store name request tree c w r tree₂

/-- What follows in a run once the session is loaded. -/
def exploredFrom (store : SessionStore) (request : RunRequest) (actions expectations : List String)
    (name : String) (session : Session) : MachineProgram (Except Fault Report) :=
  andThen (visit session true (some request.url)) fun _ =>
  andThen (wire (Exploration.run actions expectations
    { monitor := request.monitor, forms := request.forms }).driven) fun report =>
    clock.bind fun time =>
      andThen (screenshot request.screenshot) fun _ =>
      andThen (persist store name (noted session.history time report.actions)) fun _ =>
      pure (.ok report)

theorem run_explored (named : request.session = some name) :
    (explored store request actions expectations).run (world console driver) ((tree, c), w) =
      (exploredFrom store request actions expectations name
        (SessionStore.sessionAt tree (store.resolve name))).run (world console driver) ((tree, c), w) := by
  have split : (explored store request actions expectations).run (world console driver) ((tree, c), w) =
      _ := Program.run_bind (world console driver) (loaded store request.session) _ ((tree, c), w)
  have loads : loaded store request.session = Machine.files (store.load name) := by
    rw [named]
    rfl
  rw [split, loads, Machine.run_files, SessionStore.run_load]
  dsimp only
  rw [named]
  rfl

theorem run_explored_iff (named : request.session = some name) :
    (explored store request actions expectations).run (world console driver) ((tree, c), w) =
        (.ok r, m') ↔
      ∃ w₁ w₂ tree₁ w₃ tree₂ w₄,
        Visits driver (SessionStore.sessionAt tree (store.resolve name)) (some request.url) w w₁ ∧
        Exploration.Reports (Browser.page driver) actions expectations
          { monitor := request.monitor, forms := request.forms } w₁ r w₂ ∧
        Pictures driver request.screenshot tree w₂ tree₁ w₃ ∧
        Saves driver store name (noted (SessionStore.sessionAt tree (store.resolve name)).history
          (console .clock c).1 r.actions) tree₁ w₃ tree₂ w₄ ∧
        m' = ((tree₂, (console .clock c).2), w₄) := by
  rw [run_explored named]
  generalize SessionStore.sessionAt tree (store.resolve name) = session
  unfold exploredFrom
  constructor
  · intro h
    obtain ⟨_, t, first, h⟩ := run_andThen_iff.mp h
    obtain ⟨w₁, visits, rfl⟩ := run_visit_iff.mp first
    obtain ⟨report, t, first, h⟩ := run_andThen_iff.mp h
    obtain ⟨w₂, explores, rfl⟩ := run_wire_iff.mp first
    rw [run_clock] at h
    obtain ⟨_, t, first, h⟩ := run_andThen_iff.mp h
    obtain ⟨tree₁, w₃, pictures, rfl⟩ := run_screenshot_iff.mp first
    obtain ⟨_, t, first, h⟩ := run_andThen_iff.mp h
    obtain ⟨tree₂, w₄, saves, rfl⟩ := run_persist_iff.mp first
    rw [run_driven] at explores
    cases h
    exact ⟨w₁, w₂, tree₁, w₃, tree₂, w₄, visits, Exploration.reports_iff.mpr explores, pictures,
      saves, rfl⟩
  · rintro ⟨w₁, w₂, tree₁, w₃, tree₂, w₄, visits, explores, pictures, saves, rfl⟩
    have explores := Exploration.reports_iff.mp explores
    rw [← run_driven] at explores
    refine run_andThen_iff.mpr ⟨(), _, run_visit_iff.mpr ⟨w₁, visits, rfl⟩, ?_⟩
    refine run_andThen_iff.mpr ⟨r, _, run_wire_iff.mpr ⟨w₂, explores, rfl⟩, ?_⟩
    rw [run_clock]
    refine run_andThen_iff.mpr ⟨(), _, run_screenshot_iff.mpr ⟨tree₁, w₃, pictures, rfl⟩, ?_⟩
    exact run_andThen_iff.mpr ⟨(), _, run_persist_iff.mpr ⟨tree₂, w₄, saves, rfl⟩, rfl⟩

theorem run_explored_error (named : request.session = some name)
    (h : (explored store request actions expectations).run (world console driver) ((tree, c), w) =
      (.error fault, m')) :
    m'.1.1.files = tree.files ∨ ∃ r w₁ w₂ tree₁ w₃,
      Visits driver (SessionStore.sessionAt tree (store.resolve name)) (some request.url) w w₁ ∧
      Exploration.Reports (Browser.page driver) actions expectations
        { monitor := request.monitor, forms := request.forms } w₁ r w₂ ∧
      Pictures driver request.screenshot tree w₂ tree₁ w₃ ∧ m'.1.1.files = tree₁.files := by
  rw [run_explored named] at h
  -- nothing is written before the picture, and what saves the session writes last
  rcases run_andThen_error h with first | ⟨_, t, first, h⟩
  · exact .inl (by rw [run_visit_error first])
  obtain ⟨w₁, visits, rfl⟩ := run_visit_iff.mp first
  rcases run_andThen_error h with first | ⟨r, t, first, h⟩
  · obtain ⟨w₂, -, rfl⟩ := run_wire_iff.mp first
    exact .inl rfl
  obtain ⟨w₂, explores, rfl⟩ := run_wire_iff.mp first
  rw [run_driven] at explores
  rw [run_clock] at h
  rcases run_andThen_error h with first | ⟨_, t, first, h⟩
  · exact .inl (by rw [run_screenshot_error first])
  obtain ⟨tree₁, w₃, pictures, rfl⟩ := run_screenshot_iff.mp first
  rcases run_andThen_error h with first | ⟨_, t, first, h⟩
  · have explores := Exploration.reports_iff.mpr explores
    exact .inr ⟨r, w₁, w₂, tree₁, w₃, visits, explores, pictures, (run_persist_error first).files⟩
  · cases h

theorem run_report_of_succeedsNamed (named : request.session = some name) {saved : FileTree}
    (h : SucceedsNamed console driver settings store name request tree c w r saved) :
    ∃ m', (report settings store request).run (world console driver) ((tree, c), w) = (.ok r, m') ∧
      m'.1.1 = saved := by
  obtain @⟨w₃, w₄, tree₁, _, reaches, saves⟩ := h
  obtain @⟨actions, expectations, plan, w₀, w₁, w₂, _, _, expands, plans, starts, visits, explores,
    pictures⟩ := reaches
  have body := (run_explored_iff named).mpr ⟨_, _, _, _, _, _, visits, explores, pictures, saves, rfl⟩
  have opens := run_inBrowser_iff.mpr ⟨_, _, _, starts, body, rfl⟩
  refine ⟨((saved, (console .clock c).2), (Browser.close.run driver w₄).2), ?_, rfl⟩
  refine run_andThen_iff.mpr ⟨_, _, run_files_expanded_iff.mpr ⟨expands, rfl⟩, ?_⟩
  exact run_andThen_iff.mpr ⟨plan, _, run_pure_iff.mpr ⟨plans, rfl⟩, opens⟩

theorem succeedsNamed_of_run_report (named : request.session = some name)
    (h : (report settings store request).run (world console driver) ((tree, c), w) = (.ok r, m')) :
    SucceedsNamed console driver settings store name request tree c w r m'.1.1 := by
  obtain ⟨⟨actions, expectations⟩, t, first, h⟩ := run_andThen_iff.mp h
  obtain ⟨expands, rfl⟩ := run_files_expanded_iff.mp first
  obtain ⟨plan, t, first, h⟩ := run_andThen_iff.mp h
  obtain ⟨plans, rfl⟩ := run_pure_iff.mp first
  obtain ⟨w₀, d', w', starts, body, rfl⟩ := run_inBrowser_iff.mp h
  obtain ⟨w₁, w₂, tree₁, w₃, tree₂, w₄, visits, explores, pictures, saves, same⟩ :=
    (run_explored_iff named).mp body
  cases same
  exact ⟨⟨expands, plans, starts, visits, explores, pictures⟩, saves⟩

theorem run_report_error (named : request.session = some name)
    (h : (report settings store request).run (world console driver) ((tree, c), w) = (.error fault, m')) :
    m'.1.1.files = tree.files ∨
      ∃ r pictured w', Reaches driver settings store name request tree w r pictured w' ∧
        m'.1.1.files = pictured.files := by
  rcases run_andThen_error h with first | ⟨⟨actions, expectations⟩, t, first, h⟩
  · obtain ⟨-, rfl⟩ := run_files_expanded_iff.mp first
    exact .inl rfl
  obtain ⟨expands, rfl⟩ := run_files_expanded_iff.mp first
  rcases run_andThen_error h with first | ⟨plan, t, first, h⟩
  · obtain ⟨-, rfl⟩ := run_pure_iff.mp first
    exact .inl rfl
  obtain ⟨plans, rfl⟩ := run_pure_iff.mp first
  rcases run_inBrowser_error h with same | ⟨w₀, m₁, starts, body, same⟩
  · exact .inl (by rw [same])
  · rw [same]
    rcases run_explored_error named body with kept | ⟨r, w₁, w₂, tree₁, w₃, visits, explores, pictures, kept⟩
    · exact .inl kept
    · exact .inr ⟨r, tree₁, w₃, ⟨expands, plans, starts, visits, explores, pictures⟩, kept⟩

/-- A run tells its report and ends with the verdict on it. -/
theorem run_run (console : Responder consoleSignature τ) (driver : Responder wireSignature ω)
    (settings : Settings) (store : SessionStore) (request : RunRequest) (tree : FileTree) (c : τ) (w : ω) :
    let reported := (report settings store request).run (world console driver) ((tree, c), w)
    let ran := (run settings store request).run (world console driver) ((tree, c), w)
    ran.2.1.1 = reported.2.1.1 ∧
      ran.1 = match reported.1 with
        | .ok r => RunReport.verdict r
        | .error fault => .error (.ofFault fault) := by
  intro reported ran
  have split : ran = _ :=
    Program.run_bind (world console driver) (report settings store request) _ ((tree, c), w)
  rcases came : (report settings store request).run (world console driver) ((tree, c), w) with
    ⟨e | r, ⟨tree', c'⟩, w'⟩
  · rw [came] at split
    have same : reported = _ := came
    rw [split, same]
    exact ⟨rfl, rfl⟩
  · rw [came] at split
    have same : reported = _ := came
    have rest : Program.run (world console driver)
        ((Machine.desk (Desk.write (RunReport.text request.url request.format r))).bind fun _ =>
          .done (RunReport.verdict r)) ((tree', c'), w') = _ := run_tell _ _
    rw [split, same]
    exact ⟨congrArg (fun m => m.2.1.1) rest, congrArg Prod.fst rest⟩

theorem run_of_succeedsNamed (named : request.session = some name) {saved : FileTree}
    (h : SucceedsNamed console driver settings store name request tree c w r saved) :
    let ran := (run settings store request).run (world console driver) ((tree, c), w)
    ran.1 = RunReport.verdict r ∧ ran.2.1.1 = saved := by
  intro ran
  obtain ⟨files, verdict⟩ := run_run console driver settings store request tree c w
  obtain ⟨m', reported, left⟩ := run_report_of_succeedsNamed named h
  rw [reported] at files verdict
  exact ⟨verdict, files.trans left⟩

theorem run_of_not_succeedsNamed (named : request.session = some name)
    (h : ∀ r saved, ¬SucceedsNamed console driver settings store name request tree c w r saved) :
    let ran := (run settings store request).run (world console driver) ((tree, c), w)
    (∃ failure, ran.1 = .error failure) ∧ (ran.2.1.1.files = tree.files ∨
      ∃ r pictured w', Reaches driver settings store name request tree w r pictured w' ∧
        ran.2.1.1.files = pictured.files) := by
  intro ran
  obtain ⟨files, verdict⟩ := run_run console driver settings store request tree c w
  rcases reported : (report settings store request).run (world console driver) ((tree, c), w) with
    ⟨fault | r, m'⟩
  · rw [reported] at files verdict
    refine ⟨⟨_, verdict⟩, ?_⟩
    have same : ran.2.1.1 = m'.1.1 := files
    rw [same]
    exact run_report_error named reported
  · exact absurd (succeedsNamed_of_run_report named reported) (h r m'.1.1)

theorem Reaches.pictures {pictured : FileTree} {w' : ω}
    (h : Reaches driver settings store name request tree w r pictured w') :
    ∃ w₁, Pictures driver request.screenshot tree w₁ pictured w' := by
  obtain ⟨-, -, -, -, -, pictures⟩ := h
  exact ⟨_, pictures⟩

theorem SucceedsNamed.commands {saved : FileTree}
    (h : SucceedsNamed console driver settings store name request tree c w r saved) :
    ∃ actions expectations,
      ((expanded request).run FileTree.respond tree).1 = .ok (actions, expectations) ∧
      r.actions.map Outcome.command = actions := by
  obtain ⟨reaches, -⟩ := h
  obtain ⟨expands, -, -, -, explores, -⟩ := reaches
  obtain ⟨-, performed, -, -, -, -⟩ := explores
  exact ⟨_, _, expands, Exploration.commands_of_perform performed⟩

end Runs

end Browse

end PageWalk
