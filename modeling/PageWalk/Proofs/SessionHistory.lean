import PageWalk.Proofs.NamedRun
import PageWalk.Proofs.NamedTalk
import PageWalk.Proofs.Replay

/-!
# Histories of named sessions

A command that drives a browser under the name of a session either completes, and then the file of the
session goes on from the history that was loaded with a record of every success, or leaves all files as
they are but for the picture that was asked for.
-/

namespace PageWalk

set_option autoImplicit false

/-- A history goes on with one record for each outcome that is a success. -/
def History.Continues (before : History) (outcomes : List Outcome) (after : History) : Prop :=
  ∃ records, after = before ++ records ∧
    records.map (fun r => (r.command, r.locator)) = outcomes.filterMap Outcome.kept?

def Console.Bounded (time : Int) : Prop :=
  -0x8000000000000000 ≤ time ∧ time ≤ 0x7FFFFFFFFFFFFFFF

/-- A console that tells times of 64 bits. -/
def Console.TellsTime {τ : Type} (console : Responder consoleSignature τ) : Prop :=
  ∀ c, Bounded (console .clock c).1

theorem Record.timed_of_ofOutcome? {time : Int} {o : Outcome} {r : Record}
    (bounded : Console.Bounded time) (h : ofOutcome? time o = some r) : r.Timed := by
  unfold ofOutcome? at h
  split at h
  · obtain rfl := Option.some.inj h
    exact bounded
  · cases h

theorem SessionStore.timed_sessionAt (tree : FileTree) (path : String) :
    ∀ r ∈ (sessionAt tree path).history, r.Timed := by
  unfold sessionAt
  cases tree.read path with
  | error e => exact List.forall_mem_nil _
  | ok text =>
    dsimp only
    cases decodes : Session.ofText? text with
    | none => exact List.forall_mem_nil _
    | some d =>
      obtain ⟨j, -, decoded⟩ := Session.exists_of_ofText? decodes
      exact Session.timed_of_ofJson decoded

namespace Browse

open Machine (andThen world wire)

variable {τ ω : Type} {console : Responder consoleSignature τ} {driver : Responder wireSignature ω}

section Histories

variable {store : SessionStore} {name : String} {history history' : History} {time : Int}
  {outcomes : List Outcome} {tree : FileTree} {c c' : τ} {w w' : ω}

theorem noted_eq (history : History) (time : Int) (outcomes : List Outcome) :
    noted history time outcomes = history ++ outcomes.filterMap (Record.ofOutcome? time) := by
  induction outcomes generalizing history with
  | nil => exact (List.append_nil _).symm
  | cons o rest ih =>
    show noted (history.note time o) time rest = _
    rw [ih, History.note, List.append_assoc, List.filterMap_cons]
    cases Record.ofOutcome? time o <;> rfl

theorem continues_noted (history : History) (time : Int) (outcomes : List Outcome) :
    history.Continues outcomes (noted history time outcomes) := by
  refine ⟨_, noted_eq history time outcomes, ?_⟩
  rw [List.map_filterMap]
  exact congrArg (fun keep => outcomes.filterMap keep) (funext (Record.kept_ofOutcome? time))

theorem timed_noted (bounded : Console.Bounded time) (timed : ∀ r ∈ history, r.Timed) :
    ∀ r ∈ noted history time outcomes, r.Timed := by
  intro r kept
  rw [noted_eq] at kept
  rcases List.mem_append.mp kept with old | new
  · exact timed r old
  · obtain ⟨o, -, of_outcome⟩ := List.mem_filterMap.mp new
    exact Record.timed_of_ofOutcome? bounded of_outcome

theorem Talks.continues (h : Talks console driver history w c history' w' c') :
    history.Continues (outcomesOf console driver history w c) history' := by
  obtain ⟨length, noted, -, -⟩ :=
    Interactive.run_eq_batch (Browser.page driver) console history w c
  rw [h] at noted
  dsimp only at noted
  rw [noted]
  exact History.exists_noteAll length history

theorem bounded_of_mem_transcript (told : Console.TellsTime console)
    (p : Interactive.TalkProgram (Except LineError Unit × History)) :
    let heard : List Interactive.Exchange :=
      p.transcript ((Browser.page driver).beside console) (w, c)
    ∀ time ∈ heard.filterMap Interactive.Exchange.time?, Console.Bounded time := by
  intro heard time asked
  obtain ⟨exchange, among, same⟩ := List.mem_filterMap.mp asked
  have answered : ∀ e ∈ heard, ∀ time, Interactive.Exchange.time? e = some time →
      Console.Bounded time := by
    -- no answer is taken for a time but that of the clock
    refine Program.forall_mem_transcript (fun q state time same => ?_) p (w, c)
    rcases q with call | ⟨_ | _ | _ | _ | _⟩
    case inr.clock =>
      obtain rfl := Option.some.inj same
      exact told state.2
    all_goals cases same
  exact answered exchange among time same

theorem Talks.timed (told : Console.TellsTime console)
    (h : Talks console driver history w c history' w' c') (timed : ∀ r ∈ history, r.Timed) :
    ∀ r ∈ history', r.Timed := by
  obtain ⟨-, noted, -, -⟩ := Interactive.run_eq_batch (Browser.page driver) console history w c
  rw [h] at noted
  dsimp only at noted
  intro r kept
  rw [noted] at kept
  rcases History.mem_noteAll kept with old | ⟨time, o, zipped, of_outcome⟩
  · exact timed r old
  · have bounded := bounded_of_mem_transcript told _ time (List.of_mem_zip zipped).1
    exact Record.timed_of_ofOutcome? bounded of_outcome

theorem continues_of_saves {before : History} {saved : FileTree}
    (continues : before.Continues outcomes history)
    (h : Saves driver store name history tree w saved w') (timed : ∀ r ∈ history, r.Timed) :
    before.Continues outcomes ((store.load name).run FileTree.respond saved).1.history := by
  obtain ⟨_, _, -, loaded⟩ := h.exists_loaded timed
  rw [loaded]
  exact continues

theorem SucceedsNamed.continues {settings : Settings} {request : RunRequest} {r : Report} {saved : FileTree}
    (told : Console.TellsTime console)
    (h : SucceedsNamed console driver settings store name request tree c w r saved) :
    ((store.load name).run FileTree.respond tree).1.history.Continues r.actions
      ((store.load name).run FileTree.respond saved).1.history := by
  obtain ⟨-, saves⟩ := h
  rw [SessionStore.run_load store name tree]
  refine continues_of_saves (continues_noted _ _ _) saves ?_
  exact timed_noted (told c) (SessionStore.timed_sessionAt tree (store.resolve name))

theorem Converses.continues {settings : Settings} {url : Option String} {choice : BrowserChoice}
    {saved : FileTree} (told : Console.TellsTime console)
    (h : Converses console driver settings store name url choice tree c w outcomes saved) :
    ((store.load name).run FileTree.respond tree).1.history.Continues outcomes
      ((store.load name).run FileTree.respond saved).1.history := by
  obtain ⟨-, -, -, talks, saves⟩ := h
  rw [SessionStore.run_load store name tree]
  refine continues_of_saves talks.continues saves ?_
  exact talks.timed told (SessionStore.timed_sessionAt tree (store.resolve name))

end Histories

/-- The history goes on with one record for each success, or the command fails and changes no file but the
picture. -/
theorem history_continues {τ ω : Type} {console : Responder consoleSignature τ}
    (told : Console.TellsTime console) (driver : Responder wireSignature ω) (settings : Settings)
    (store : SessionStore) (name : String) (tree : FileTree) (c : τ) (w : ω) :
    let history (tree : FileTree) : History := ((store.load name).run FileTree.respond tree).1.history
    (∀ request : RunRequest, request.session = some name →
      let ran := (run settings store request).run (world console driver) ((tree, c), w)
      (∀ r saved, SucceedsNamed console driver settings store name request tree c w r saved →
        ran.1 = RunReport.verdict r ∧ ran.2.1.1 = saved ∧
        (history tree).Continues r.actions (history saved) ∧
        ∃ actions expectations,
          ((expanded request).run FileTree.respond tree).1 = .ok (actions, expectations) ∧
          r.actions.map Outcome.command = actions) ∧
      ((∀ r saved, ¬SucceedsNamed console driver settings store name request tree c w r saved) →
        (∃ failure, ran.1 = .error failure) ∧ tree.SameBut request.screenshot ran.2.1.1 ∧
        ((∀ r pictured w', ¬Reaches driver settings store name request tree w r pictured w') →
          ran.2.1.1.files = tree.files))) ∧
    ∀ (url : Option String) (choice : BrowserChoice),
      let ran := (interact settings store url (some name) choice).run (world console driver)
        ((tree, c), w)
      (∀ outcomes saved,
        Converses console driver settings store name url choice tree c w outcomes saved →
        ran.1 = .ok () ∧ ran.2.1.1 = saved ∧ (history tree).Continues outcomes (history saved)) ∧
      ((∀ outcomes saved,
          ¬Converses console driver settings store name url choice tree c w outcomes saved) →
        (∃ failure, ran.1 = .error failure) ∧ ran.2.1.1.files = tree.files) := by
  intro history
  refine ⟨fun request named => ⟨fun r saved completes => ?_, fun fails => ?_⟩,
    fun url choice => ⟨fun outcomes saved converses => ?_, fun fails => ?_⟩⟩
  · obtain ⟨verdict, left⟩ := run_of_succeedsNamed named completes
    exact ⟨verdict, left, completes.continues told, completes.commands⟩
  · obtain ⟨failed, kept⟩ := run_of_not_succeedsNamed named fails
    refine ⟨failed, ?_, fun unreached => ?_⟩
    · rcases kept with kept | ⟨r, pictured, w', reaches, kept⟩
      · exact .of_files kept
      · obtain ⟨w₁, pictures⟩ := reaches.pictures
        exact pictures.sameBut.trans_files kept
    · rcases kept with kept | ⟨r, pictured, w', reaches, -⟩
      · exact kept
      · exact absurd reaches (unreached r pictured w')
  · obtain ⟨m', ran, left⟩ := run_interact_of_converses converses
    refine ⟨?_, ?_, converses.continues told⟩
    · rw [ran]
    · rw [ran]
      exact left
  · exact interact_of_not_converses fails

/-- A driver of a page with nothing on it, which gives one answer to every question for cookies. -/
def bareDriver (cookies : Except WireError Json) : Responder wireSignature Unit
  | .isUp _, s => (true, s)
  | .makeProfile _, s => (.ok "/tmp/profile", s)
  | .start _ _, s => (.ok .null, s)
  | .send .currentUrl, s => (.ok (.str "http://h.test/"), s)
  | .send .screenshot, s => (.ok (.str "AAAA"), s)
  | .send .cookies, s => (cookies, s)
  | .send (.execute .isReady _), s => (.ok (.bool true), s)
  | .send (.execute (.own .scrape) _), s => (.ok (.obj []), s)
  | .send (.execute .readStorage _), s => (.ok (.arr []), s)
  | .send (.find _), s => (.ok (.arr []), s)
  | .send _, s => (.ok .null, s)
  | .pause _, s => ((), s)

/-- A console without input on which it is always the same time. -/
def stillConsole : Responder consoleSignature Unit
  | .lineBound, s => ((0 : Nat), s)
  | .readLine, s => (.ok none, s)
  | .write _, s => ((), s)
  | .warn _, s => ((), s)
  | .clock, s => ((1700000000000 : Int), s)

theorem tellsTime_stillConsole : Console.TellsTime stillConsole := by
  intro s
  have clock : (stillConsole .clock s).1 = (1700000000000 : Int) := rfl
  rw [clock]
  exact ⟨by decide, by decide⟩

def oneRecord : FileTree where
  files := [(["sessions", "s.json"],
    .text "\x7b\"history\": [\x7b\"command\": \"wait:1\", \"timestamp\": 7\x7d]\x7d")]
  directories := [["sessions"]]

/-- A run of one command that works and one that does not. -/
def waitAndClick (screenshot : Option String) : RunRequest where
  url := "http://h.test/"
  actions := ["wait:2", "click:#gone"]
  expectations := ["text:nope"]
  session := some "s"
  format := .simple
  forms := false
  monitor := false
  screenshot := screenshot
  browser := ⟨none, false, none, none⟩

/-- An expectation is not met and a command fails; the one that worked is in the history. -/
theorem history_continues_unmet :
    let store : SessionStore := ⟨"sessions"⟩
    let driver := bareDriver (.ok (.arr []))
    let request := waitAndClick (some "page.png")
    let history (tree : FileTree) : History := ((store.load "s").run FileTree.respond tree).1.history
    let ran := (run {} store request).run (world stillConsole driver) ((oneRecord, ()), ())
    ran.1 = .error ⟨[], .unmet 1 1⟩ ∧
    ∃ r saved, SucceedsNamed stillConsole driver {} store "s" request oneRecord () () r saved ∧
      r.actions.map (fun o => o.result.isSuccess) = [true, false] ∧ ran.2.1.1 = saved ∧
      (history oneRecord).Continues r.actions (history saved) := by
  intro store driver request history ran
  have works : ((report {} store request).run (world stillConsole driver) ((oneRecord, ()), ())).1.map
      (fun r => (r.actions.map fun o => o.result.isSuccess, RunReport.verdict r)) =
        .ok ([true, false], .error ⟨[], .unmet 1 1⟩) := by decide +kernel
  rcases reported : (report {} store request).run (world stillConsole driver)
    ((oneRecord, ()), ()) with ⟨fault | r, m'⟩
  · rw [reported] at works
    cases works
  rw [reported] at works
  obtain ⟨successes, unmet⟩ := Prod.mk.inj (Except.ok.inj works)
  have completes := succeedsNamed_of_run_report rfl reported
  have whole := (history_continues tellsTime_stillConsole driver {} store "s" oneRecord () ()).1 request rfl
  obtain ⟨verdict, left, continues, -⟩ := whole.1 r m'.1.1 completes
  unfold ran
  exact ⟨verdict.trans unmet, r, m'.1.1, completes, successes, left, continues⟩

/-- A picture that is written to the file of the session is there when no cookies could be read. -/
theorem picture_over_session :
    let store : SessionStore := ⟨"sessions"⟩
    let driver := bareDriver (.error ⟨"unknown error", "no"⟩)
    let request := waitAndClick (some "sessions/s.json")
    let history (tree : FileTree) : History := ((store.load "s").run FileTree.respond tree).1.history
    let ran := (run {} store request).run (world stillConsole driver) ((oneRecord, ()), ())
    ran.1 = .error (.ofFault ⟨"Failed to capture browser storage",
      ["Failed to read cookies", "webdriver returned error: no"]⟩) ∧
    oneRecord.locate (store.resolve "s") = .ok ["sessions", "s.json"] ∧
    ran.2.1.1.content? ["sessions", "s.json"] = some (.bytes [0, 0, 0]) ∧
    oneRecord.content? ["sessions", "s.json"] ≠ some (.bytes [0, 0, 0]) ∧
    (history oneRecord).map Record.command = ["wait:1"] ∧ history ran.2.1.1 = [] := by
  decide +kernel

end Browse

end PageWalk
