import PageWalk.Proofs.SessionHistory

/-!
# What is saved of a browser

A session is saved with the cookies of the browser and the storage of the one page that is open. What
was loaded of other origins is not carried over; of what was loaded, only the history is.
-/

namespace PageWalk

set_option autoImplicit false

namespace Storage

open Driving (asking inContext)

/-- What is captured of a browser, with the page that is open in it if that comes from the web. -/
inductive Captures {ω : Type} (driver : Responder wireSignature ω) (w : ω) :
    Option Url → List Cookie → List OriginStorage → Prop where
  | away {cookies : List Cookie} {w₁ w₂ : ω}
      (held : (inContext "Failed to read cookies" (asking .cookies Answer.asCookies)).run driver w =
        (.ok cookies, w₁))
      (there : webPage.run driver w₁ = (.ok none, w₂)) : Captures driver w none cookies []
  | opened {cookies : List Cookie} {url : Url} {value : Json} {entries : List StorageEntry}
      {w₁ w₂ w₃ : ω}
      (held : (inContext "Failed to read cookies" (asking .cookies Answer.asCookies)).run driver w =
        (.ok cookies, w₁))
      (there : webPage.run driver w₁ = (.ok (some url), w₂))
      (answered : (Wire.execute .readStorage []).run driver w₂ = (.ok value, w₃))
      (decoded : Answer.decoded (Json.asList StorageEntry.ofJson) value = .ok entries) :
    Captures driver w (some url) cookies (if entries.isEmpty then [] else [⟨url.origin, entries⟩])

variable {ω : Type} {driver : Responder wireSignature ω} {w w' : ω} {page : Option Url}
  {cookies : List Cookie} {origins : List OriginStorage}

theorem run_andThen_iff {α β : Type} {step : WireProgram (Except Fault α)}
    {next : α → WireProgram (Except Fault β)} {b : β} :
    (Driving.andThen step next).run driver w = (.ok b, w') ↔
      ∃ a t, step.run driver w = (.ok a, t) ∧ (next a).run driver t = (.ok b, w') :=
  Program.run_bind_eq_ok_iff fun _ => rfl

theorem exists_captures (h : capture.run driver w = (.ok (cookies, origins), w')) :
    ∃ page, Captures driver w page cookies origins := by
  obtain ⟨held, w₁, first, h⟩ := run_andThen_iff.mp h
  obtain ⟨page, w₂, there, h⟩ := run_andThen_iff.mp h
  obtain ⟨found, w₃, read, h⟩ := run_andThen_iff.mp h
  cases h
  cases page with
  | none =>
    cases read
    exact ⟨none, .away first there⟩
  | some url =>
    obtain ⟨value, w₄, answered, read⟩ := run_andThen_iff.mp read
    obtain ⟨read, -⟩ := Prod.mk.inj read
    obtain ⟨entries, decoded, read⟩ := Json.exists_of_bind_ok read
    cases read
    exact ⟨some url, .opened first there answered decoded⟩

/-- Storage is captured of the open page alone. -/
theorem Captures.origin_eq (h : Captures driver w page cookies origins) :
    ∀ kept ∈ origins, page.map Url.origin = some kept.origin := by
  cases h with
  | away => exact List.forall_mem_nil _
  | opened =>
    intro kept among
    split at among
    · cases among
    · rw [List.mem_singleton.mp among]
      rfl

end Storage

theorem History.Continues.starts {before after : History} {outcomes : List Outcome}
    (h : before.Continues outcomes after) : before <+: after := by
  obtain ⟨records, rfl, -⟩ := h
  exact List.prefix_append before records

namespace Browse

open Machine (world)
open Storage (Captures)

variable {τ ω : Type} {console : Responder consoleSignature τ} {driver : Responder wireSignature ω}

/-- A session as it is saved after it was loaded: what the browser holds at the time, and what was
recorded before and since. -/
structure SavedFrom (driver : Responder wireSignature ω) (w : ω) (page : Option Url)
    (loaded saved : Session) : Prop where
  captured : Captures driver w page saved.cookies saved.origins
  elsewhere : ∀ lost ∈ loaded.origins, page.map Url.origin ≠ some lost.origin →
    ∀ kept ∈ saved.origins, kept.origin ≠ lost.origin
  history : loaded.history <+: saved.history

section Saving

variable {settings : Settings} {store : SessionStore} {name : String} {request : RunRequest}
  {history : History} {tree tree' saved : FileTree} {c : τ} {w w' : ω} {r : Report} {loaded : Session}

theorem Saves.exists_savedFrom (h : Saves driver store name history tree w tree' w')
    (timed : ∀ r ∈ history, r.Timed) (goes : loaded.history <+: history) :
    ∃ page, SavedFrom driver w page loaded ((store.load name).run FileTree.respond tree').1 := by
  obtain ⟨cookies, origins, captured, again⟩ := h.exists_loaded timed
  obtain ⟨page, captures⟩ := Storage.exists_captures captured
  rw [again]
  refine ⟨page, captures, fun lost _ closed kept among same => ?_, goes⟩
  exact closed ((captures.origin_eq kept among).trans (congrArg some same))

/-- A run that completes ends by saving, and no record that it saves is out of time. -/
theorem SucceedsNamed.exists_saves (told : Console.TellsTime console)
    (h : SucceedsNamed console driver settings store name request tree c w r saved) :
    ∃ history pictured w' w'', Reaches driver settings store name request tree w r pictured w' ∧
      Saves driver store name history pictured w' saved w'' ∧
      ((store.load name).run FileTree.respond tree).1.history <+: history ∧ ∀ r ∈ history, r.Timed := by
  obtain ⟨reaches, saves⟩ := h
  refine ⟨_, _, _, _, reaches, saves, ?_, ?_⟩
  · rw [SessionStore.run_load]
    exact (continues_noted _ _ _).starts
  · exact timed_noted (told c) (SessionStore.timed_sessionAt tree (store.resolve name))

theorem Converses.exists_saves {url : Option String} {choice : BrowserChoice} {outcomes : List Outcome}
    (told : Console.TellsTime console)
    (h : Converses console driver settings store name url choice tree c w outcomes saved) :
    let loaded := ((store.load name).run FileTree.respond tree).1
    ∃ history w₀ w₁ c' w' w'', Visits driver loaded url w₀ w₁ ∧
      Talks console driver loaded.history w₁ c history w' c' ∧
      Saves driver store name history tree w' saved w'' ∧ ∀ r ∈ history, r.Timed := by
  obtain ⟨-, -, visits, talks, saves⟩ := h
  rw [SessionStore.run_load]
  refine ⟨_, _, _, _, _, _, visits, talks, saves, ?_⟩
  exact talks.timed told (SessionStore.timed_sessionAt tree (store.resolve name))

end Saving

/-- A session is saved with what the browser holds then and the loaded history; storage that was loaded for
another origin is lost. -/
theorem saved_storage {τ ω : Type} {console : Responder consoleSignature τ}
    (told : Console.TellsTime console) (driver : Responder wireSignature ω) (settings : Settings)
    (store : SessionStore) (name : String) (tree : FileTree) (c : τ) (w : ω) :
    let session (tree : FileTree) : Session := ((store.load name).run FileTree.respond tree).1
    (∀ request : RunRequest, request.session = some name →
      ∀ r saved, SucceedsNamed console driver settings store name request tree c w r saved →
        ((run settings store request).run (world console driver) ((tree, c), w)).2.1.1 = saved ∧
        ∃ pictured w' page, Reaches driver settings store name request tree w r pictured w' ∧
          SavedFrom driver w' page (session tree) (session saved)) ∧
    ∀ (url : Option String) (choice : BrowserChoice) (outcomes : List Outcome) (saved : FileTree),
      Converses console driver settings store name url choice tree c w outcomes saved →
        ((interact settings store url (some name) choice).run (world console driver)
          ((tree, c), w)).2.1.1 = saved ∧
        ∃ w₀ w₁ c' history w' page, Visits driver (session tree) url w₀ w₁ ∧
          Talks console driver (session tree).history w₁ c history w' c' ∧
          SavedFrom driver w' page (session tree) (session saved) := by
  intro session
  refine ⟨fun request named r saved completes => ?_, fun url choice outcomes saved converses => ?_⟩
  · refine ⟨(run_of_succeedsNamed named completes).2, ?_⟩
    obtain ⟨history, pictured, w', w'', reaches, saves, goes, timed⟩ := completes.exists_saves told
    obtain ⟨page, from_browser⟩ := saves.exists_savedFrom timed goes
    exact ⟨pictured, w', page, reaches, from_browser⟩
  · obtain ⟨m', ran, left⟩ := run_interact_of_converses converses
    refine ⟨by rw [ran]; exact left, ?_⟩
    obtain ⟨history, w₀, w₁, c', w', w'', visits, talks, saves, timed⟩ := converses.exists_saves told
    obtain ⟨page, from_browser⟩ := saves.exists_savedFrom timed talks.continues.starts
    exact ⟨w₀, w₁, c', history, w', page, visits, talks, from_browser⟩

/-- A driver of a page that keeps one entry in its storage, whatever was put there. -/
def storingDriver : Responder wireSignature Unit
  | .send (.execute .readStorage _), s =>
    (.ok (.arr [.obj [("name", .str "theme"), ("value", .str "dark")]]), s)
  | q, s => bareDriver (.ok (.arr [])) q s

/-- The file of a session with storage of another origin. -/
def storedElsewhere : FileTree where
  files := [(["sessions", "s.json"], .text (
    "\x7b\"origins\": [\x7b\"origin\": \"http://other.test\", \"localStorage\": " ++
    "[\x7b\"name\": \"draft\", \"value\": \"7\"\x7d]\x7d]\x7d"))]
  directories := [["sessions"]]

def waiting : RunRequest :=
  { waitAndClick none with actions := ["wait:2"], expectations := [] }

theorem exists_completes_waiting :
    ∃ r saved, RunReport.verdict r = .ok () ∧
      SucceedsNamed stillConsole storingDriver {} ⟨"sessions"⟩ "s" waiting storedElsewhere () () r
        saved := by
  have works : ((report {} ⟨"sessions"⟩ waiting).run (world stillConsole storingDriver)
      ((storedElsewhere, ()), ())).1.map RunReport.verdict = .ok (.ok ()) := by decide +kernel
  rcases reported : (report {} ⟨"sessions"⟩ waiting).run (world stillConsole storingDriver)
    ((storedElsewhere, ()), ()) with ⟨fault | r, m'⟩
  · rw [reported] at works
    cases works
  rw [reported] at works
  exact ⟨r, m'.1.1, Except.ok.inj works, succeedsNamed_of_run_report rfl reported⟩

theorem saved_storage_waiting :
    let store : SessionStore := ⟨"sessions"⟩
    let session (tree : FileTree) : Session := ((store.load "s").run FileTree.respond tree).1
    let ran := (run {} store waiting).run (world stillConsole storingDriver) ((storedElsewhere, ()), ())
    Console.TellsTime stillConsole ∧
    ∃ r saved, SucceedsNamed stillConsole storingDriver {} store "s" waiting storedElsewhere () () r saved ∧
      ran.2.1.1 = saved ∧
      ∃ pictured w' page,
        Reaches storingDriver {} store "s" waiting storedElsewhere () r pictured w' ∧
        SavedFrom storingDriver w' page (session storedElsewhere) (session saved) := by
  intro store session ran
  obtain ⟨r, saved, -, completes⟩ := exists_completes_waiting
  have whole := saved_storage tellsTime_stillConsole storingDriver {} store "s" storedElsewhere () ()
  unfold ran
  exact ⟨tellsTime_stillConsole, r, saved, completes, whole.1 waiting rfl r saved completes⟩

/-- A run on one origin, after which the storage of another is lost. -/
theorem saved_without_other_origin :
    let store : SessionStore := ⟨"sessions"⟩
    let origins (tree : FileTree) := ((store.load "s").run FileTree.respond tree).1.origins
    let ran := (run {} store waiting).run (world stillConsole storingDriver) ((storedElsewhere, ()), ())
    ran.1 = .ok () ∧
    origins storedElsewhere = [⟨"http://other.test", [⟨"draft", "7"⟩]⟩] ∧
    origins ran.2.1.1 = [⟨"http://h.test", [⟨"theme", "dark"⟩]⟩] := by
  intro store origins ran
  obtain ⟨r, saved, passed, completes⟩ := exists_completes_waiting
  obtain ⟨verdict, left⟩ := run_of_succeedsNamed rfl completes
  refine ⟨verdict.trans passed, by decide +kernel, ?_⟩
  have held : (Storage.capture.run storingDriver ()).1.map Prod.snd =
      .ok [⟨"http://h.test", [⟨"theme", "dark"⟩]⟩] := by decide +kernel
  obtain ⟨_, _, _, _, -, saves, -, timed⟩ := completes.exists_saves tellsTime_stillConsole
  obtain ⟨cookies, kept, captured, again⟩ := saves.exists_loaded timed
  rw [captured] at held
  have same : origins ran.2.1.1 = kept := by
    unfold origins ran
    rw [left]
    exact congrArg Session.origins again
  rw [same]
  exact Except.ok.inj held

end Browse

end PageWalk
