import PageWalk.Proofs.Decoding
import PageWalk.Proofs.Program
import PageWalk.Report.Exploration

/-!
# Which commands are attempted

An exploration that does not watch the page attempts every command, checks every expectation, and fails
only by what it reports of the page in the end. One that watches asks the page for its errors after each
command. Where that fails, the commands that are left are not attempted, and no expectation is checked.
-/

namespace PageWalk

set_option autoImplicit false

namespace Program

variable {S : Signature} {α β σ : Type}

/-- From one state to another, a program asks these questions and gives this result. -/
structure Does (world : Responder S σ) (p : Program S α) (s : σ) (asked : List S.Ask) (a : α)
    (s' : σ) : Prop where
  asks : p.asked world s = asked
  gives : p.run world s = (a, s')

variable {world : Responder S σ} {p : Program S α} {f : α → Program S β} {s s₁ s₂ : σ}
  {asked more : List S.Ask} {a : α} {b : β}

theorem does_run (world : Responder S σ) (p : Program S α) (s : σ) :
    Does world p s (p.asked world s) (p.run world s).1 (p.run world s).2 :=
  ⟨rfl, rfl⟩

theorem does_done (world : Responder S σ) (a : α) (s : σ) : Does world (done a) s [] a s :=
  ⟨rfl, rfl⟩

theorem Does.bind (first : Does world p s asked a s₁) (later : Does world (f a) s₁ more b s₂) :
    Does world (p.bind f) s (asked ++ more) b s₂ := by
  constructor
  · rw [asked_bind, first.gives, first.asks, later.asks]
  · rw [run_bind, first.gives, later.gives]

end Program

namespace Exploration

open Program (Does)

variable {σ : Type} (page : Page σ)

section Steps

variable {page} {α β : Type} {step : PageProgram (Except Fault α)}
  {next : α → PageProgram (Except Fault β)} {s s₁ s₂ : σ} {calls more : List PageCall} {a : α}
  {result : Except Fault β} {fault : Fault}

theorem does_andThen (first : Does page step s calls (.ok a) s₁)
    (later : Does page (next a) s₁ more result s₂) :
    Does page (andThen step next) s (calls ++ more) result s₂ :=
  first.bind later

theorem does_andThen_error (first : Does page step s calls (.error fault) s₁) :
    Does page (andThen step next) s calls (.error fault) s₁ := by
  have ends : Does page (.done (.error fault : Except Fault β)) s₁ [] (.error fault) s₁ :=
    Program.does_done page _ s₁
  rw [← List.append_nil calls]
  exact first.bind ends

theorem does_andThen_ok (f : α → β) (first : Does page step s calls (.ok a) s₁) :
    Does page (andThen step fun a => .done (.ok (f a))) s calls (.ok (f a)) s₁ := by
  have ends : Does page (.done (.ok (f a) : Except Fault β)) s₁ [] (.ok (f a)) s₁ :=
    Program.does_done page _ s₁
  rw [← List.append_nil calls]
  exact first.bind ends

theorem does_cases (step : PageProgram (Except Fault α)) (s : σ) :
    (∃ calls a s', Does page step s calls (.ok a) s') ∨
      ∃ calls fault s', Does page step s calls (.error fault) s' := by
  have does := Program.does_run page step s
  cases ended : (step.run page s).1 with
  | ok a => exact .inl ⟨_, a, _, ended ▸ does⟩
  | error fault => exact .inr ⟨_, fault, _, ended ▸ does⟩

end Steps

/-- Commands are carried out one after the other, and after each the errors so far are taken. -/
inductive Attempts : List String → Option PageErrors → σ → List PageCall → List Outcome →
    Option PageErrors → σ → Prop where
  | nil (errors : Option PageErrors) (s : σ) : Attempts [] errors s [] [] errors s
  | cons {command : String} {rest : List String} {errors errors' last : Option PageErrors}
      {s s₁ s₂ s₃ : σ} {acting noting calls : List PageCall} {outcome : Outcome}
      {outcomes : List Outcome}
      (acted : Does page (Batch.execute command) s acting outcome s₁)
      (noted : Does page (note errors) s₁ noting (.ok errors') s₂)
      (later : Attempts rest errors' s₂ calls outcomes last s₃) :
    Attempts (command :: rest) errors s (acting ++ (noting ++ calls)) (outcome :: outcomes) last s₃

/-- One of the commands is the last to be carried out, since the errors after it cannot be taken. -/
inductive BreaksOff : List String → Option PageErrors → σ → List PageCall → Fault → σ → Prop where
  | after {before : List String} {command : String} {rest : List String}
      {errors errors' : Option PageErrors} {s s₁ s₂ s₃ : σ} {calls acting noting : List PageCall}
      {outcomes : List Outcome} {outcome : Outcome} {fault : Fault}
      (attempts : Attempts page before errors s calls outcomes errors' s₁)
      (acted : Does page (Batch.execute command) s₁ acting outcome s₂)
      (lost : Does page (note errors') s₂ noting (.error fault) s₃) :
    BreaksOff (before ++ command :: rest) errors s (calls ++ (acting ++ noting)) fault s₃

/-- How an exploration ends that has carried out its commands and checked its expectations. -/
inductive Closes (options : ExploreOptions) (actions checks : List Outcome)
    (errors : Option PageErrors) (s : σ) : List PageCall → Except Fault Report → Prop where
  | unsummarized {calls : List PageCall} {fault : Fault} {s₁ : σ}
      (failed : Does page Summary.take s calls (.error fault) s₁) :
    Closes options actions checks errors s calls (.error fault)
  | unanalyzed {taking calls : List PageCall} {summary : Summary} {fault : Fault} {s₁ s₂ : σ}
      (taken : Does page Summary.take s taking (.ok summary) s₁)
      (failed : Does page (forms options.forms) s₁ calls (.error fault) s₂) :
    Closes options actions checks errors s (taking ++ calls) (.error fault)
  | unnoted {taking analyzing calls : List PageCall} {summary : Summary} {found : Option (List Form)}
      {fault : Fault} {s₁ s₂ s₃ : σ}
      (taken : Does page Summary.take s taking (.ok summary) s₁)
      (analyzed : Does page (forms options.forms) s₁ analyzing (.ok found) s₂)
      (failed : Does page (note errors) s₂ calls (.error fault) s₃) :
    Closes options actions checks errors s (taking ++ (analyzing ++ calls)) (.error fault)
  | reported {taking analyzing noting : List PageCall} {summary : Summary}
      {found : Option (List Form)} {seen : Option PageErrors} {s₁ s₂ s₃ : σ}
      (taken : Does page Summary.take s taking (.ok summary) s₁)
      (analyzed : Does page (forms options.forms) s₁ analyzing (.ok found) s₂)
      (noted : Does page (note errors) s₂ noting (.ok seen) s₃) :
    Closes options actions checks errors s (taking ++ (analyzing ++ noting))
      (.ok { actions, checks, page := summary, forms := found, errors := seen })

/-- How an exploration ends. -/
inductive RunsTo (commands expectations : List String) (options : ExploreOptions) (s : σ) :
    List PageCall → Except Fault Report → Prop where
  | unwatched {calls : List PageCall} {fault : Fault} {s₁ : σ}
      (failed : Does page (watch options.monitor) s calls (.error fault) s₁) :
    RunsTo commands expectations options s calls (.error fault)
  | brokenOff {watching calls : List PageCall} {errors : Option PageErrors} {fault : Fault}
      {s₁ s₂ : σ}
      (watched : Does page (watch options.monitor) s watching (.ok errors) s₁)
      (broken : BreaksOff page commands errors s₁ calls fault s₂) :
    RunsTo commands expectations options s (watching ++ calls) (.error fault)
  | attempted {watching calls checking closing : List PageCall} {errors last : Option PageErrors}
      {actions checks : List Outcome} {result : Except Fault Report} {s₁ s₂ s₃ : σ}
      (watched : Does page (watch options.monitor) s watching (.ok errors) s₁)
      (attempts : Attempts page commands errors s₁ calls actions last s₂)
      (checked : Does page (Batch.checkAll expectations) s₂ checking checks s₃)
      (closes : Closes page options actions checks last s₃ closing result) :
    RunsTo commands expectations options s (watching ++ (calls ++ (checking ++ closing))) result

section Runs

variable {page} {commands expectations : List String} {errors errors' : Option PageErrors}
  {options : ExploreOptions} {s s' : σ}

theorem Attempts.unwatched {calls : List PageCall} {outcomes : List Outcome}
    (h : Attempts page commands none s calls outcomes errors s') : errors = none := by
  generalize unwatched : (none : Option PageErrors) = first at h
  induction h with
  | nil => exact unwatched.symm ▸ rfl
  | cons acted noted later ih =>
    obtain rfl := unwatched
    cases noted.gives
    exact ih rfl

/-- What is not watched cannot be lost. -/
theorem BreaksOff.watched {calls : List PageCall} {fault : Fault}
    (h : BreaksOff page commands errors s calls fault s') : errors ≠ none := by
  rintro rfl
  obtain ⟨attempts, acted, lost⟩ := h
  obtain rfl := attempts.unwatched
  cases lost.gives

theorem BreaksOff.cons {command : String} {acting noting calls : List PageCall} {outcome : Outcome}
    {fault : Fault} {s₁ s₂ : σ} (acted : Does page (Batch.execute command) s acting outcome s₁)
    (noted : Does page (note errors) s₁ noting (.ok errors') s₂)
    (later : BreaksOff page commands errors' s₂ calls fault s') :
    BreaksOff page (command :: commands) errors s (acting ++ (noting ++ calls)) fault s' := by
  obtain ⟨attempts, acted', lost⟩ := later
  rw [← List.append_assoc noting, ← List.append_assoc acting]
  exact .after (.cons acted noted attempts) acted' lost

theorem perform_cases (commands : List String) (errors : Option PageErrors) (s : σ) :
    (∃ calls outcomes last s', Attempts page commands errors s calls outcomes last s' ∧
        Does page (perform commands errors) s calls (.ok (outcomes, last)) s') ∨
      ∃ calls fault s', BreaksOff page commands errors s calls fault s' ∧
        Does page (perform commands errors) s calls (.error fault) s' := by
  -- a run that breaks off later is one that breaks off, with this command carried out before
  induction commands generalizing errors s with
  | nil => exact .inl ⟨[], [], errors, s, .nil errors s, Program.does_done page _ s⟩
  | cons command rest ih =>
    have acted := Program.does_run page (Batch.execute command) s
    rcases does_cases (note errors) ((Batch.execute command).run page s).2 with
      ⟨_, errors', s₂, noted⟩ | ⟨_, fault, s₂, lost⟩
    · rcases ih errors' s₂ with
        ⟨_, outcomes, last, s', later, does⟩ | ⟨_, fault, s', later, does⟩
      · refine .inl ⟨_, _, last, s', .cons acted noted later, ?_⟩
        exact acted.bind (does_andThen noted (does_andThen_ok _ does))
      · refine .inr ⟨_, fault, s', later.cons acted noted, ?_⟩
        exact acted.bind (does_andThen noted (does_andThen_error does))
    · refine .inr ⟨_, fault, s₂, .after (.nil errors s) acted lost, ?_⟩
      exact acted.bind (does_andThen_error lost)

/-- What is reported when the commands were carried out and the expectations were checked. -/
def close (options : ExploreOptions) (actions checks : List Outcome) (errors : Option PageErrors) :
    PageProgram (Except Fault Report) :=
  andThen Summary.take fun page =>
  andThen (forms options.forms) fun forms =>
  andThen (note errors) fun errors =>
  pure (.ok { actions, checks, page, forms, errors })

theorem exists_closes (options : ExploreOptions) (actions checks : List Outcome)
    (errors : Option PageErrors) (s : σ) :
    ∃ calls result s', Closes page options actions checks errors s calls result ∧
      Does page (close options actions checks errors) s calls result s' := by
  rcases does_cases Summary.take s with ⟨_, summary, s₁, taken⟩ | ⟨_, fault, s₁, failed⟩
  · rcases does_cases (forms options.forms) s₁ with
      ⟨_, found, s₂, analyzed⟩ | ⟨_, fault, s₂, failed⟩
    · rcases does_cases (note errors) s₂ with ⟨_, seen, s₃, noted⟩ | ⟨_, fault, s₃, failed⟩
      · refine ⟨_, _, s₃, .reported taken analyzed noted, ?_⟩
        exact does_andThen taken (does_andThen analyzed (does_andThen_ok _ noted))
      · refine ⟨_, _, s₃, .unnoted taken analyzed failed, ?_⟩
        exact does_andThen taken (does_andThen analyzed (does_andThen_error failed))
    · refine ⟨_, _, s₂, .unanalyzed taken failed, ?_⟩
      exact does_andThen taken (does_andThen_error failed)
  · exact ⟨_, _, s₁, .unsummarized failed, does_andThen_error failed⟩

theorem exists_runsTo (commands expectations : List String) (options : ExploreOptions) (s : σ) :
    ∃ calls result s', RunsTo page commands expectations options s calls result ∧
      Does page (run commands expectations options) s calls result s' := by
  rcases does_cases (watch options.monitor) s with
    ⟨_, errors, s₁, watched⟩ | ⟨_, fault, s₁, failed⟩
  · rcases perform_cases commands errors s₁ with
      ⟨_, actions, last, s₂, attempts, does⟩ | ⟨_, fault, s₂, broken, does⟩
    · have checked := Program.does_run page (Batch.checkAll expectations) s₂
      obtain ⟨_, result, s₄, closes, closing⟩ := exists_closes options actions
        ((Batch.checkAll expectations).run page s₂).1 last
        ((Batch.checkAll expectations).run page s₂).2
      refine ⟨_, result, s₄, .attempted watched attempts checked closes, ?_⟩
      exact does_andThen watched (does_andThen does (checked.bind closing))
    · refine ⟨_, _, s₂, .brokenOff watched broken, ?_⟩
      exact does_andThen watched (does_andThen_error does)
  · exact ⟨_, _, s₁, .unwatched failed, does_andThen_error failed⟩

/-- An exploration attempts all its commands and expectations. Only a step of its report can make it fail, or
watching the page, which breaks it off. -/
theorem run_ends (page : Page σ) (commands expectations : List String) (options : ExploreOptions)
    (s : σ) :
    let explore := run commands expectations options
    RunsTo page commands expectations options s (explore.asked page s) (explore.run page s).1 ∧
      (options.monitor = false →
        ∃ (calls checking closing : List PageCall) (actions checks : List Outcome) (s₁ s₂ : σ),
          Attempts page commands none s calls actions none s₁ ∧
            Does page (Batch.checkAll expectations) s₁ checking checks s₂ ∧
            Closes page options actions checks none s₂ closing (explore.run page s).1 ∧
            explore.asked page s = calls ++ (checking ++ closing)) := by
  intro explore
  obtain ⟨calls, result, s', ends, (does : Does page _ s calls result s')⟩ :=
    exists_runsTo commands expectations options s
  rw [does.asks, does.gives]
  refine ⟨ends, fun unwatched => ?_⟩
  have nothing : Does page (watch options.monitor) s [] (.ok none) s := by
    rw [unwatched]
    exact Program.does_done page _ s
  cases ends with
  | unwatched failed => cases nothing.gives.symm.trans failed.gives
  | brokenOff watched broken =>
    cases nothing.gives.symm.trans watched.gives
    exact absurd rfl broken.watched
  | attempted watched attempts checked closes =>
    cases nothing.gives.symm.trans watched.gives
    obtain rfl := nothing.asks.symm.trans watched.asks
    obtain rfl := attempts.unwatched
    exact ⟨_, _, _, _, _, _, _, attempts, checked, closes, rfl⟩

end Runs

/-- A page that is navigating until its errors are asked for, which it cannot tell then. -/
def navigatingPage : Page Bool
  | .evaluate .collectErrors _, true => (.error ⟨"navigating", []⟩, false)
  | .evaluate _ _, s => (.ok .null, s)
  | .wait _, s => (.ok (), s)
  | _, s => (.error ⟨"No such element", []⟩, s)

/-- A run that ends after one of two commands, on a page that could do the other and be summarized. -/
theorem run_ends_navigating :
    let explore := run ["wait:1", "wait:2"] [] { monitor := true }
    explore.asked navigatingPage true =
        [.evaluate .installMonitor [.int PageErrors.capacity], .wait 1, .evaluate .collectErrors []] ∧
      explore.run navigatingPage true =
        (.error ⟨"Failed to collect page errors", ["navigating"]⟩, false) ∧
      ((Batch.execute "wait:2").run navigatingPage false).1.result.isSuccess = true ∧
      (Summary.take.run navigatingPage false).1 = .ok {} := by
  intro explore
  have parsed : Command.parse "wait:1" = .ok (.wait 1) := by decide +kernel
  have executed : Batch.execute "wait:1" = Batch.attempt "wait:1" (.wait 1) := by
    rw [Batch.execute, parsed]
  simp only [explore, run, perform, executed]
  exact ⟨rfl, rfl, by decide +kernel, rfl⟩

end Exploration

end PageWalk
