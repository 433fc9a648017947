import PageWalk.Run.Interactive
import PageWalk.Proofs.Batch

/-!
# The interactive loop as a batch

What the loop does to a page and to the record is what a batch of the commands does that were
entered. `Interactive.run_eq_batch` says so for every page and every console, also for one whose
lines depend on what has been written to it.
-/

namespace PageWalk

set_option autoImplicit false

/-- The history after outcomes, each with the time at which it was noted. -/
def History.noteAll (history : History) (outcomes : List (Int × Outcome)) : History :=
  outcomes.foldl (fun history (time, o) => history.note time o) history

/-- What is kept of an outcome besides the time: the command to replay and the locator. -/
def Outcome.kept? (o : Outcome) : Option (String × Option String) :=
  match o.result with
  | .success locator => some (o.replay, locator)
  | .failure _ => none

theorem Record.kept_ofOutcome? (time : Int) (o : Outcome) :
    (Record.ofOutcome? time o).map (fun r => (r.command, r.locator)) = o.kept? := by
  unfold ofOutcome? Outcome.kept?
  cases o.result <;> rfl

theorem History.noteAll_eq (history : History) (outcomes : List (Int × Outcome)) :
    history.noteAll outcomes =
      history ++ outcomes.filterMap fun (time, o) => Record.ofOutcome? time o := by
  induction outcomes generalizing history with
  | nil => exact (List.append_nil _).symm
  | cons noted rest ih =>
    obtain ⟨time, o⟩ := noted
    show (history.note time o).noteAll rest = _
    rw [ih, History.note, List.append_assoc, List.filterMap_cons]
    dsimp only
    cases Record.ofOutcome? time o <;> rfl

/-- The history of outcomes with their times goes on with one record for each success. -/
theorem History.exists_noteAll {times : List Int} {outcomes : List Outcome}
    (h : times.length = outcomes.length) (history : History) :
    ∃ records, history.noteAll (times.zip outcomes) = history ++ records ∧
      records.map (fun r => (r.command, r.locator)) = outcomes.filterMap Outcome.kept? := by
  refine ⟨_, history.noteAll_eq _, ?_⟩
  rw [List.map_filterMap]
  have kept : (fun noted : Int × Outcome =>
      (Record.ofOutcome? noted.1 noted.2).map fun r => (r.command, r.locator)) =
      Outcome.kept? ∘ Prod.snd := funext fun noted => Record.kept_ofOutcome? noted.1 noted.2
  rw [kept, ← List.filterMap_map, List.map_snd_zip (Nat.le_of_eq h.symm)]

namespace Interactive

/-- What the loop asks of a page or a console, with the answer. -/
abbrev Exchange : Type :=
  Sigma (pageSignature.sum consoleSignature).Answer

namespace Exchange

def entered? : Except LineError (Option (List Char)) → Option String
  | .ok (some line) =>
    match Request.ofLine line with
    | .command command => some command
    | _ => none
  | _ => none

def command? : Exchange → Option String
  | ⟨.inr .readLine, reply⟩ => entered? reply
  | _ => none

def time? : Exchange → Option Int
  | ⟨.inr .clock, time⟩ => some time
  | _ => none

def call? : Exchange → Option pageSignature.Ask
  | ⟨.inl call, _⟩ => some call
  | ⟨.inr _, _⟩ => none

end Exchange

section Loop

variable {σ τ : Type} (page : Page σ) (console : Responder consoleSignature τ)

/-- A run of the loop does what a batch does, with a time for each of its outcomes. -/
def ActsAsBatch (p : TalkProgram (Except LineError Unit × History)) (history : History) (s : σ)
    (t : τ) : Prop :=
  let ran := p.run (page.beside console) (s, t)
  let heard : List Exchange := p.transcript (page.beside console) (s, t)
  let times := heard.filterMap Exchange.time?
  let batch := Batch.perform (heard.filterMap Exchange.command?)
  times.length = (batch.run page s).1.length ∧
    ran.1.2 = history.noteAll (times.zip (batch.run page s).1) ∧
    ran.2.1 = (batch.run page s).2 ∧
    heard.filterMap Exchange.call? = batch.asked page s

variable {history : History} {s : σ} {t : τ}

theorem actsAsBatch_done (reply : Except LineError Unit) :
    ActsAsBatch page console (.done (reply, history)) history s t :=
  ⟨rfl, rfl, rfl, rfl⟩

/-- A question to the console that is about neither a command nor the time. -/
theorem actsAsBatch_ask {q : consoleSignature.Ask}
    {next : consoleSignature.Answer q → TalkProgram (Except LineError Unit × History)}
    (command : Exchange.command? ⟨.inr q, (console q t).1⟩ = none)
    (time : Exchange.time? ⟨.inr q, (console q t).1⟩ = none)
    (h : ActsAsBatch page console (next (console q t).1) history s (console q t).2) :
    ActsAsBatch page console (.ask (S := pageSignature.sum consoleSignature) (.inr q) next)
      history s t := by
  have heard : (Program.ask (S := pageSignature.sum consoleSignature) (.inr q) next).transcript
      (page.beside console) (s, t) = ⟨.inr q, (console q t).1⟩ ::
        (next (console q t).1).transcript (page.beside console) (s, (console q t).2) := rfl
  have calls : Exchange.call? ⟨.inr q, (console q t).1⟩ = none := rfl
  unfold ActsAsBatch
  rw [heard]
  simp only [List.filterMap_cons, command, time, calls]
  exact h

theorem heard_left {α : Type} (p : PageProgram α) (s : σ) (t : τ) :
    let heard : List Exchange := p.left.transcript (page.beside console) (s, t)
    heard.filterMap Exchange.command? = [] ∧ heard.filterMap Exchange.time? = [] ∧
      heard.filterMap Exchange.call? = p.asked page s := by
  intro heard
  have asked : heard = (p.transcript page s).map fun asked => ⟨.inl asked.1, asked.2⟩ :=
    Program.transcript_left page console p s t
  rw [asked, List.filterMap_map, List.filterMap_map, List.filterMap_map]
  refine ⟨List.filterMap_eq_nil_iff.mpr fun _ _ => rfl,
    List.filterMap_eq_nil_iff.mpr fun _ _ => rfl, ?_⟩
  rw [← Program.map_fst_transcript]
  exact congrFun List.filterMap_eq_map _

/-- A command is carried out, and what came of it is noted at the time that is told then. -/
theorem run_perform (history : History) (command : String) (s : σ) (t : τ) :
    let outcome := (Batch.execute command).run page s
    let heard : List Exchange := (perform history command).transcript (page.beside console) (s, t)
    ∃ time t', (perform history command).run (page.beside console) (s, t) =
        (history.note time outcome.1, (outcome.2, t')) ∧
      heard.filterMap Exchange.command? = [] ∧ heard.filterMap Exchange.time? = [time] ∧
      heard.filterMap Exchange.call? = (Batch.execute command).asked page s := by
  intro outcome heard
  obtain ⟨commands, times, calls⟩ := heard_left page console (Batch.execute command) s t
  let t₁ := (console (.write (report outcome.1)) t).2
  refine ⟨(console .clock t₁).1, (console .clock t₁).2, ?_, ?_⟩
  · unfold perform
    simp only [bind, Program.run_bind, Program.run_left]
    rfl
  · have parts : heard = (Batch.execute command).left.transcript (page.beside console) (s, t) ++
        [⟨.inr (.write (report outcome.1)), ()⟩, ⟨.inr .clock, (console .clock t₁).1⟩] := by
      unfold heard perform
      simp only [bind, Program.transcript_bind, Program.run_left]
      rfl
    rw [parts, List.filterMap_append, List.filterMap_append, List.filterMap_append, commands, times,
      calls]
    exact ⟨rfl, rfl, List.append_nil _⟩

theorem actsAsBatch_write {text : String}
    {next : TalkProgram (Except LineError Unit × History)}
    (h : ActsAsBatch page console next history s (console (.write text) t).2) :
    ActsAsBatch page console ((write text).bind fun _ => next) history s t :=
  actsAsBatch_ask page console rfl rfl h

theorem actsAsBatch_readLine
    {next : Except LineError (Option (List Char)) → TalkProgram (Except LineError Unit × History)}
    (nothing : Exchange.entered? (console .readLine t).1 = none)
    (h : ActsAsBatch page console (next (console .readLine t).1) history s
      (console .readLine t).2) :
    ActsAsBatch page console (readLine.bind next) history s t :=
  actsAsBatch_ask page console nothing rfl h

theorem actsAsBatch_enter {command : String}
    {next : Except LineError (Option (List Char)) → TalkProgram (Except LineError Unit × History)}
    {rest : History → TalkProgram (Except LineError Unit × History)}
    (entered : Exchange.entered? (console .readLine t).1 = some command)
    (performs : next (console .readLine t).1 = (perform history command).bind rest)
    (h : ∀ history s t, ActsAsBatch page console (rest history) history s t) :
    ActsAsBatch page console (readLine.bind next) history s t := by
  obtain ⟨time, t', ran, commands, times, calls⟩ :=
    run_perform page console history command s (console .readLine t).2
  obtain ⟨told, noted, left, asked⟩ := h (history.note time ((Batch.execute command).run page s).1)
    ((Batch.execute command).run page s).2 t'
  have opens : readLine.bind next =
    .ask (S := pageSignature.sum consoleSignature) (.inr .readLine) next := rfl
  unfold ActsAsBatch
  simp only [opens, Program.run, Program.transcript, Responder.beside, performs, Program.run_bind,
    Program.transcript_bind, ran, List.filterMap_cons, List.filterMap_append, commands, times,
    calls, Exchange.command?, Exchange.time?, Exchange.call?, entered, List.nil_append,
    List.singleton_append, Batch.run_perform_cons, Batch.asked_perform_cons, List.zip_cons_cons]
  exact ⟨congrArg (· + 1) told, noted, left, congrArg (_ ++ ·) asked⟩

theorem actsAsBatch_loop (n : Nat) (history : History) (s : σ) (t : τ) :
    ActsAsBatch page console (loop n history) history s t := by
  -- only a line with a command reaches the page; after any other the batch is that of the rest
  induction n generalizing history s t with
  | zero => exact actsAsBatch_write page console (actsAsBatch_done page console _)
  | succ n ih =>
    rw [loop]
    refine actsAsBatch_write page console ?_
    rcases reply : (console .readLine (console (.write promptMark) t).2).1 with e | _ | line
    · refine actsAsBatch_readLine page console (by rw [reply]; rfl) ?_
      rw [reply]
      exact actsAsBatch_done page console _
    · refine actsAsBatch_readLine page console (by rw [reply]; rfl) ?_
      rw [reply]
      exact actsAsBatch_write page console
        (actsAsBatch_write page console (actsAsBatch_done page console _))
    · cases request : Request.ofLine line with
      | command command =>
        refine actsAsBatch_enter page console (by rw [reply, Exchange.entered?, request]) ?_ ih
        simp only [reply, request]
        rfl
      | nothing =>
        refine actsAsBatch_readLine page console (by rw [reply, Exchange.entered?, request]) ?_
        simp only [reply, request]
        exact ih history s _
      | leave =>
        refine actsAsBatch_readLine page console (by rw [reply, Exchange.entered?, request]) ?_
        simp only [reply, request]
        exact actsAsBatch_write page console (actsAsBatch_done page console _)
      | help | history | test | prompt =>
        refine actsAsBatch_readLine page console (by rw [reply, Exchange.entered?, request]) ?_
        simp only [reply, request]
        exact actsAsBatch_write page console (ih history s _)

end Loop

/-- The loop does to the page what the batch of the commands that were entered does, and ends with the record
of its outcomes. -/
theorem run_eq_batch {σ τ : Type} (page : Page σ) (console : Responder consoleSignature τ)
    (history : History) (s : σ) (t : τ) :
    ActsAsBatch page console (run history) history s t := by
  refine actsAsBatch_write page console ?_
  exact actsAsBatch_ask page console rfl rfl (actsAsBatch_loop page console _ _ _ _)

end Interactive

end PageWalk
