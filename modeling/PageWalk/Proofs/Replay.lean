import PageWalk.TestSource.Test
import PageWalk.Proofs.Interaction

/-!
# What is recorded can be replayed

A record holds the text of a command: the one that was entered, or the one that healing has
written. Either way it reads as the action that succeeded, so a test written from such records has a
statement for each of its steps and no comment.
-/

namespace PageWalk

set_option autoImplicit false

section Statements

def Begins (c : Char) (s : String) : Prop :=
  s.toList.head? = some c

theorem Begins.append {c : Char} {s : String} (h : Begins c s) (t : String) :
    Begins c (s ++ t) := by
  unfold Begins at h ⊢
  rw [String.toList_append, List.head?_append, h]
  rfl

theorem Begins.ne_nil {c : Char} {s : String} (h : Begins c s) : s.toList ≠ [] := by
  intro empty
  rw [Begins, empty] at h
  cases h

theorem Wrapper.begins_opening (w : Wrapper) : ∃ c, c ≠ '/' ∧ Begins c w.opening := by
  cases w with
  | loop count =>
    have opens : Begins 'f' "for (let i = 0; i < " := rfl
    exact ⟨'f', by decide, (opens.append _).append _⟩
  | when selector =>
    have opens : Begins 'i' "if (await page.$(" := rfl
    exact ⟨'i', by decide, (opens.append _).append _⟩

theorem Wrapper.begins_block (w : Wrapper) (statement : String) :
    ∃ c, c ≠ '/' ∧ Begins c (w.block statement) := by
  obtain ⟨c, other, begins⟩ := w.begins_opening
  exact ⟨c, other, ((begins.append _).append _).append _⟩

/-- A statement begins with `await`, `for` or `if`. -/
theorem Action.begins_statement (a : Action) (locator : Option String) :
    ∃ c, c ≠ '/' ∧ Begins c (a.statement locator) := by
  cases a with
  | click selector =>
    have opens : Begins 'a' "await page." := rfl
    have calls : Begins 'a' "await page.click(" := rfl
    cases locator with
    | none => exact ⟨'a', by decide, (calls.append _).append _⟩
    | some locator => exact ⟨'a', by decide, (opens.append _).append _⟩
  | fill selector value =>
    have opens : Begins 'a' "await page." := rfl
    have calls : Begins 'a' "await page.fill(" := rfl
    cases locator with
    | none => exact ⟨'a', by decide, (((calls.append _).append _).append _).append _⟩
    | some locator => exact ⟨'a', by decide, (((opens.append _).append _).append _).append _⟩
  | wait ms =>
    have calls : Begins 'a' "await page.waitForTimeout(" := rfl
    exact ⟨'a', by decide, (calls.append _).append _⟩
  | goto url =>
    have calls : Begins 'a' "await page.goto(" := rfl
    exact ⟨'a', by decide, (calls.append _).append _⟩
  | press key =>
    have calls : Begins 'a' "await page.keyboard.press(" := rfl
    exact ⟨'a', by decide, (calls.append _).append _⟩
  | scroll goal =>
    cases goal with
    | top =>
      have calls : Begins 'a' "await page.evaluate(() => window.scrollTo(0, 0));" := rfl
      exact ⟨'a', by decide, calls⟩
    | bottom =>
      have calls : Begins 'a'
        "await page.evaluate(() => window.scrollTo(0, document.body.scrollHeight));" := rfl
      exact ⟨'a', by decide, calls⟩
    | element selector =>
      have calls : Begins 'a' "await page.locator(" := rfl
      exact ⟨'a', by decide, (calls.append _).append _⟩
  | expect aspect value =>
    cases aspect with
    | text =>
      have calls : Begins 'a' "await expect(page.locator('body')).toContainText(" := rfl
      exact ⟨'a', by decide, (calls.append _).append _⟩
    | selector =>
      have calls : Begins 'a' "await expect(page.locator(" := rfl
      exact ⟨'a', by decide, (calls.append _).append _⟩
    | url =>
      have calls : Begins 'a' "await expect(page).toHaveURL(new RegExp(" := rfl
      exact ⟨'a', by decide, (calls.append _).append _⟩
  | loop count body => exact (Wrapper.loop count).begins_block _
  | when selector body => exact (Wrapper.when selector).begins_block _

theorem Action.statement_ne_comment (a : Action) (locator : Option String) (command : String)
    (e : CommandError) : a.statement locator ≠ TestSource.comment command e := by
  intro same
  obtain ⟨c, other, begins⟩ := a.begins_statement locator
  have slash : Begins '/' "// Failed to parse command '" := rfl
  have comments := ((slash.append (TestSource.oneLine command)).append "': ").append
    (TestSource.oneLine e.message)
  rw [same] at begins
  exact other (Option.some.inj (begins.symm.trans comments))

end Statements

section Records

theorem History.mem_noteAll {outcomes : List (Int × Outcome)} {history : History} {r : Record}
    (h : r ∈ history.noteAll outcomes) :
    r ∈ history ∨ ∃ time o, (time, o) ∈ outcomes ∧ Record.ofOutcome? time o = some r := by
  induction outcomes generalizing history with
  | nil => exact .inl h
  | cons noted rest ih =>
    rcases ih h with before | ⟨time, o, later, kept⟩
    · rcases List.mem_append.mp before with old | new
      · exact .inl old
      · exact .inr ⟨noted.1, noted.2, List.mem_cons_self, Option.mem_toList.mp new⟩
    · exact .inr ⟨time, o, List.mem_cons_of_mem _ later, kept⟩

theorem Record.eq_of_ofOutcome? {time : Int} {o : Outcome} {r : Record}
    (h : Record.ofOutcome? time o = some r) :
    o.result.isSuccess = true ∧ r.command = o.replay ∧ r.locator = o.result.locator? := by
  unfold Record.ofOutcome? at h
  split at h
  · next locator result =>
    obtain rfl := Option.some.inj h
    rw [result]
    exact ⟨rfl, rfl, rfl⟩
  · cases h

theorem TestSource.exists_record_of_mem_steps {history : History} {step : Step}
    (h : step ∈ steps history) : ∃ r ∈ history, step = Step.ofRecord r := by
  unfold steps at h
  generalize none = last at h
  induction history generalizing last with
  | nil => cases h
  | cons r rest ih =>
    rw [stepsAfter] at h
    split at h
    · obtain ⟨r', later, same⟩ := ih _ h
      exact ⟨r', List.mem_cons_of_mem _ later, same⟩
    · rcases List.mem_cons.mp h with rfl | h
      · exact ⟨r, List.mem_cons_self, rfl⟩
      · obtain ⟨r', later, same⟩ := ih _ h
        exact ⟨r', List.mem_cons_of_mem _ later, same⟩

/-- Every step of a test that is written from the outcomes of a batch is a statement. -/
theorem TestSource.exists_statement {σ : Type} {page : Page σ} {s : σ} {commands : List String}
    {times : List Int} {step : Step}
    (h : step ∈ steps (History.noteAll [] (times.zip ((Batch.perform commands).run page s).1))) :
    ∃ b, Command.parse step.record.command = .ok b ∧
      step.statement = b.statement step.record.locator := by
  obtain ⟨r, recorded, rfl⟩ := exists_record_of_mem_steps h
  rcases History.mem_noteAll recorded with none | ⟨time, o, noted, kept⟩
  · cases none
  obtain ⟨success, command, -⟩ := Record.eq_of_ofOutcome? kept
  obtain ⟨entered, s₁, rfl⟩ := Batch.exists_execute_of_mem page (List.of_mem_zip noted).2
  obtain ⟨b, produced⟩ := Batch.exists_produced success
  have parsed : Command.parse r.command = .ok b := command ▸ produced.parse_replay
  refine ⟨b, parsed, ?_⟩
  rw [Step.statement, Step.ofRecord, parsed]

end Records

/-- What is recorded of a success reads as the very action that has succeeded, and a test has the statement
of that action. -/
theorem recorded_replays {σ τ : Type} (page : Page σ) (s : σ) :
    (∀ before command after,
      let s₁ := ((Batch.perform before).run page s).2
      let ran := (Batch.execute command).run page s₁
      ((Batch.perform (before ++ command :: after)).run page s).1[before.length]? = some ran.1 ∧
        (ran.1.result.isSuccess = true →
          ∃ b, Produced page s₁ command ran.1 ran.2 b ∧ Command.parse ran.1.replay = .ok b)) ∧
      (∀ (console : Responder consoleSignature τ) (history : History) (t : τ),
        Interactive.ActsAsBatch page console (Interactive.run history) history s t) ∧
      ∀ (commands : List String) (times : List Int),
        let history := History.noteAll [] (times.zip ((Batch.perform commands).run page s).1)
        let block (step : TestSource.Step) := String.ofList (Text.indent step.statement.toList)
        TestSource.test history = joined "\n"
            (TestSource.opening ++ (TestSource.steps history).map block ++ [TestSource.closing]) ∧
          ∀ step ∈ TestSource.steps history,
            (∃ b, Command.parse step.record.command = .ok b ∧
              step.statement = b.statement step.record.locator) ∧
            ∀ command e, step.statement ≠ TestSource.comment command e := by
  refine ⟨fun before command after => ?_, fun console history t => ?_, fun commands times => ?_⟩
  · refine ⟨Batch.getElem?_run_perform page before command after s, fun success => ?_⟩
    obtain ⟨b, produced⟩ := Batch.exists_produced success
    exact ⟨b, produced, produced.parse_replay⟩
  · exact Interactive.run_eq_batch page console history s t
  · intro history block
    refine ⟨rfl, fun step kept => ?_⟩
    obtain ⟨b, parsed, statement⟩ := TestSource.exists_statement kept
    refine ⟨⟨b, parsed, statement⟩, fun command e => ?_⟩
    rw [statement]
    exact b.statement_ne_comment step.record.locator command e

/-- A page that has nothing but a button, which is only found by its text. -/
def renamedPage (text : String) : Page Unit
  | .click selector, s =>
    (if selector = (Healing.Replacement.text text.toList).selector then .ok ()
      else .error ⟨"No such element", []⟩, s)
  | .queryAll _, s => (.ok [{ tag := "button", text }], s)
  | _, s => (.error ⟨"No such element", []⟩, s)

/-- A click on a button with another selector, whose text has a colon and double quotes in it. -/
theorem recorded_replays_renamed :
    let page := renamedPage "Save: \"all\""
    let ran := (Batch.execute "click:#save").run page ()
    ran.1.result.isSuccess = true ∧ ran.1.healed = some "click:text=\"Save: \\\"all\\\"\"" ∧
      ∃ b, Produced page () "click:#save" ran.1 ran.2 b ∧ Command.parse ran.1.replay = .ok b := by
  intro page ran
  have healed : ran.1.healed = some "click:text=\"Save: \\\"all\\\"\"" := by decide +kernel
  have success : ran.1.result.isSuccess = true := by decide +kernel
  exact ⟨success, healed, ((@recorded_replays Unit Unit page ()).1 [] "click:#save" []).2 success⟩

end PageWalk
