import PageWalk.Proofs.BrowserSteps
import PageWalk.Proofs.Interaction

/-!
# The interactive command under the name of a session

`Converses` says that each step of the command succeeds, with the outcomes of what was entered and the
files that it leaves. The command succeeds just then, and otherwise leaves every file as it was.
-/

namespace PageWalk

set_option autoImplicit false

namespace Browse

open Machine (andThen world wire)

variable {τ ω : Type} {console : Responder consoleSignature τ} {driver : Responder wireSignature ω}

section Conversations

variable {settings : Settings} {store : SessionStore} {name : String} {url : Option String}
  {choice : BrowserChoice} {tree : FileTree} {c : τ} {w : ω} {m' : (FileTree × τ) × ω} {fault : Fault}

/-- What the interactive loop comes to on the page of a browser. -/
def Talks (console : Responder consoleSignature τ) (driver : Responder wireSignature ω)
    (history : History) (w : ω) (c : τ) (history' : History) (w' : ω) (c' : τ) : Prop :=
  (Interactive.run history).run ((Browser.page driver).beside console) (w, c) =
    ((.ok (), history'), (w', c'))

/-- The outcomes of the commands that are entered in the interactive loop. -/
def outcomesOf (console : Responder consoleSignature τ) (driver : Responder wireSignature ω)
    (history : History) (w : ω) (c : τ) : List Outcome :=
  let heard : List Interactive.Exchange :=
    (Interactive.run history).transcript ((Browser.page driver).beside console) (w, c)
  ((Batch.perform (heard.filterMap Interactive.Exchange.command?)).run (Browser.page driver) w).1

/-- The steps of the interactive command under the name of a session, each of which succeeds. -/
inductive Converses (console : Responder consoleSignature τ) (driver : Responder wireSignature ω)
    (settings : Settings) (store : SessionStore) (name : String) (url : Option String)
    (choice : BrowserChoice) (tree : FileTree) (c : τ) (w : ω) : List Outcome → FileTree → Prop where
  | intro {plan : Browser.Plan} {w₀ w₁ w₂ w₃ : ω} {c' : τ} {history : History} {tree' : FileTree}
      (plans : Browse.plan settings choice = .ok plan)
      (starts : (Browser.start plan).run driver w = (.ok (), w₀))
      (visits : Visits driver (SessionStore.sessionAt tree (store.resolve name)) url w₀ w₁)
      (talks : Talks console driver (SessionStore.sessionAt tree (store.resolve name)).history w₁ c
        history w₂ c')
      (saves : Saves driver store name history tree w₂ tree' w₃) :
      Converses console driver settings store name url choice tree c w
        (outcomesOf console driver (SessionStore.sessionAt tree (store.resolve name)).history w₁ c) tree'

theorem run_interaction (history : History) :
    let talked := (Interactive.run history).run ((Browser.page driver).beside console) (w, c)
    (interaction history).run (world console driver) ((tree, c), w) =
      ((talked.1.1.mapError fun e => ⟨e.text, []⟩).map fun _ => talked.1.2,
        ((tree, talked.2.2), talked.2.1)) := by
  intro talked
  have split : (interaction history).run (world console driver) ((tree, c), w) = _ :=
    Program.run_bind (world console driver) (talk (Interactive.run history)) _ ((tree, c), w)
  have said : (talk (Interactive.run history)).run (world console driver) ((tree, c), w) = _ :=
    run_talk console driver (Interactive.run history) tree c w
  rw [split, said]
  rfl

theorem run_interaction_iff {history history' : History} :
    (interaction history).run (world console driver) ((tree, c), w) = (.ok history', m') ↔
      ∃ w' c', Talks console driver history w c history' w' c' ∧ m' = ((tree, c'), w') := by
  have ran : (interaction history).run (world console driver) ((tree, c), w) = _ :=
    run_interaction history
  rw [ran]
  unfold Talks
  rcases (Interactive.run history).run ((Browser.page driver).beside console) (w, c) with
    ⟨⟨_ | _, last⟩, w', c'⟩
  · constructor
    · intro h
      cases h
    · rintro ⟨w₁, c₁, talks, -⟩
      cases talks
  · constructor
    · intro h
      cases h
      exact ⟨w', c', rfl, rfl⟩
    · rintro ⟨w₁, c₁, talks, rfl⟩
      cases talks
      rfl

/-- What follows in the interactive command once the session is loaded. -/
def interactedFrom (store : SessionStore) (url : Option String) (name : String) (session : Session) :
    MachineProgram (Except Fault Unit) :=
  andThen (visit session true url) fun _ =>
  andThen (interaction session.history) fun history =>
  andThen (persist store name history) fun _ => do
    tellSaved (some name)
    pure (.ok ())

theorem run_interacted : (interacted store url (some name)).run (world console driver) ((tree, c), w) =
    (interactedFrom store url name (SessionStore.sessionAt tree (store.resolve name))).run
      (world console driver) ((tree, c), w) := by
  have split : (interacted store url (some name)).run (world console driver) ((tree, c), w) = _ :=
    Program.run_bind (world console driver) (Machine.files (store.load name)) _ ((tree, c), w)
  rw [split, Machine.run_files, SessionStore.run_load]
  rfl

theorem run_interacted_of_steps {w₁ w₂ w₃ : ω} {history : History} {c' : τ} {tree' : FileTree}
    (visits : Visits driver (SessionStore.sessionAt tree (store.resolve name)) url w w₁)
    (talks : Talks console driver (SessionStore.sessionAt tree (store.resolve name)).history w₁ c
      history w₂ c')
    (saves : Saves driver store name history tree w₂ tree' w₃) :
    ∃ last, (interacted store url (some name)).run (world console driver) ((tree, c), w) =
      (.ok (), ((tree', last), w₃)) := by
  rw [run_interacted]
  refine ⟨(console (.write (s!"Session '{name}' saved" ++ "\n")) c').2, ?_⟩
  refine run_andThen_iff.mpr ⟨(), _, run_visit_iff.mpr ⟨w₁, visits, rfl⟩, ?_⟩
  refine run_andThen_iff.mpr ⟨history, _, run_interaction_iff.mpr ⟨w₂, c', talks, rfl⟩, ?_⟩
  refine run_andThen_iff.mpr ⟨(), _, run_persist_iff.mpr ⟨tree', w₃, saves, rfl⟩, ?_⟩
  exact run_tell _ _

theorem steps_of_run_interacted
    (h : (interacted store url (some name)).run (world console driver) ((tree, c), w) = (.ok (), m')) :
    ∃ w₁ history w₂ c' tree' w₃,
      Visits driver (SessionStore.sessionAt tree (store.resolve name)) url w w₁ ∧
      Talks console driver (SessionStore.sessionAt tree (store.resolve name)).history w₁ c
        history w₂ c' ∧
      Saves driver store name history tree w₂ tree' w₃ ∧ m'.1.1 = tree' := by
  rw [run_interacted] at h
  obtain ⟨_, t, first, h⟩ := run_andThen_iff.mp h
  obtain ⟨w₁, visits, rfl⟩ := run_visit_iff.mp first
  obtain ⟨history, t, first, h⟩ := run_andThen_iff.mp h
  obtain ⟨w₂, c', talks, rfl⟩ := run_interaction_iff.mp first
  obtain ⟨_, t, first, h⟩ := run_andThen_iff.mp h
  obtain ⟨tree', w₃, saves, rfl⟩ := run_persist_iff.mp first
  have told := (run_tell _ _).symm.trans h
  cases told
  exact ⟨w₁, history, w₂, c', tree', w₃, visits, talks, saves, rfl⟩

theorem run_interacted_error
    (h : (interacted store url (some name)).run (world console driver) ((tree, c), w) =
      (.error fault, m')) : tree.Extends m'.1.1 := by
  rw [run_interacted] at h
  rcases run_andThen_error h with first | ⟨_, t, first, h⟩
  · rw [run_visit_error first]
    exact .refl _
  obtain ⟨w₁, -, rfl⟩ := run_visit_iff.mp first
  rcases run_andThen_error h with first | ⟨history, t, first, h⟩
  · rw [run_interaction] at first
    obtain ⟨-, rfl⟩ := Prod.mk.inj first
    exact .refl _
  obtain ⟨w₂, c', -, rfl⟩ := run_interaction_iff.mp first
  rcases run_andThen_error h with first | ⟨_, t, first, h⟩
  · exact run_persist_error first
  · obtain ⟨tree', w₃, -, rfl⟩ := run_persist_iff.mp first
    have told := (run_tell _ _).symm.trans h
    cases told

theorem run_interact :
    (interact settings store url (some name) choice).run (world console driver) ((tree, c), w) =
      let ran := (andThen (pure (plan settings choice)) fun plan =>
        inBrowser plan (interacted store url (some name))).run (world console driver) ((tree, c), w)
      (ran.1.mapError Failure.ofFault, ran.2) :=
  Program.run_bind (world console driver) _ _ ((tree, c), w)

theorem run_interact_of_converses {outcomes : List Outcome} {saved : FileTree}
    (h : Converses console driver settings store name url choice tree c w outcomes saved) :
    ∃ m', (interact settings store url (some name) choice).run (world console driver) ((tree, c), w) =
      (.ok (), m') ∧ m'.1.1 = saved := by
  obtain @⟨plan, _, _, _, _, _, _, _, plans, starts, visits, talks, saves⟩ := h
  obtain ⟨last, body⟩ := run_interacted_of_steps visits talks saves
  have opens := run_inBrowser_iff.mpr ⟨_, _, _, starts, body, rfl⟩
  have whole : (andThen (pure (Browse.plan settings choice)) fun plan =>
      inBrowser plan (interacted store url (some name))).run (world console driver) ((tree, c), w) =
        (.ok (), _) := run_andThen_iff.mpr ⟨plan, _, run_pure_iff.mpr ⟨plans, rfl⟩, opens⟩
  rw [run_interact]
  dsimp only
  rw [whole]
  exact ⟨_, rfl, rfl⟩

theorem of_run_interact
    (h : (interact settings store url (some name) choice).run (world console driver) ((tree, c), w) =
      (.ok (), m')) :
    ∃ outcomes, Converses console driver settings store name url choice tree c w outcomes m'.1.1 := by
  rw [run_interact] at h
  obtain ⟨worked, same⟩ := Prod.mk.inj h
  rcases ran : (andThen (pure (plan settings choice)) fun plan =>
      inBrowser plan (interacted store url (some name))).run (world console driver)
        ((tree, c), w) with ⟨e | _, m₁⟩
  · rw [ran] at worked
    cases worked
  rw [ran] at same
  obtain rfl : m₁ = m' := same
  obtain ⟨plan, t, first, ran⟩ := run_andThen_iff.mp ran
  obtain ⟨plans, rfl⟩ := run_pure_iff.mp first
  obtain ⟨w₀, d', w', starts, body, rfl⟩ := run_inBrowser_iff.mp ran
  obtain ⟨w₁, history, w₂, c', tree', w₃, visits, talks, saves, rfl⟩ := steps_of_run_interacted body
  exact ⟨_, plans, starts, visits, talks, saves⟩

theorem run_interact_error {failure : Failure}
    (h : (interact settings store url (some name) choice).run (world console driver) ((tree, c), w) =
      (.error failure, m')) : tree.Extends m'.1.1 := by
  rw [run_interact] at h
  obtain ⟨failed, same⟩ := Prod.mk.inj h
  rcases ran : (andThen (pure (plan settings choice)) fun plan =>
      inBrowser plan (interacted store url (some name))).run (world console driver)
        ((tree, c), w) with ⟨e | _, m₁⟩
  · rw [ran] at same
    obtain rfl : m₁ = m' := same
    rcases run_andThen_error ran with first | ⟨plan, t, first, later⟩
    · obtain ⟨-, rfl⟩ := run_pure_iff.mp first
      exact .refl _
    · obtain ⟨-, rfl⟩ := run_pure_iff.mp first
      rcases run_inBrowser_error later with same | ⟨w₀, m₂, -, body, same⟩
      · rw [same]
        exact .refl _
      · rw [same]
        exact run_interacted_error body
  · rw [ran] at failed
    cases failed

theorem interact_of_not_converses (h : ∀ outcomes saved,
      ¬Converses console driver settings store name url choice tree c w outcomes saved) :
    let ran := (interact settings store url (some name) choice).run (world console driver)
      ((tree, c), w)
    (∃ failure, ran.1 = .error failure) ∧ ran.2.1.1.files = tree.files := by
  rcases came : (interact settings store url (some name) choice).run (world console driver)
    ((tree, c), w) with ⟨failure | _, m'⟩
  · exact ⟨⟨failure, rfl⟩, (run_interact_error came).files⟩
  · obtain ⟨outcomes, converses⟩ := of_run_interact came
    exact absurd converses (h outcomes m'.1.1)

end Conversations

end Browse

end PageWalk
