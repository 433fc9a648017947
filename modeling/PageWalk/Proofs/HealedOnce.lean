import PageWalk.Proofs.Attempts
import PageWalk.Proofs.CommandCalls
import PageWalk.Proofs.FailStop

/-!
# Healing happens once

A click or a fill is tried once, and once more where the first try failed and a replacement for its
element was found. `Handles` says in which ways a command can end, and which calls lead there; whatever
the page answers to them, a command ends in one of these ways.
-/

namespace PageWalk

set_option autoImplicit false

open Program (Does)

variable {σ : Type}

/-- What a click or a fill does to the element that it is aimed at, and what it waits for then. -/
inductive Action.Acts : Action → String → PageCall → List PageCall → Prop where
  | click (selector : String) :
    Acts (.click selector) selector (.click selector) [.quiet settleTime]
  | fill (selector value : String) :
    Acts (.fill selector value) selector (.fill selector value) []

section Ways

variable (page : Page σ)

/-- One try of a click or a fill: a look at its element, and the act, which alone decides. -/
inductive Tries (a : Action) (s : σ) : List PageCall → Result → σ → Prop where
  | worked {selector : String} {act : PageCall} {waiting : List PageCall} {reply : act.Reply}
      (acts : a.Acts selector act waiting)
      (stood : (page act (page (.query selector) s).2).1 = .ok reply) :
    Tries a s (.query selector :: act :: waiting)
      (.success ((locatorOf selector).run page s).1)
      (Page.after page (.query selector :: act :: waiting) s)
  | failed {selector : String} {act : PageCall} {waiting : List PageCall} {fault : Fault}
      (acts : a.Acts selector act waiting)
      (fell : (page act (page (.query selector) s).2).1 = .error fault) :
    Tries a s [.query selector, act] (.failure fault.text)
      (Page.after page [.query selector, act] s)

/-- Lists the elements that match one of several selectors. -/
def PageCall.isList : PageCall → Bool
  | queryAll _ => true
  | _ => false

/-- The call by which candidates for a replacement are listed. -/
def candidatesCall : PageCall :=
  .queryAll Healing.candidateSelectors

/-- What comes of looking for a replacement of a selector. -/
inductive Searches (selector : String) (s : σ) : List PageCall → Option String → σ → Prop where
  | unnamed (wordless : Healing.keyword? selector = none) : Searches selector s [] none s
  | unlisted {keyword : String} {fault : Fault} (word : Healing.keyword? selector = some keyword)
      (failed : (page candidatesCall s).1 = .error fault) :
    Searches selector s [candidatesCall] none (page candidatesCall s).2
  | listed {keyword : String} {candidates : List Element}
      (word : Healing.keyword? selector = some keyword)
      (answered : (page candidatesCall s).1 = .ok candidates) :
    Searches selector s [candidatesCall]
      ((Healing.replacement? candidates keyword).map Healing.Replacement.selector)
      (page candidatesCall s).2

/-- A click or a fill fails with an error, and is tried again on what was found in its place. -/
inductive TriesAgain (a : Action) (s : σ) (error : String) (b : Action) :
    List PageCall → Result → σ → Prop where
  | intro {selector proposed : String} {calls looking more : List PageCall} {result : Result}
      {s₁ s₂ s₃ : σ} (first : Tries page a s calls (.failure error) s₁)
      (aim : a.aim? = some selector) (search : Searches page selector s₁ looking (some proposed) s₂)
      (aimed : a.aimedAt? proposed = some b) (second : Tries page b s₂ more result s₃) :
    TriesAgain a s error b (calls ++ (looking ++ more)) result s₃

/-- The ways in which a command can end. -/
inductive Handles (command : String) (s : σ) : List PageCall → Outcome → σ → Prop where
  | unread {e : CommandError} (parsed : Command.parse command = .error e) :
    Handles command s [] { command, result := .failure e.message } s
  /-- What is neither a click nor a fill is carried out as it stands. -/
  | plain {a : Action} {calls : List PageCall} {result : Result} {s' : σ}
      (parsed : Command.parse command = .ok a) (other : a.isHealable = false)
      (done : Does page a.execute s calls result s') (unlisted : ∀ q, .queryAll q ∉ calls) :
    Handles command s calls { command, result } s'
  | worked {a : Action} {calls : List PageCall} {locator : Option String} {s' : σ}
      (parsed : Command.parse command = .ok a) (first : Tries page a s calls (.success locator) s') :
    Handles command s calls { command, result := .success locator } s'
  | unhealed {a : Action} {selector error : String} {calls looking : List PageCall} {s₁ s' : σ}
      (parsed : Command.parse command = .ok a)
      (first : Tries page a s calls (.failure error) s₁) (aim : a.aim? = some selector)
      (search : Searches page selector s₁ looking none s') :
    Handles command s (calls ++ looking) { command, result := .failure error } s'
  | healed {a b : Action} {error : String} {calls : List PageCall} {locator : Option String}
      {s' : σ} (parsed : Command.parse command = .ok a)
      (again : TriesAgain page a s error b calls (.success locator) s') :
    Handles command s calls
      { command, result := .success locator, healed := some b.command } s'
  | failedTwice {a b : Action} {error second : String} {calls : List PageCall} {s' : σ}
      (parsed : Command.parse command = .ok a)
      (again : TriesAgain page a s error b calls (.failure second) s') :
    Handles command s calls
      { command
        result := .failure s!"{error}; healed command {b.command} also failed: {second}" } s'

end Ways

variable {page : Page σ} {a b : Action} {s s' s₁ s₂ : σ} {calls looking more : List PageCall}
  {result : Result} {selector : String}

theorem does_make (page : Page σ) (call : PageCall) (s : σ) :
    Does page call.make s [call] (page call s).1 (page call s).2 :=
  ⟨rfl, rfl⟩

section Trying

theorem does_locatorOf (page : Page σ) (selector : String) (s : σ) :
    Does page (locatorOf selector) s [.query selector] ((locatorOf selector).run page s).1
      (page (.query selector) s).2 := by
  have found : ∃ locator, Does page (locatorOf selector) s [.query selector] locator
      (page (.query selector) s).2 := by
    have looked := does_make page (.query selector) s
    rcases answer : (page (.query selector) s).1 with fault | _ | element
    all_goals
      rw [answer] at looked
      exact ⟨_, looked.bind (Program.does_done page _ _)⟩
  obtain ⟨locator, does⟩ := found
  rw [does.gives]
  exact does

theorem Tries.does (h : Tries page a s calls result s') :
    Does page a.execute s calls result s' := by
  cases h with
  | @worked selector act waiting reply acts stood =>
    have acted : Does page act.make (page (.query selector) s).2 [act] (.ok reply) _ :=
      ⟨rfl, Prod.ext stood rfl⟩
    have looked := does_locatorOf page selector s
    cases acts with
    | click =>
      have waited := does_make page (.quiet settleTime)
        (page (.click selector) (page (.query selector) s).2).2
      exact looked.bind (acted.bind (waited.bind (Program.does_done page _ _)))
    | fill =>
      exact looked.bind (acted.bind (Program.does_done page _ _))
  | @failed selector act waiting fault acts fell =>
    have acted : Does page act.make (page (.query selector) s).2 [act] (.error fault) _ :=
      ⟨rfl, Prod.ext fell rfl⟩
    have looked := does_locatorOf page selector s
    cases acts <;> exact looked.bind (acted.bind (Program.does_done page _ _))

theorem Action.exists_acts (h : a.aim? = some selector) :
    ∃ act waiting, a.Acts selector act waiting := by
  cases a with
  | click => cases h; exact ⟨_, _, .click selector⟩
  | fill => cases h; exact ⟨_, _, .fill selector _⟩
  | wait | goto | press | scroll | expect | loop | when => cases h

theorem exists_tries (page : Page σ) (h : a.aim? = some selector) (s : σ) :
    ∃ calls result s', Tries page a s calls result s' := by
  obtain ⟨act, waiting, acts⟩ := Action.exists_acts h
  cases decides : (page act (page (.query selector) s).2).1 with
  | ok reply => exact ⟨_, _, _, .worked acts decides⟩
  | error fault => exact ⟨_, _, _, .failed acts decides⟩

end Trying

section Searching

theorem exists_searches (page : Page σ) (selector : String) (s : σ) :
    ∃ calls proposed s', Searches page selector s calls proposed s' := by
  cases word : Healing.keyword? selector with
  | none => exact ⟨_, _, _, .unnamed word⟩
  | some keyword =>
    cases listed : (page candidatesCall s).1 with
    | error fault => exact ⟨_, _, _, .unlisted word listed⟩
    | ok candidates => exact ⟨_, _, _, .listed word listed⟩

variable {proposed : Option String}

theorem Searches.does (h : Searches page selector s calls proposed s') :
    Does page (Healing.heal selector) s calls proposed s' := by
  have listed := does_make page candidatesCall s
  unfold Healing.heal
  cases h with
  | unnamed wordless =>
    rw [wordless]
    exact Program.does_done page none s
  | unlisted word failed =>
    rw [word]
    rw [failed] at listed
    exact listed.bind (Program.does_done page _ _)
  | listed word answered =>
    rw [word]
    rw [answered] at listed
    exact listed.bind (Program.does_done page _ _)

end Searching

section Retrying

theorem does_retry_of_nothing (aim : a.aim? = some selector)
    (search : Searches page selector s calls none s') : Does page (Batch.retry a) s calls none s' := by
  rw [Batch.retry_eq_retryUnread, Batch.retryUnread, aim, ← List.append_nil calls]
  exact search.does.bind (Program.does_done page none s')

theorem does_retry_of_proposed {proposed : String} (aim : a.aim? = some selector)
    (search : Searches page selector s looking (some proposed) s₁)
    (aimed : a.aimedAt? proposed = some b) (second : Tries page b s₁ more result s') :
    Does page (Batch.retry a) s (looking ++ more) (some (b.command, result)) s' := by
  rw [Batch.retry_eq_retryUnread, Batch.retryUnread, aim]
  refine search.does.bind ?_
  simp only [aimed]
  rw [← List.append_nil more]
  exact second.does.bind (Program.does_done page _ s')

/-- What is reported of a command whose first try failed. -/
def reportOf (command error : String) : Option (String × Result) → Outcome
  | none => { command, result := .failure error }
  | some (healed, .success locator) => { command, result := .success locator, healed := some healed }
  | some (healed, .failure second) =>
    { command, result := .failure (Batch.bothFailed error healed second) }

theorem does_attempt_of_failure {error : String} {retried : Option (String × Result)}
    (first : Does page a.execute s calls (.failure error) s₁)
    (retry : Does page (Batch.retry a) s₁ more retried s') (command : String) :
    Does page (Batch.attempt command a) s (calls ++ more) (reportOf command error retried) s' := by
  rw [← List.append_nil more]
  refine first.bind (retry.bind ?_)
  rcases retried with _ | ⟨healed, _ | _⟩ <;> exact Program.does_done page _ s'

theorem does_attempt_of_success {locator : Option String}
    (first : Does page a.execute s calls (.success locator) s') (command : String) :
    Does page (Batch.attempt command a) s calls { command, result := .success locator } s' := by
  rw [← List.append_nil calls]
  exact first.bind (Program.does_done page _ s')

theorem TriesAgain.does {error : String} (h : TriesAgain page a s error b calls result s')
    (command : String) :
    Does page (Batch.attempt command a) s calls
      (reportOf command error (some (b.command, result))) s' := by
  obtain ⟨first, aim, search, aimed, second⟩ := h
  exact does_attempt_of_failure first.does (does_retry_of_proposed aim search aimed second) command

theorem does_attempt_of_other (other : a.isHealable = false)
    (done : Does page a.execute s calls result s') (command : String) :
    Does page (Batch.attempt command a) s calls { command, result } s' := by
  have aimless : a.aim? = none := by
    rw [Action.isHealable] at other
    exact Option.not_isSome_iff_eq_none.mp (Bool.eq_false_iff.mp other)
  have idle : Does page (Batch.retry a) s' [] none s' := by
    rw [Batch.retry, aimless]
    exact Program.does_done page none s'
  cases result with
  | success locator => exact does_attempt_of_success done command
  | failure error =>
    rw [← List.append_nil calls]
    exact does_attempt_of_failure done idle command

end Retrying

section Commands

variable {command : String} {outcome : Outcome}

theorem does_execute (parsed : Command.parse command = .ok a)
    (attempts : Does page (Batch.attempt command a) s calls outcome s') :
    Does page (Batch.execute command) s calls outcome s' := by
  rw [Batch.execute, parsed]
  exact attempts

theorem Handles.does (h : Handles page command s calls outcome s') :
    Does page (Batch.execute command) s calls outcome s' := by
  cases h with
  | unread parsed =>
    rw [Batch.execute, parsed]
    exact Program.does_done page _ s
  | plain parsed other done unlisted =>
    exact does_execute parsed (does_attempt_of_other other done command)
  | worked parsed first =>
    exact does_execute parsed (does_attempt_of_success first.does command)
  | unhealed parsed first aim search =>
    exact does_execute parsed
      (does_attempt_of_failure first.does (does_retry_of_nothing aim search) command)
  | healed parsed again => exact does_execute parsed (again.does command)
  | failedTwice parsed again => exact does_execute parsed (again.does command)

theorem exists_handles (page : Page σ) (command : String) (s : σ) :
    ∃ calls outcome s', Handles page command s calls outcome s' := by
  cases parsed : Command.parse command with
  | error e => exact ⟨_, _, _, .unread parsed⟩
  | ok a =>
    cases aim : a.aim? with
    | none =>
      have other : a.isHealable = false := by rw [Action.isHealable, aim]; rfl
      refine ⟨_, _, _, .plain parsed other (Program.does_run page a.execute s) fun q listed => ?_⟩
      have direct := (direct_execute a).forall_mem_asked page s _ listed
      cases direct
    | some selector =>
      obtain ⟨calls, _ | error, s₁, first⟩ := exists_tries page aim s
      · exact ⟨_, _, _, .worked parsed first⟩
      · obtain ⟨looking, _ | proposed, s₂, search⟩ := exists_searches page selector s₁
        · exact ⟨_, _, _, .unhealed parsed first aim search⟩
        · have healable : a.isHealable = true := by rw [Action.isHealable, aim]; rfl
          obtain ⟨b, aimed⟩ := Action.exists_aimedAt healable proposed
          have again := (Action.eq_of_aimedAt aimed).2.1
          obtain ⟨more, _ | second, s₃, tried⟩ := exists_tries page again s₂
          · exact ⟨_, _, _, .healed parsed ⟨first, aim, search, aimed, tried⟩⟩
          · exact ⟨_, _, _, .failedTwice parsed ⟨first, aim, search, aimed, tried⟩⟩

theorem Tries.countP_isList (h : Tries page a s calls result s') :
    calls.countP PageCall.isList = 0 := by
  cases h with
  | worked acts stood => cases acts <;> rfl
  | failed acts fell => cases acts <;> rfl

theorem Searches.countP_isList {proposed : Option String}
    (h : Searches page selector s calls proposed s') : calls.countP PageCall.isList ≤ 1 := by
  cases h with
  | unnamed | unlisted | listed => decide

theorem TriesAgain.countP_isList {error : String} (h : TriesAgain page a s error b calls result s') :
    calls.countP PageCall.isList ≤ 1 := by
  obtain ⟨first, aim, search, aimed, second⟩ := h
  rw [List.countP_append, List.countP_append, first.countP_isList, second.countP_isList]
  simpa using search.countP_isList

theorem Handles.countP_isList (h : Handles page command s calls outcome s') :
    calls.countP PageCall.isList ≤ 1 := by
  cases h with
  | unread => exact Nat.zero_le 1
  | plain parsed other done unlisted =>
    have none : calls.countP PageCall.isList = 0 := by
      rw [List.countP_eq_zero]
      intro call there
      cases call with
      | queryAll q => exact absurd there (unlisted q)
      | _ => exact Bool.false_ne_true
    omega
  | worked parsed first => exact first.countP_isList.trans_le (Nat.zero_le 1)
  | unhealed parsed first aim search =>
    rw [List.countP_append, first.countP_isList, Nat.zero_add]
    exact search.countP_isList
  | healed parsed again => exact again.countP_isList
  | failedTwice parsed again => exact again.countP_isList

theorem Handles.command_eq (h : Handles page command s calls outcome s') :
    outcome.command = command := by
  cases h <;> rfl

theorem Handles.exists_triesAgain (h : Handles page command s calls outcome s')
    (healed : outcome.healed.isSome = true) :
    ∃ a b error calls locator s', Command.parse command = .ok a ∧
      TriesAgain page a s error b calls (.success locator) s' := by
  cases h with
  | healed parsed again => exact ⟨_, _, _, _, _, _, parsed, again⟩
  | unread | plain | worked | unhealed | failedTwice => cases healed

/-- A command ends in one of the ways of `Handles`, with its outcome told under the name that was submitted
and the candidates listed once at most. -/
theorem execute_heals_once (page : Page σ) (command : String) (s : σ) :
    let execute := Batch.execute command
    let outcome := (execute.run page s).1
    let calls := execute.asked page s
    Handles page command s calls outcome (execute.run page s).2 ∧
      outcome.command = command ∧
      calls.countP PageCall.isList ≤ 1 ∧
      (outcome.healed.isSome = true ↔
        ∃ a b error calls locator s', Command.parse command = .ok a ∧
          TriesAgain page a s error b calls (.success locator) s') := by
  intro execute outcome calls
  obtain ⟨calls', outcome', s', (handles : Handles page command s calls' outcome' s')⟩ :=
    exists_handles page command s
  obtain ⟨asks, gives⟩ := handles.does
  obtain rfl : calls = calls' := asks
  obtain ⟨rfl, left⟩ : outcome = outcome' ∧ (execute.run page s).2 = s' := Prod.mk.inj gives
  refine ⟨left ▸ handles, handles.command_eq, handles.countP_isList, handles.exists_triesAgain, ?_⟩
  rintro ⟨a, b, error, calls, locator, s', parsed, again⟩
  show ((Batch.execute command).run page s).1.healed.isSome = true
  rw [(Handles.healed parsed again).does.gives]
  rfl

end Commands

end PageWalk
