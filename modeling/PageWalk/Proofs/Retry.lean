import PageWalk.Run.Batch
import PageWalk.Proofs.Program
import PageWalk.Proofs.RoundTrip

/-!
# Trying again on a healed selector

Healing writes texts and attributes of the page into a selector, the selector goes into a command,
and the command is read again. Nothing is lost on the way: the command reads back as the action on
exactly that selector, so a retry never fails for being unreadable.
-/

namespace PageWalk

set_option autoImplicit false

/-- What a fill types. -/
def Action.typed? : Action → Option String
  | fill _ value => some value
  | _ => none

section Aiming

variable {a b : Action} {selector : String}

theorem Action.exists_aimedAt (h : a.isHealable = true) (selector : String) :
    ∃ b, a.aimedAt? selector = some b := by
  cases a with
  | click | fill => exact ⟨_, rfl⟩
  | wait | goto | press | scroll | expect | loop | when => cases h

theorem Action.eq_of_aimedAt (h : a.aimedAt? selector = some b) :
    b.kind = a.kind ∧ b.aim? = some selector ∧ b.typed? = a.typed? := by
  cases a with
  | click | fill =>
    obtain rfl := Option.some.inj h
    exact ⟨rfl, rfl, rfl⟩
  | wait | goto | press | scroll | expect | loop | when => cases h

theorem Command.parse_of_aimedAt (h : a.aimedAt? selector = some b) (named : selector ≠ "") :
    Command.parse b.command = .ok b := by
  cases a with
  | click | fill =>
    obtain rfl := Option.some.inj h
    exact Command.parse_command_of_expectsText named trivial
  | wait | goto | press | scroll | expect | loop | when => cases h

end Aiming

namespace Healing

theorem Replacement.selector_ne_empty (r : Replacement) : r.selector ≠ "" := by
  cases r with
  | text t => simp [selector, String.append_eq_empty_iff]
  | named tag name value => simp [selector]

theorem ne_empty_of_replacement {candidates : List Element} {keyword healed : String}
    (h : (replacement? candidates keyword).map Replacement.selector = some healed) :
    healed ≠ "" := by
  obtain ⟨r, -, rfl⟩ := Option.map_eq_some_iff.mp h
  exact r.selector_ne_empty

/-- Whatever the page answers, healing never proposes the empty selector. -/
theorem heal_always (selector : String) :
    (heal selector).Always fun healed? => ∀ healed, healed? = some healed → healed ≠ "" := by
  unfold heal
  split
  · intro healed none
    cases none
  · intro answer
    cases answer with
    | error fault =>
      intro healed none
      cases none
    | ok candidates =>
      intro healed found
      exact ne_empty_of_replacement found

end Healing

namespace Batch

/-- A retry that carries out the action it has aimed anew, without reading its command. -/
def retryUnread (action : Action) : PageProgram (Option (String × Result)) := do
  match action.aim? with
  | none => pure none
  | some selector =>
    match ← Healing.heal selector with
    | none => pure none
    | some healed =>
      match action.aimedAt? healed with
      | none => pure none
      | some aimed => do
        let result ← aimed.execute
        pure (some (aimed.command, result))

/-- On every page a retry carries out just what it has aimed anew. -/
theorem retry_eq_retryUnread (action : Action) : retry action = retryUnread action := by
  unfold retry retryUnread
  cases action.aim? with
  | none => rfl
  | some selector =>
    refine Program.bind_congr_of_always (Healing.heal_always selector) ?_
    intro healed? named
    cases healed? with
    | none => rfl
    | some healed =>
      dsimp only
      cases aimed : action.aimedAt? healed with
      | none => rfl
      | some again =>
        dsimp only
        rw [Command.parse_of_aimedAt aimed (named healed rfl)]

end Batch

/-- A click or a fill aimed at what healing proposes reads back as just that, so reading it never makes a
retry fail. -/
theorem parse_healed_command (action : Action) (healable : action.isHealable = true) :
    (∀ candidates keyword healed,
      (Healing.replacement? candidates keyword).map Healing.Replacement.selector = some healed →
      healed ≠ "" ∧ ∃ again, action.aimedAt? healed = some again ∧
        Command.parse again.command = .ok again ∧
        again.kind = action.kind ∧ again.aim? = some healed ∧ again.typed? = action.typed?) ∧
      Batch.retry action = Batch.retryUnread action := by
  refine ⟨?_, Batch.retry_eq_retryUnread action⟩
  intro candidates keyword healed found
  have named := Healing.ne_empty_of_replacement found
  obtain ⟨again, aimed⟩ := Action.exists_aimedAt healable healed
  exact ⟨named, again, aimed, Command.parse_of_aimedAt aimed named, Action.eq_of_aimedAt aimed⟩

/-- A text of the page with a colon, a quote and a backslash, and a value that looks quoted. -/
theorem parse_healed_command_hostile :
    let candidates : List Element := [{ tag := "a", text := " Go:\"b\\ " }]
    let healed := "text=\"Go:\\\"b\\\\\""
    (Healing.replacement? candidates "go").map Healing.Replacement.selector = some healed ∧
      Command.parse (Action.fill healed "\"v\"").command = .ok (.fill healed "\"v\"") := by
  intro candidates healed
  have found :
      (Healing.replacement? candidates "go").map Healing.Replacement.selector = some healed := by
    decide
  have reads := (parse_healed_command (.fill "#go" "\"v\"") rfl).1 candidates "go" healed found
  obtain ⟨-, again, aimed, parsed, -⟩ := reads
  obtain rfl := Option.some.inj aimed
  exact ⟨found, parsed⟩

end PageWalk
