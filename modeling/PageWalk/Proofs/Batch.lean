import PageWalk.Proofs.Retry

/-!
# The run of a batch

A batch runs its commands one after the other, each on the page that those before it have left.
`Produced` says by which action an outcome came about that is a success, and `exists_produced` that
there is always one, and that the command to replay reads as just that action.
-/

namespace PageWalk

set_option autoImplicit false

variable {σ : Type} (page : Page σ)

namespace Batch

theorem run_perform_cons (command : String) (rest : List String) (s : σ) :
    (perform (command :: rest)).run page s =
      (((execute command).run page s).1 ::
          ((perform rest).run page ((execute command).run page s).2).1,
        ((perform rest).run page ((execute command).run page s).2).2) := by
  rw [perform]
  simp only [bind, Program.run_bind]
  rfl

theorem asked_perform_cons (command : String) (rest : List String) (s : σ) :
    (perform (command :: rest)).asked page s =
      (execute command).asked page s ++
        (perform rest).asked page ((execute command).run page s).2 := by
  rw [perform]
  simp only [bind, Program.asked_bind]
  exact congrArg (_ ++ ·) (List.append_nil _)

theorem length_run_perform (commands : List String) (s : σ) :
    ((perform commands).run page s).1.length = commands.length := by
  induction commands generalizing s with
  | nil => rfl
  | cons command rest ih =>
    rw [run_perform_cons]
    exact congrArg (· + 1) (ih _)

theorem run_perform_append (before after : List String) (s : σ) :
    (perform (before ++ after)).run page s =
      (((perform before).run page s).1 ++
          ((perform after).run page ((perform before).run page s).2).1,
        ((perform after).run page ((perform before).run page s).2).2) := by
  induction before generalizing s with
  | nil => rfl
  | cons command rest ih =>
    rw [List.cons_append, run_perform_cons, run_perform_cons, ih]
    rfl

theorem exists_execute_of_mem {commands : List String} {s : σ} {o : Outcome}
    (h : o ∈ ((perform commands).run page s).1) :
    ∃ command s', ((execute command).run page s').1 = o := by
  induction commands generalizing s with
  | nil => cases h
  | cons command rest ih =>
    rw [run_perform_cons] at h
    rcases List.mem_cons.mp h with rfl | later
    · exact ⟨command, s, rfl⟩
    · exact ih later

/-- The outcome of a command in a batch is that of the command on what those before have left. -/
theorem getElem?_run_perform (before : List String) (command : String) (after : List String)
    (s : σ) :
    ((perform (before ++ command :: after)).run page s).1[before.length]? =
      some ((execute command).run page ((perform before).run page s).2).1 := by
  rw [run_perform_append, run_perform_cons, ← length_run_perform page before s]
  exact List.getElem?_append_right (Nat.le_refl _) |>.trans (by rw [Nat.sub_self]; rfl)

end Batch

/-- An outcome came about by the action that the command asks for, or by the same aimed at what healing
proposed. -/
inductive Produced (page : Page σ) (s : σ) (command : String) : Outcome → σ → Action → Prop where
  | submitted {a : Action} {locator : Option String} {s' : σ} :
    Command.parse command = .ok a → a.execute.run page s = (.success locator, s') →
    Produced page s command { command, result := .success locator } s' a
  | healed {a b : Action} {error selector proposed : String} {locator : Option String}
      {s₁ s₂ s' : σ} :
    Command.parse command = .ok a → a.execute.run page s = (.failure error, s₁) →
    a.aim? = some selector → (Healing.heal selector).run page s₁ = (some proposed, s₂) →
    a.aimedAt? proposed = some b → b.execute.run page s₂ = (.success locator, s') →
    Produced page s command
      { command, result := .success locator, healed := some b.command } s' b

namespace Batch

variable {page} {s : σ} {command : String}

/-- A retry that succeeds has carried out the action, aimed at what healing proposed. -/
theorem exists_aimed_of_retry {a : Action} {healed : String} {locator : Option String} {s' : σ}
    (h : (retry a).run page s = (some (healed, .success locator), s')) :
    ∃ selector proposed s₁ b, a.aim? = some selector ∧
      (Healing.heal selector).run page s = (some proposed, s₁) ∧ a.aimedAt? proposed = some b ∧
      healed = b.command ∧ b.execute.run page s₁ = (.success locator, s') := by
  rw [retry_eq_retryUnread] at h
  unfold retryUnread at h
  cases aim : a.aim? with
  | none =>
    rw [aim] at h
    cases h
  | some selector =>
    rw [aim] at h
    simp only [bind, Program.run_bind] at h
    rcases heals : (Healing.heal selector).run page s with ⟨_ | proposed, s₁⟩
    · rw [heals] at h
      cases h
    · rw [heals] at h
      cases aimed : a.aimedAt? proposed with
      | none =>
        simp only [aimed] at h
        cases h
      | some b =>
        simp only [aimed, Program.run_bind] at h
        obtain ⟨same, left⟩ := Prod.mk.inj h
        obtain ⟨rfl, result⟩ := Prod.mk.inj (Option.some.inj same)
        exact ⟨selector, proposed, s₁, b, rfl, heals, aimed, rfl, Prod.ext result left⟩

theorem exists_produced_of_attempt {a : Action} (parsed : Command.parse command = .ok a)
    (h : ((attempt command a).run page s).1.result.isSuccess = true) :
    ∃ b, Produced page s command ((attempt command a).run page s).1
      ((attempt command a).run page s).2 b := by
  unfold attempt at h ⊢
  simp only [bind, Program.run_bind] at h ⊢
  rcases first : a.execute.run page s with ⟨locator | error, s₁⟩
  · exact ⟨a, .submitted parsed first⟩
  · rw [first] at h
    simp only [Program.run_bind] at h ⊢
    rcases second : (retry a).run page s₁ with ⟨_ | ⟨healed, locator | again⟩, s₂⟩
    · rw [second] at h
      cases h
    · obtain ⟨selector, proposed, s₃, b, aim, heals, aimed, rfl, ran⟩ :=
        exists_aimed_of_retry second
      exact ⟨b, .healed parsed first aim heals aimed ran⟩
    · rw [second] at h
      cases h

end Batch

/-- The command to replay reads as the action by which the outcome came about. -/
theorem Produced.parse_replay {page : Page σ} {s s' : σ} {command : String} {o : Outcome}
    {b : Action} (h : Produced page s command o s' b) : Command.parse o.replay = .ok b := by
  cases h with
  | submitted parsed _ => exact parsed
  | @healed _ _ _ selector proposed _ s₁ _ _ _ _ _ heals aimed _ =>
    have named := (Healing.heal_always selector).run page s₁
    rw [heals] at named
    exact Command.parse_of_aimedAt aimed (named proposed rfl)

theorem Batch.exists_produced {page : Page σ} {s : σ} {command : String}
    (h : ((execute command).run page s).1.result.isSuccess = true) :
    ∃ b, Produced page s command ((execute command).run page s).1
      ((execute command).run page s).2 b := by
  unfold execute at h ⊢
  cases parsed : Command.parse command with
  | error e =>
    rw [parsed] at h
    cases h
  | ok a =>
    rw [parsed] at h
    exact exists_produced_of_attempt parsed h

end PageWalk
