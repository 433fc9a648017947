import PageWalk.Proofs.Batch
import PageWalk.Proofs.Machine
import PageWalk.Report.Exploration

/-!
# Complete explorations

An exploration gives a report just when the page could be watched, summarized and searched for forms.
Commands and expectations that fail are told in the report, one outcome for each.
-/

namespace PageWalk

set_option autoImplicit false

variable {σ : Type} {page : Page σ}

/-- An outcome is that of the command that was submitted. -/
theorem Batch.execute_always (command : String) :
    (Batch.execute command).Always fun o => o.command = command := by
  unfold execute
  split
  · exact rfl
  · next action _ =>
    unfold attempt
    refine Program.Always.bind (P := fun _ => True) ?_ fun reply _ => ?_
    · exact Program.always_of_forall _ fun _ => trivial
    · cases reply with
      | success locator => exact rfl
      | failure error =>
        refine Program.Always.bind (P := fun _ => True) ?_ fun healed _ => ?_
        · exact Program.always_of_forall _ fun _ => trivial
        · rcases healed with _ | ⟨command, _ | _⟩
          · exact rfl
          · exact rfl
          · exact rfl

namespace Exploration

theorem run_andThen_iff {α β : Type} {step : PageProgram (Except Fault α)}
    {next : α → PageProgram (Except Fault β)} {s s' : σ} {b : β} :
    (andThen step next).run page s = (.ok b, s') ↔
      ∃ a t, step.run page s = (.ok a, t) ∧ (next a).run page t = (.ok b, s') :=
  Program.run_bind_eq_ok_iff fun _ => rfl

/-- The steps of an exploration, each of which succeeds. -/
inductive Reports (page : Page σ) (commands expectations : List String) (options : ExploreOptions)
    (s : σ) (r : Report) : σ → Prop where
  | intro {errors errors' : Option PageErrors} {s₁ s₂ s₃ s₄ s₅ s₆ : σ}
      (watched : (watch options.monitor).run page s = (.ok errors, s₁))
      (performed : (perform commands errors).run page s₁ = (.ok (r.actions, errors'), s₂))
      (checked : (Batch.checkAll expectations).run page s₂ = (r.checks, s₃))
      (summarized : Summary.take.run page s₃ = (.ok r.page, s₄))
      (analyzed : (forms options.forms).run page s₄ = (.ok r.forms, s₅))
      (noted : (note errors').run page s₅ = (.ok r.errors, s₆)) :
      Reports page commands expectations options s r s₆

theorem reports_iff {commands expectations : List String} {options : ExploreOptions} {s s' : σ}
    {r : Report} :
    Reports page commands expectations options s r s' ↔
      (run commands expectations options).run page s = (.ok r, s') := by
  unfold run
  constructor
  · rintro @⟨errors, errors', s₁, s₂, s₃, s₄, s₅, _, watched, performed, checked, summarized,
      analyzed, noted⟩
    refine run_andThen_iff.mpr ⟨errors, s₁, watched, run_andThen_iff.mpr ⟨_, s₂, performed, ?_⟩⟩
    simp only [bind, Program.run_bind, checked]
    refine run_andThen_iff.mpr ⟨r.page, s₄, summarized, run_andThen_iff.mpr ⟨r.forms, s₅, analyzed, ?_⟩⟩
    exact run_andThen_iff.mpr ⟨r.errors, s', noted, rfl⟩
  · intro h
    obtain ⟨errors, s₁, watched, h⟩ := run_andThen_iff.mp h
    obtain ⟨⟨actions, errors'⟩, s₂, performed, h⟩ := run_andThen_iff.mp h
    simp only [bind, Program.run_bind] at h
    obtain ⟨summary, s₄, summarized, h⟩ := run_andThen_iff.mp h
    obtain ⟨found, s₅, analyzed, h⟩ := run_andThen_iff.mp h
    obtain ⟨seen, s₆, noted, h⟩ := run_andThen_iff.mp h
    cases h
    exact ⟨watched, performed, rfl, summarized, analyzed, noted⟩

/-- There is one outcome for each command, in order. -/
theorem commands_of_perform {commands : List String} {errors errors' : Option PageErrors} {s s' : σ}
    {outcomes : List Outcome} (h : (perform commands errors).run page s = (.ok (outcomes, errors'), s')) :
    outcomes.map Outcome.command = commands := by
  induction commands generalizing errors s outcomes with
  | nil =>
    cases h
    rfl
  | cons command commands ih =>
    rw [perform] at h
    simp only [bind, Program.run_bind] at h
    obtain ⟨known, s₁, -, h⟩ := run_andThen_iff.mp h
    obtain ⟨⟨rest, last⟩, s₂, later, h⟩ := run_andThen_iff.mp h
    cases h
    have first := (Batch.execute_always command).run page s
    rw [List.map_cons, first, ih later]

end Exploration

end PageWalk
