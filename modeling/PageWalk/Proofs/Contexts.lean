import PageWalk.Failure

/-!
# Failures under contexts

What was being done can be put around a failure any number of times. A bad command and unmet
expectations are known by their cause, which no context touches; of any other failure only the outermost
message is looked at. Main statement: a context without telling words keeps the exit code just if the
cause is known or the message below it told nothing either.
-/

namespace PageWalk

set_option autoImplicit false

/-- What went wrong is known, whatever the messages say. -/
def Cause.IsKnown : Cause → Prop
  | command _ => True
  | unmet _ _ => True
  | fault _ => False

instance : (cause : Cause) → Decidable cause.IsKnown
  | .command _ | .unmet _ _ => .isTrue trivial
  | .fault _ => .isFalse id

namespace Failure

theorem cause_foldr_within (contexts : List String) (f : Failure) :
    (contexts.foldr within f).cause = f.cause := by
  induction contexts with
  | nil => rfl
  | cons context contexts ih => exact ih

end Failure

namespace Verdict

/-- All words that a message is searched for. -/
def words : List String :=
  unreachableWords ++ timeoutWords

variable {f g : Failure}

theorem of_eq_command {e : CommandError} (h : f.cause = .command e) : of f = command e := by
  rw [of, h]

theorem exitCode_of_known (known : f.cause.IsKnown) (same : g.cause = f.cause) :
    (of g).exitCode = (of f).exitCode := by
  unfold of
  rw [same]
  cases cause : f.cause with
  | command | unmet => rfl
  | fault =>
    rw [cause] at known
    exact known.elim

theorem exitCode_of_not_known (h : ¬ f.cause.IsKnown) :
    (of f).exitCode =
      if mentions unreachableWords f.message then 4
      else if mentions timeoutWords f.message then 5
      else 1 := by
  unfold of
  cases cause : f.cause with
  | command | unmet =>
    rw [cause] at h
    exact absurd trivial h
  | fault =>
    dsimp only
    split
    · rfl
    · split <;> rfl

theorem mentions_words (message : String) :
    mentions words message = (mentions unreachableWords message || mentions timeoutWords message) :=
  List.any_append

/-- A failure of unknown cause ends in the general exit code just if its message tells nothing. -/
theorem exitCode_eq_one_iff (h : ¬ f.cause.IsKnown) :
    (of f).exitCode = 1 ↔ mentions words f.message = false := by
  rw [exitCode_of_not_known h, mentions_words]
  cases mentions unreachableWords f.message <;> cases mentions timeoutWords f.message <;> decide

theorem exitCode_of_silent (h : ¬ f.cause.IsKnown) {context : String}
    (silent : mentions words context = false) : (of (f.within context)).exitCode = 1 := by
  have hidden : ¬ (f.within context).cause.IsKnown := h
  exact (exitCode_eq_one_iff hidden).mpr silent

end Verdict

/-- A context keeps the exit code of what is known by its cause. Of anything else it hides the message, and
the code becomes 1. -/
theorem exitCode_within {context : String} (silent : Verdict.mentions Verdict.words context = false) :
    (∀ f : Failure, (Verdict.of (f.within context)).exitCode = (Verdict.of f).exitCode ↔
        f.cause.IsKnown ∨ Verdict.mentions Verdict.words f.message = false) ∧
      (∀ f : Failure, ¬ f.cause.IsKnown → (Verdict.of (f.within context)).exitCode = 1) ∧
      ∀ fault : Fault, (Verdict.of (.ofFault (fault.within context))).exitCode = 1 := by
  refine ⟨fun f => ?_, fun f unknown => Verdict.exitCode_of_silent unknown silent, fun fault => ?_⟩
  · by_cases known : f.cause.IsKnown
    · exact iff_of_true (Verdict.exitCode_of_known known rfl) (.inl known)
    · rw [Verdict.exitCode_of_silent known silent, eq_comm, Verdict.exitCode_eq_one_iff known]
      exact ⟨.inr, fun h => h.resolve_left known⟩
  · have unknown : ¬ (Failure.ofFault (fault.within context)).cause.IsKnown := id
    exact (Verdict.exitCode_eq_one_iff unknown).mpr silent

/-- Unmet expectations, reported by something that tells of a timeout. -/
theorem exitCode_within_unmet :
    let f : Failure := ⟨["the last timeout was ignored"], .unmet 2 5⟩
    let context := "Failed to check the page"
    Verdict.mentions Verdict.words context = false ∧
      (Verdict.of (f.within context)).exitCode = (Verdict.of f).exitCode ∧ (Verdict.of f).exitCode = 6 := by
  intro f context
  have silent : Verdict.mentions Verdict.words context = false := by decide
  exact ⟨silent, ((exitCode_within silent).1 f).mpr (.inl trivial), rfl⟩

/-- A timeout of the navigation is none any more when it is told where the navigation went. -/
theorem exitCode_within_timeout :
    let f := Failure.ofMessage "navigation timed out"
    let context := "Failed to navigate to http://h.test/"
    Verdict.mentions Verdict.words context = false ∧ (Verdict.of f).exitCode = 5 ∧
      (Verdict.of (f.within context)).exitCode = 1 := by
  decide

end PageWalk
