import PageWalk.Program

/-!
# What a program can give

`Always` says that a property holds of the result of a program whatever is answered to its
questions. Two continuations that agree on such results make the same program. `transcript` is the
run of a program seen from the outside: its questions, each with its answer; `MayTalk` holds of all that
a program can have in any world.
-/

namespace PageWalk.Program

set_option autoImplicit false

section Results

variable {S : Signature} {α β : Type} {P : α → Prop}

/-- Whatever the answers are, the result has the property. -/
def Always (P : α → Prop) : Program S α → Prop
  | done a => P a
  | ask _ next => ∀ answer, (next answer).Always P

theorem Always.run {p : Program S α} {σ : Type} (h : p.Always P) (world : Responder S σ) (s : σ) :
    P (p.run world s).1 := by
  induction p generalizing s with
  | done a => exact h
  | ask q next ih => exact ih (world q s).1 (h (world q s).1) (world q s).2

theorem Always.bind {Q : β → Prop} {p : Program S α} {f : α → Program S β} (h : p.Always P)
    (later : ∀ a, P a → (f a).Always Q) : (p.bind f).Always Q := by
  induction p with
  | done a => exact later a h
  | ask q next ih => exact fun answer => ih answer (h answer)

theorem always_of_forall (p : Program S α) (h : ∀ a, P a) : p.Always P := by
  induction p with
  | done a => exact h a
  | ask q next ih => exact fun answer => ih answer

theorem bind_congr_of_always {p : Program S α} {f g : α → Program S β} (h : p.Always P)
    (same : ∀ a, P a → f a = g a) : p.bind f = p.bind g := by
  induction p with
  | done a => exact same a h
  | ask q next ih => exact congrArg (ask q) (funext fun answer => ih answer (h answer))

end Results

section Transcripts

variable {S T : Signature} {α β σ τ : Type}

/-- The questions of a run in order, each with its answer. -/
def transcript (world : Responder S σ) : Program S α → σ → List (Sigma S.Answer)
  | done _, _ => []
  | ask q next, s => ⟨q, (world q s).1⟩ :: (next (world q s).1).transcript world (world q s).2

theorem transcript_bind (world : Responder S σ) (p : Program S α) (f : α → Program S β) (s : σ) :
    (p.bind f).transcript world s =
      p.transcript world s ++ (f (p.run world s).1).transcript world (p.run world s).2 := by
  induction p generalizing s with
  | done a => rfl
  | ask q next ih => exact congrArg (_ :: ·) (ih (world q s).1 (world q s).2)

theorem map_fst_transcript (world : Responder S σ) (p : Program S α) (s : σ) :
    (p.transcript world s).map Sigma.fst = p.asked world s := by
  induction p generalizing s with
  | done a => rfl
  | ask q next ih => exact congrArg (q :: ·) (ih (world q s).1 (world q s).2)

/-- What holds of every answer of a world holds of those in a run. -/
theorem forall_mem_transcript {P : Sigma S.Answer → Prop} {world : Responder S σ}
    (h : ∀ q s, P ⟨q, (world q s).1⟩) (p : Program S α) (s : σ) : ∀ e ∈ p.transcript world s, P e := by
  induction p generalizing s with
  | done a => exact List.forall_mem_nil _
  | ask q next ih => exact List.forall_mem_cons.mpr ⟨h q s, ih (world q s).1 (world q s).2⟩

/-- Seen from the outside, a program over the first of two worlds asks nothing of the second. -/
theorem transcript_left (first : Responder S σ) (second : Responder T τ) (p : Program S α) (s : σ)
    (t : τ) :
    (p.left : Program (S.sum T) α).transcript (first.beside second) (s, t) =
      (p.transcript first s).map fun asked => ⟨.inl asked.1, asked.2⟩ := by
  induction p generalizing s with
  | done a => rfl
  | ask q next ih => exact congrArg (_ :: ·) (ih (first q s).1 (first q s).2)

end Transcripts

section Talks

variable {S : Signature} {α β σ : Type}

/-- A program may have these exchanges with some world, and then end with this result. -/
inductive MayTalk : Program S α → List (Sigma S.Answer) → α → Prop where
  | done (a : α) : MayTalk (done a) [] a
  | ask {q : S.Ask} {next : S.Answer q → Program S α} {talk : List (Sigma S.Answer)} {a : α}
      (reply : S.Answer q) (later : MayTalk (next reply) talk a) :
      MayTalk (ask q next) (⟨q, reply⟩ :: talk) a

variable {p : Program S α} {f : α → Program S β} {talk : List (Sigma S.Answer)} {a : α} {b : β}

theorem mayTalk_run (world : Responder S σ) (p : Program S α) (s : σ) :
    p.MayTalk (p.transcript world s) (p.run world s).1 := by
  induction p generalizing s with
  | done a => exact .done a
  | ask q next ih => exact .ask _ (ih _ _)

theorem eq_of_mayTalk_done {last : α} (h : (done a : Program S α).MayTalk talk last) :
    talk = [] ∧ last = a := by
  cases h
  exact ⟨rfl, rfl⟩

theorem exists_of_mayTalk_ask {q : S.Ask} {next : S.Answer q → Program S α}
    (h : (ask q next).MayTalk talk a) :
    ∃ reply later, talk = ⟨q, reply⟩ :: later ∧ (next reply).MayTalk later a := by
  cases h with
  | ask reply later => exact ⟨reply, _, rfl, later⟩

theorem exists_of_mayTalk_bind (h : (p.bind f).MayTalk talk b) :
    ∃ first a later, talk = first ++ later ∧ p.MayTalk first a ∧ (f a).MayTalk later b := by
  induction p generalizing talk with
  | done a => exact ⟨[], a, talk, rfl, .done a, h⟩
  | ask q next ih =>
    obtain ⟨reply, more, rfl, after⟩ := exists_of_mayTalk_ask h
    obtain ⟨first, a, later, rfl, said, rest⟩ := ih reply after
    exact ⟨⟨q, reply⟩ :: first, a, later, rfl, .ask reply said, rest⟩

end Talks

end PageWalk.Program
