/-!
# Programs that ask

A program is a value: it is done, or it asks something of the world around it and goes on with the
answer. What the world is, a browser page, a browser driver or a machine with files, is a
`Signature`; how it behaves is a `Responder`, whose state may change with every question. `run`
plays a program against a responder, `asked` lists the questions in order, and `through` answers
each question of a program by a program over another world.
-/

namespace PageWalk

set_option autoImplicit false

/-- What can be asked, and what kind of answer each question has. -/
structure Signature where
  Ask : Type
  Answer : Ask → Type

/-- Two worlds side by side. -/
def Signature.sum (S T : Signature) : Signature where
  Ask := S.Ask ⊕ T.Ask
  Answer
    | .inl q => S.Answer q
    | .inr q => T.Answer q

inductive Program (S : Signature) (α : Type) where
  | done (a : α)
  | ask (q : S.Ask) (next : S.Answer q → Program S α)

/-- A world with a state: it answers every question and may change by it. -/
abbrev Responder (S : Signature) (σ : Type) := (q : S.Ask) → σ → S.Answer q × σ

/-- Two worlds side by side, each with a state of its own. -/
def Responder.beside {S T : Signature} {σ τ : Type} (first : Responder S σ)
    (second : Responder T τ) :
    Responder (S.sum T) (σ × τ)
  | .inl q, (s, t) =>
    match first q s with
    | (a, s') => (a, (s', t))
  | .inr q, (s, t) =>
    match second q t with
    | (a, t') => (a, (s, t'))

namespace Program

variable {S T : Signature} {α β γ σ : Type}

def bind : Program S α → (α → Program S β) → Program S β
  | done a, f => f a
  | ask q next, f => ask q fun a => (next a).bind f

instance : Monad (Program S) where
  pure := done
  bind := bind

def call (q : S.Ask) : Program S (S.Answer q) :=
  ask q done

theorem bind_done (p : Program S α) : p.bind done = p := by
  induction p with
  | done a => rfl
  | ask q next ih => exact congrArg (ask q) (funext ih)

theorem bind_assoc (p : Program S α) (f : α → Program S β) (g : β → Program S γ) :
    (p.bind f).bind g = p.bind fun a => (f a).bind g := by
  induction p with
  | done a => rfl
  | ask q next ih => exact congrArg (ask q) (funext ih)

instance : LawfulMonad (Program S) :=
  LawfulMonad.mk' _ bind_done (fun _ _ => rfl) bind_assoc

def run (world : Responder S σ) : Program S α → σ → α × σ
  | done a, s => (a, s)
  | ask q next, s =>
    match world q s with
    | (a, s') => (next a).run world s'

def asked (world : Responder S σ) : Program S α → σ → List S.Ask
  | done _, _ => []
  | ask q next, s =>
    match world q s with
    | (a, s') => q :: (next a).asked world s'

/-- Runs a program in a monad that answers each question. -/
def runM {m : Type → Type} [Monad m] (answer : (q : S.Ask) → m (S.Answer q)) : Program S α → m α
  | done a => pure a
  | ask q next => do (next (← answer q)).runM answer

/-- Answers each question by a program over another world. -/
def through (answer : (q : S.Ask) → Program T (S.Answer q)) : Program S α → Program T α
  | done a => done a
  | ask q next => (answer q).bind fun a => (next a).through answer

/-- A program over the first of two worlds. -/
def left (p : Program S α) : Program (S.sum T) α :=
  p.through fun q => call (S := S.sum T) (.inl q)

/-- A program over the second of two worlds. -/
def right (p : Program T α) : Program (S.sum T) α :=
  p.through fun q => call (S := S.sum T) (.inr q)

theorem run_bind (world : Responder S σ) (p : Program S α) (f : α → Program S β) (s : σ) :
    (p.bind f).run world s = (f (p.run world s).1).run world (p.run world s).2 := by
  induction p generalizing s with
  | done a => rfl
  | ask q next ih => exact ih (world q s).1 (world q s).2

theorem asked_bind (world : Responder S σ) (p : Program S α) (f : α → Program S β) (s : σ) :
    (p.bind f).asked world s =
      p.asked world s ++ (f (p.run world s).1).asked world (p.run world s).2 := by
  induction p generalizing s with
  | done a => rfl
  | ask q next ih => exact congrArg (q :: ·) (ih (world q s).1 (world q s).2)

theorem run_left {τ : Type} (first : Responder S σ) (second : Responder T τ) (p : Program S α)
    (s : σ) (t : τ) :
    (p.left : Program (S.sum T) α).run (first.beside second) (s, t) =
      ((p.run first s).1, ((p.run first s).2, t)) := by
  induction p generalizing s with
  | done a => rfl
  | ask q next ih => exact ih (first q s).1 (first q s).2

theorem run_right {τ : Type} (first : Responder S σ) (second : Responder T τ) (p : Program T α)
    (s : σ) (t : τ) :
    (p.right : Program (S.sum T) α).run (first.beside second) (s, t) =
      ((p.run second t).1, (s, (p.run second t).2)) := by
  induction p generalizing t with
  | done a => rfl
  | ask q next ih => exact ih (second q t).1 (second q t).2

end Program

end PageWalk
