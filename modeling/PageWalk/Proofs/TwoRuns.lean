import Mathlib.Data.List.Forall2
import PageWalk.Proofs.Program

/-!
# Two runs side by side

A comparison says which questions only the first of two runs asks and how the answers to the others may
differ. Two programs match when they ask the same questions but for those, and end alike whatever they
are answered; then they do so in worlds that answer by the comparison.
-/

namespace PageWalk.Program

set_option autoImplicit false

/-- How the questions of two runs compare. -/
structure Comparison (S : Signature) where
  /-- Only the first run asks the question. -/
  isSilent : S.Ask → Bool
  /-- What may be answered to a question that only the first run asks. -/
  Admits : (q : S.Ask) → S.Answer q → Prop
  /-- What may be answered, in the one run and in the other, to a question that both ask. -/
  Agree : (q : S.Ask) → S.Answer q → S.Answer q → Prop

variable {S : Signature} {α β γ δ : Type}

/-- Each question that may be asked satisfies a condition, whatever was answered before. -/
def Asks (P : S.Ask → Prop) : Program S α → Prop
  | done _ => True
  | ask q next => P q ∧ ∀ answer, (next answer).Asks P

section Asking

variable {P Q : S.Ask → Prop} {p : Program S α} {f : α → Program S β}

theorem Asks.bind (first : p.Asks P) (later : ∀ a, (f a).Asks P) : (p.bind f).Asks P := by
  induction p with
  | done a => exact later a
  | ask q next ih => exact ⟨first.1, fun answer => ih answer (first.2 answer)⟩

theorem Asks.imp (h : p.Asks P) (imp : ∀ q, P q → Q q) : p.Asks Q := by
  induction p with
  | done a => trivial
  | ask q next ih => exact ⟨imp q h.1, fun answer => ih answer (h.2 answer)⟩

theorem asks_true (p : Program S α) : p.Asks fun _ => True := by
  induction p with
  | done a => trivial
  | ask q next ih => exact ⟨trivial, ih⟩

theorem Asks.through {T : Signature} {answer : (q : S.Ask) → Program T (S.Answer q)}
    {R : T.Ask → Prop} (h : p.Asks P) (each : ∀ q, P q → (answer q).Asks R) :
    (p.through answer).Asks R := by
  induction p with
  | done a => trivial
  | ask q next ih => exact (each q h.1).bind fun reply => ih reply (h.2 reply)

theorem Asks.forall_mem_talk {talk : List (Sigma S.Answer)} {a : α} (h : p.Asks P)
    (said : p.MayTalk talk a) : ∀ e ∈ talk, P e.1 := by
  induction said with
  | done a => exact List.forall_mem_nil _
  | ask reply later ih => exact List.forall_mem_cons.mpr ⟨h.1, ih (h.2 reply)⟩

theorem Asks.forall_mem_asked {σ : Type} (h : p.Asks P) (world : Responder S σ) (s : σ) :
    ∀ q ∈ p.asked world s, P q := by
  rw [← map_fst_transcript, List.forall_mem_map]
  exact h.forall_mem_talk (mayTalk_run world p s)

/-- Two worlds that differ only in what is never asked are the same to a program. -/
theorem Asks.run_congr {σ : Type} {world other : Responder S σ} (h : p.Asks P)
    (same : ∀ q, P q → world q = other q) (s : σ) :
    p.run world s = p.run other s ∧ p.asked world s = p.asked other s := by
  induction p generalizing s with
  | done a => exact ⟨rfl, rfl⟩
  | ask q next ih =>
    obtain ⟨ran, asked⟩ := ih (world q s).1 (h.2 _) (world q s).2
    constructor
    · rw [run, run, ← same q h.1]
      exact ran
    · rw [Program.asked, Program.asked, ← same q h.1]
      exact congrArg (q :: ·) asked

end Asking

inductive Matches (c : Comparison S) (R : α → β → Prop) : Program S α → Program S β → Prop where
  | done {a : α} {b : β} (alike : R a b) : Matches c R (done a) (done b)
  | ask {q : S.Ask} {f : S.Answer q → Program S α} {g : S.Answer q → Program S β}
      (shared : c.isSilent q = false)
      (later : ∀ a b, c.Agree q a b → Matches c R (f a) (g b)) : Matches c R (ask q f) (ask q g)
  | silent {q : S.Ask} {f : S.Answer q → Program S α} {p : Program S β} (alone : c.isSilent q = true)
      (later : ∀ a, c.Admits q a → Matches c R (f a) p) : Matches c R (ask q f) p

section Matching

variable {c : Comparison S} {R : α → β → Prop} {p : Program S α} {p' : Program S β}

theorem Matches.bind {R' : γ → δ → Prop} {f : α → Program S γ} {g : β → Program S δ}
    (first : Matches c R p p') (later : ∀ a b, R a b → Matches c R' (f a) (g b)) :
    Matches c R' (p.bind f) (p'.bind g) := by
  induction first with
  | done alike => exact later _ _ alike
  | ask shared _ ih => exact .ask shared ih
  | silent alone _ ih => exact .silent alone ih

theorem Matches.imp {R' : α → β → Prop} (h : Matches c R p p') (imp : ∀ a b, R a b → R' a b) :
    Matches c R' p p' := by
  induction h with
  | done alike => exact .done (imp _ _ alike)
  | ask shared _ ih => exact .ask shared ih
  | silent alone _ ih => exact .silent alone ih

theorem Asks.matches {p : Program S α}
    (h : p.Asks fun q => c.isSilent q = false ∧ ∀ a b, c.Agree q a b → a = b) : Matches c Eq p p := by
  induction p with
  | done a => exact .done rfl
  | ask q next ih =>
    obtain ⟨⟨shared, same⟩, later⟩ := h
    apply Matches.ask shared
    intro a b agree
    obtain rfl := same a b agree
    exact ih a (later a)

variable {σ τ : Type} {world : Responder S σ} {other : Responder S τ} {s : σ} {t : τ}

/-- Two worlds answer by a comparison as long as their states are related. -/
structure Comparison.Keeps (c : Comparison S) (world : Responder S σ) (other : Responder S τ)
    (related : σ → τ → Prop) : Prop where
  shared : ∀ q s t, c.isSilent q = false → related s t →
    c.Agree q (world q s).1 (other q t).1 ∧ related (world q s).2 (other q t).2
  silent : ∀ q s t, c.isSilent q = true → related s t →
    c.Admits q (world q s).1 ∧ related (world q s).2 t

theorem asked_ask (world : Responder S σ) (q : S.Ask) (next : S.Answer q → Program S α) (s : σ) :
    (ask q next).asked world s = q :: (next (world q s).1).asked world (world q s).2 := rfl

theorem Matches.run {related : σ → τ → Prop} (h : Matches c R p p')
    (keeps : c.Keeps world other related) (start : related s t) :
    R (p.run world s).1 (p'.run other t).1 ∧
      ((p.asked world s).filter fun q => !c.isSilent q) = p'.asked other t := by
  induction h generalizing s t with
  | done alike => exact ⟨alike, rfl⟩
  | ask shared _ ih =>
    obtain ⟨agree, next⟩ := keeps.shared _ s t shared start
    obtain ⟨result, asked⟩ := ih _ _ agree next
    refine ⟨result, ?_⟩
    rw [asked_ask, asked_ask, List.filter_cons_of_pos (by simp [shared]), asked]
  | silent alone _ ih =>
    obtain ⟨admits, next⟩ := keeps.silent _ s t alone start
    obtain ⟨result, asked⟩ := ih _ admits next
    refine ⟨result, ?_⟩
    rw [asked_ask, List.filter_cons_of_neg (by simp [alone]), asked]

end Matching

section Steps

variable {ε : Type}

/-- Two steps fail with the same error, or both succeed with related results. -/
inductive Alike (R : α → β → Prop) : Except ε α → Except ε β → Prop where
  | ok {a : α} {b : β} (related : R a b) : Alike R (.ok a) (.ok b)
  | error (e : ε) : Alike R (.error e) (.error e)

theorem Alike.refl (x : Except ε α) : Alike Eq x x := by
  cases x with
  | ok a => exact .ok rfl
  | error e => exact .error e

theorem Alike.eq {x y : Except ε α} (h : Alike Eq x y) : x = y := by
  cases h with
  | ok same => rw [same]
  | error e => rfl

variable {R : α → β → Prop} {R' : γ → δ → Prop}

theorem Alike.bind {x : Except ε α} {y : Except ε β} {f : α → Except ε γ} {g : β → Except ε δ}
    (first : Alike R x y) (later : ∀ a b, R a b → Alike R' (f a) (g b)) :
    Alike R' (x >>= f) (y >>= g) := by
  cases first with
  | ok related => exact later _ _ related
  | error e => exact .error e

theorem Alike.bind_ok {x : Except ε α} {y : Except ε β} {f : α → Except ε γ} {g : β → Except ε δ}
    {a : α} (first : Alike R x y) (known : x = .ok a) (later : ∀ b, R a b → Alike R' (f a) (g b)) :
    Alike R' (x >>= f) (y >>= g) := by
  obtain rfl := known
  cases first with
  | ok related => exact later _ related

theorem Alike.bind_same {x : Except ε α} {f : α → Except ε γ} {g : α → Except ε δ}
    (later : ∀ a, x = .ok a → Alike R' (f a) (g a)) : Alike R' (x >>= f) (x >>= g) := by
  cases x with
  | ok a => exact later a rfl
  | error e => exact .error e

theorem Alike.imp {R' : α → β → Prop} {x : Except ε α} {y : Except ε β} (h : Alike R x y)
    (imp : ∀ a b, R a b → R' a b) : Alike R' x y := by
  cases h with
  | ok related => exact .ok (imp _ _ related)
  | error e => exact .error e

theorem Alike.mapM {f : α → Except ε γ} {g : β → Except ε δ} {items : List α} {items' : List β}
    (related : List.Forall₂ R items items') (each : ∀ a b, R a b → Alike R' (f a) (g b)) :
    Alike (List.Forall₂ R') (items.mapM f) (items'.mapM g) := by
  induction related with
  | nil => exact .ok .nil
  | cons first _ ih =>
    rw [List.mapM_cons, List.mapM_cons]
    apply (each _ _ first).bind
    intro c d head
    apply ih.bind
    intro cs ds tail
    exact .ok (.cons head tail)

end Steps

end PageWalk.Program
