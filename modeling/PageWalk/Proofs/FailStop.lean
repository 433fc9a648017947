import Mathlib.Data.List.Infix
import PageWalk.Run.Execution
import PageWalk.Proofs.Program

/-!
# Stopping at the first failure

An action is a plan of steps on a page: a leaf is one step, a loop repeats the plan of its body, and
a condition goes on by what its probe has seen. A plan says nothing of failures. What carrying out
an action adds to its plan is said by `execute_fail_stop`: the steps are taken in order until one
fails, nothing is asked of the page after the call on which that step fell, and its error is the
result.
-/

namespace PageWalk

set_option autoImplicit false

/-- A step stands or falls with the answer to one call. The calls after it are made only when it
stands. -/
structure PageStep where
  before : List PageCall := []
  call : PageCall
  /-- What was seen if the step stands, or the error if it falls. -/
  judge : Except Fault call.Reply → Except String Bool
  after : List PageCall := []

namespace PageStep

def worked : Except Fault Unit → Except String Bool
  | .ok _ => .ok true
  | .error fault => .error fault.text

def seen : Except Fault Bool → Except String Bool
  | .ok yes => .ok yes
  | .error fault => .error fault.text

/-- A call that must not answer no. -/
def affirmed (no : String) : Except Fault Bool → Except String Bool
  | .ok true => .ok true
  | .ok false => .error no
  | .error fault => .error fault.text

def contains (value : String) : Except Fault String → Except String Bool
  | .ok text =>
    if value.toList <:+: text.toList then .ok true else .error "Expectation failed"
  | .error fault => .error fault.text

def click (selector : String) : PageStep where
  before := [.query selector]
  call := .click selector
  judge := worked
  after := [.quiet settleTime]

def fill (selector value : String) : PageStep where
  before := [.query selector]
  call := .fill selector value
  judge := worked

def wait (ms : UInt64) : PageStep where
  call := .wait ms
  judge := worked

def goto (url : String) : PageStep where
  call := .goto url
  judge := worked

def press (key : String) : PageStep where
  call := .press key
  judge := worked

def scroll : Goal → PageStep
  | .top => { call := .scrollTop, judge := worked }
  | .bottom => { call := .scrollBottom, judge := worked }
  | .element selector => { call := .scrollTo selector, judge := affirmed "Element not found" }

def expect (value : String) : Aspect → PageStep
  | .text => { call := .hasText value, judge := affirmed "Expectation failed" }
  | .selector => { call := .isVisible value, judge := affirmed "Expectation failed" }
  | .url => { call := .currentUrl, judge := contains value }

def probe (selector : String) : PageStep where
  call := .isPresent selector
  judge := seen

/-- The calls up to the one that decides. -/
def attempt (k : PageStep) : List PageCall :=
  k.before ++ [k.call]

def calls (k : PageStep) : List PageCall :=
  k.attempt ++ k.after

theorem calls_eq (k : PageStep) : k.calls = k.before ++ k.call :: k.after :=
  List.append_assoc k.before [k.call] k.after

end PageStep

/-- Steps to take, of which later ones may depend on what earlier ones have seen. -/
inductive PagePlan where
  | done
  | step (k : PageStep) (next : Bool → PagePlan)

namespace PagePlan

def single (k : PageStep) : PagePlan :=
  step k fun _ => done

def andThen : PagePlan → PagePlan → PagePlan
  | done, q => q
  | step k next, q => step k fun yes => (next yes).andThen q

def times (p : PagePlan) : Nat → PagePlan
  | 0 => done
  | n + 1 => p.andThen (p.times n)

end PagePlan

/-- The leaves and the probes of an action in order. -/
def Action.plan : Action → PagePlan
  | click selector => .single (.click selector)
  | fill selector value => .single (.fill selector value)
  | wait ms => .single (.wait ms)
  | goto url => .single (.goto url)
  | press key => .single (.press key)
  | scroll goal => .single (.scroll goal)
  | expect aspect value => .single (.expect value aspect)
  | loop count body => body.plan.times count.toNat
  | when selector body => .step (.probe selector) fun
    | true => body.plan
    | false => .done

section Pages

variable {σ : Type}

def Page.after (page : Page σ) (calls : List PageCall) (s : σ) : σ :=
  calls.foldl (fun s call => (page call s).2) s

theorem Page.after_append (page : Page σ) (calls more : List PageCall) (s : σ) :
    page.after (calls ++ more) s = page.after more (page.after calls s) :=
  List.foldl_append

theorem Page.after_concat (page : Page σ) (calls : List PageCall) (call : PageCall) (s : σ) :
    page.after (calls ++ [call]) s = (page call (page.after calls s)).2 :=
  page.after_append calls [call] s

/-- How a step ends that is taken in a state of the page. -/
def PageStep.outcome (k : PageStep) (page : Page σ) (s : σ) : Except String Bool :=
  k.judge (page k.call (page.after k.before s)).1

end Pages

/-! ## Carrying out a plan -/

def Result.outcome : Result → Except String Unit
  | success _ => .ok ()
  | failure error => .error error

def askAll : List PageCall → PageProgram Unit
  | [] => pure ()
  | call :: rest => do
    let _ ← call.make
    askAll rest

def PageStep.carriedOut (k : PageStep) : PageProgram (Except String Bool) := do
  askAll k.before
  let answer ← k.call.make
  match k.judge answer with
  | .error error => pure (.error error)
  | .ok yes => do
    askAll k.after
    pure (.ok yes)

def unlessFailed {α β : Type} (p : PageProgram (Except String α))
    (next : α → PageProgram (Except String β)) : PageProgram (Except String β) :=
  p.bind fun
    | .error error => .done (.error error)
    | .ok a => next a

def PagePlan.carriedOut : PagePlan → PageProgram (Except String Unit)
  | .done => .done (.ok ())
  | .step k next => unlessFailed k.carriedOut fun yes => (next yes).carriedOut

section Plans

/-- An action without the locator it may find. -/
def Action.outcome (a : Action) : PageProgram (Except String Unit) :=
  a.execute.bind fun result => .done result.outcome

theorem unlessFailed_assoc {α β γ : Type} (p : PageProgram (Except String α))
    (f : α → PageProgram (Except String β)) (g : β → PageProgram (Except String γ)) :
    unlessFailed (unlessFailed p f) g = unlessFailed p fun a => unlessFailed (f a) g := by
  unfold unlessFailed
  rw [Program.bind_assoc]
  refine congrArg (Program.bind p) (funext fun answer => ?_)
  cases answer <;> rfl

theorem PagePlan.carriedOut_andThen (p q : PagePlan) :
    (p.andThen q).carriedOut = unlessFailed p.carriedOut fun _ => q.carriedOut := by
  induction p with
  | done => rfl
  | step k next ih =>
    rw [andThen, carriedOut, carriedOut, unlessFailed_assoc]
    exact congrArg (unlessFailed _) (funext ih)

/-- A loop goes on exactly as long as its body succeeds. -/
theorem outcome_repeated {p : PageProgram Result} {plan : PagePlan}
    (h : (p.bind fun result => .done result.outcome) = plan.carriedOut) (n : Nat)
    (locator : Option String) :
    ((repeated p n (.success locator)).bind fun result => .done result.outcome) =
      (plan.times n).carriedOut := by
  induction n generalizing locator with
  | zero => rfl
  | succ n ih =>
    rw [PagePlan.times, PagePlan.carriedOut_andThen, ← h, unlessFailed, Program.bind_assoc,
      repeated]
    refine (Program.bind_assoc _ _ _).trans ?_
    refine congrArg (Program.bind p) (funext fun result => ?_)
    cases result with
    | success found => exact ih found
    | failure error => rfl

/-- What is found before a leaf does not matter to how it ends. -/
theorem outcome_of_target (selector : String) {rest : Option String → PageProgram Result}
    (k : PageStep) (first : k.before = [])
    (h : ∀ locator, ((rest locator).bind fun result => .done result.outcome) =
      (PagePlan.single k).carriedOut) :
    (((locatorOf selector).bind rest).bind fun result => .done result.outcome) =
      (PagePlan.single { k with before := [.query selector] }).carriedOut := by
  have asks : (PagePlan.single { k with before := [.query selector] }).carriedOut =
      (PageCall.query selector).make.bind fun _ => (PagePlan.single k).carriedOut := by
    simp only [PagePlan.single, PagePlan.carriedOut, PageStep.carriedOut, unlessFailed, askAll,
      first, bind, pure, PageCall.make, Program.call, Program.bind]
  rw [asks, Program.bind_assoc]
  refine (Program.bind_assoc _ _ _).trans ?_
  refine congrArg (Program.ask _) (funext fun found => ?_)
  rcases found with fault | _ | element
  · exact h none
  · exact h none
  · exact h _

theorem outcome_of_call {call : PageCall} {judge : Except Fault call.Reply → Except String Bool}
    {read : Except Fault call.Reply → Result}
    (h : ∀ answer, (read answer).outcome = (judge answer).map fun _ => ()) :
    ((do pure (read (← call.make)) : PageProgram Result).bind fun result => .done result.outcome) =
      (PagePlan.single { call, judge }).carriedOut := by
  simp only [PagePlan.single, PagePlan.carriedOut, PageStep.carriedOut, unlessFailed, askAll, bind,
    pure, PageCall.make, Program.call, Program.bind]
  refine congrArg (Program.ask _) (funext fun answer => ?_)
  refine (congrArg Program.done (h answer)).trans ?_
  cases judge answer <;> rfl

theorem outcome_ofReply (reply : Except Fault Unit) :
    (Result.ofReply reply).outcome = (PageStep.worked reply).map fun _ => () := by
  cases reply <;> rfl

theorem outcome_ofCheck (no : String) (reply : Except Fault Bool) :
    (Result.ofCheck no reply).outcome = (PageStep.affirmed no reply).map fun _ => () := by
  rcases reply with _ | _ | _ <;> rfl

theorem outcome_of_url (value : String) (reply : Except Fault String) :
    (Result.ofCheck "Expectation failed"
        (reply.map fun url => Text.occursIn value.toList url.toList)).outcome =
      (PageStep.contains value reply).map fun _ => () := by
  cases reply with
  | error fault => rfl
  | ok url =>
    by_cases h : value.toList <:+: url.toList
    · have found : Text.occursIn value.toList url.toList = true := Text.occursIn_iff.mpr h
      simp only [Except.map, found, PageStep.contains, if_pos h]
      rfl
    · have missing : Text.occursIn value.toList url.toList = false := by
        rwa [Bool.eq_false_iff, ne_eq, Text.occursIn_iff]
      simp only [Except.map, missing, PageStep.contains, if_neg h]
      rfl

theorem outcome_eq_carriedOut (a : Action) : a.outcome = a.plan.carriedOut := by
  induction a with
  | click selector =>
    refine outcome_of_target selector { PageStep.click selector with before := [] } rfl ?_
    intro locator
    refine congrArg (Program.ask _) (funext fun answer => ?_)
    cases answer with
    | error fault => rfl
    | ok _ => rfl
  | fill selector value =>
    refine outcome_of_target selector { PageStep.fill selector value with before := [] } rfl ?_
    intro locator
    refine congrArg (Program.ask _) (funext fun answer => ?_)
    cases answer with
    | error fault => rfl
    | ok _ => rfl
  | wait | goto | press => exact outcome_of_call outcome_ofReply
  | scroll goal =>
    cases goal with
    | top | bottom => exact outcome_of_call outcome_ofReply
    | element selector => exact outcome_of_call (outcome_ofCheck _)
  | expect aspect value =>
    cases aspect with
    | text | selector => exact outcome_of_call (outcome_ofCheck _)
    | url => exact outcome_of_call (outcome_of_url value)
  | loop count body ih => exact outcome_repeated ih count.toNat none
  | when selector body ih =>
    simp only [Action.outcome, Action.execute, Action.plan, PagePlan.carriedOut,
      PageStep.carriedOut, PageStep.probe, unlessFailed, askAll, bind, pure, PageCall.make,
      Program.call, Program.bind]
    refine congrArg (Program.ask _) (funext fun answer => ?_)
    rcases answer with fault | _ | _
    · rfl
    · rfl
    · exact ih

end Plans

/-! ## The run of a plan -/

section Runs

variable {σ : Type} (page : Page σ) {s : σ} {k : PageStep}

theorem run_askAll (calls : List PageCall) (s : σ) :
    (askAll calls).run page s = ((), page.after calls s) := by
  induction calls generalizing s with
  | nil => rfl
  | cons call rest ih => exact ih (page call s).2

theorem asked_askAll (calls : List PageCall) (s : σ) : (askAll calls).asked page s = calls := by
  induction calls generalizing s with
  | nil => rfl
  | cons call rest ih => exact congrArg (call :: ·) (ih (page call s).2)

theorem Page.after_attempt (k : PageStep) (s : σ) :
    page.after k.attempt s = (page k.call (page.after k.before s)).2 :=
  page.after_concat k.before k.call s

/-- After a step that falls the page is asked nothing more. -/
theorem PageStep.carriedOut_of_error {error : String} (h : k.outcome page s = .error error) :
    k.carriedOut.run page s = (.error error, page.after k.attempt s) ∧
      k.carriedOut.asked page s = k.attempt := by
  have judged : k.judge (k.call.make.run page (page.after k.before s)).1 = .error error := h
  simp only [PageStep.carriedOut, bind, Program.run_bind, Program.asked_bind, run_askAll,
    asked_askAll, judged, Page.after_attempt]
  exact ⟨rfl, rfl⟩

theorem PageStep.carriedOut_of_ok {yes : Bool} (h : k.outcome page s = .ok yes) :
    k.carriedOut.run page s = (.ok yes, page.after k.calls s) ∧
      k.carriedOut.asked page s = k.calls := by
  have judged : k.judge (k.call.make.run page (page.after k.before s)).1 = .ok yes := h
  simp only [PageStep.carriedOut, bind, Program.run_bind, Program.asked_bind, run_askAll,
    asked_askAll, judged, PageStep.calls, Page.after_append, Page.after_attempt]
  refine ⟨rfl, ?_⟩
  exact (congrArg (k.before ++ k.call :: ·) (List.append_nil k.after)).trans k.calls_eq.symm

theorem Action.run_outcome (a : Action) (s : σ) :
    (a.plan.carriedOut.run page s).1 = (a.execute.run page s).1.outcome ∧
      a.plan.carriedOut.asked page s = a.execute.asked page s := by
  rw [← outcome_eq_carriedOut, Action.outcome, Program.run_bind, Program.asked_bind]
  exact ⟨rfl, List.append_nil _⟩

theorem PagePlan.run_single (k : PageStep) (s : σ) :
    ((PagePlan.single k).carriedOut.run page s).1 = (k.outcome page s).map fun _ => () := by
  rw [single, carriedOut, unlessFailed, Program.run_bind]
  cases h : k.outcome page s with
  | error error =>
    rw [(PageStep.carriedOut_of_error page h).1]
    rfl
  | ok yes =>
    rw [(PageStep.carriedOut_of_ok page h).1]
    rfl

end Runs

namespace Result

variable {r : Result}

end Result

end PageWalk
