import PageWalk.Proofs.TwoRuns
import PageWalk.Proofs.Retry

/-!
# What commands ask of a page

A command acts on a page and looks at it, but evaluates no script, whatever the page answers. Only to
heal a selector are all elements listed that could be meant.
-/

namespace PageWalk

set_option autoImplicit false

def PageCall.isScript : PageCall → Bool
  | evaluate _ _ => true
  | _ => false

/-- No script is evaluated. -/
abbrev PageProgram.Scriptless {α : Type} (p : PageProgram α) : Prop :=
  p.Asks fun call => PageCall.isScript call = false

open PageProgram (Scriptless)

/-- An action or a look at one element: no script, and no list of all that could be meant. -/
def PageCall.isDirect : PageCall → Bool
  | evaluate _ _ => false
  | queryAll _ => false
  | _ => true

/-- Nothing but acting on single elements and looking at them. -/
abbrev PageProgram.Direct {α : Type} (p : PageProgram α) : Prop :=
  p.Asks fun call => PageCall.isDirect call = true

open PageProgram (Direct)

section Actions

theorem direct_locatorOf (selector : String) : Direct (locatorOf selector) := by
  refine ⟨rfl, ?_⟩
  rintro (_ | _ | _) <;> trivial

theorem direct_click (selector : String) : Direct (click selector) := by
  apply (direct_locatorOf selector).bind
  intro locator
  refine ⟨rfl, ?_⟩
  rintro (fault | _)
  · trivial
  · exact ⟨rfl, fun _ => trivial⟩

theorem direct_fill (selector value : String) : Direct (fill selector value) := by
  apply (direct_locatorOf selector).bind
  intro locator
  refine ⟨rfl, ?_⟩
  rintro (fault | _) <;> trivial

theorem direct_scroll (goal : Goal) : Direct (scroll goal) := by
  cases goal <;> exact ⟨rfl, fun _ => trivial⟩

theorem direct_look (aspect : Aspect) (value : String) : Direct (look aspect value) := by
  cases aspect <;> exact ⟨rfl, fun _ => trivial⟩

theorem direct_repeated {p : PageProgram Result} (h : Direct p) (n : Nat) (last : Result) :
    Direct (repeated p n last) := by
  induction n generalizing last with
  | zero => trivial
  | succ n ih =>
    apply h.bind
    intro result
    cases result with
    | success locator => exact ih _
    | failure error => trivial

theorem direct_execute (action : Action) : Direct action.execute := by
  induction action with
  | click selector => exact direct_click selector
  | fill selector value => exact direct_fill selector value
  | wait | goto | press => exact ⟨rfl, fun _ => trivial⟩
  | scroll goal => exact direct_scroll goal
  | expect aspect value => exact (direct_look aspect value).bind fun _ => trivial
  | loop count body ih => exact direct_repeated ih count.toNat _
  | when selector body ih =>
    refine ⟨rfl, ?_⟩
    rintro (fault | _ | _)
    · trivial
    · trivial
    · exact ih

theorem scriptless_execute (action : Action) : Scriptless action.execute := by
  apply (direct_execute action).imp
  intro call direct
  cases call with
  | evaluate script args => cases direct
  | _ => rfl

end Actions

section Commands

theorem Healing.scriptless_heal (selector : String) : Scriptless (Healing.heal selector) := by
  unfold heal
  split
  · trivial
  · refine ⟨rfl, ?_⟩
    rintro (_ | _) <;> trivial

namespace Batch

theorem scriptless_retry (action : Action) : Scriptless (retry action) := by
  rw [retry_eq_retryUnread]
  unfold retryUnread
  split
  · trivial
  · apply (Healing.scriptless_heal _).bind
    intro healed
    split
    · trivial
    · split
      · trivial
      · exact (scriptless_execute _).bind fun _ => trivial

theorem scriptless_execute (command : String) : Scriptless (execute command) := by
  unfold execute
  split
  · trivial
  · apply (PageWalk.scriptless_execute _).bind
    rintro (locator | error)
    · trivial
    · apply (scriptless_retry _).bind
      rintro (_ | ⟨healed, _ | _⟩) <;> trivial

theorem scriptless_check (text : String) : Scriptless (check text) := by
  unfold check
  split
  · trivial
  · exact (PageWalk.scriptless_execute _).bind fun _ => trivial

theorem scriptless_checkAll (texts : List String) : Scriptless (checkAll texts) := by
  induction texts with
  | nil => trivial
  | cons text rest ih => exact (scriptless_check text).bind fun _ => ih.bind fun _ => trivial

end Batch

end Commands

end PageWalk
