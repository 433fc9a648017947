import PageWalk.Browser.Storage
import PageWalk.Cli.Machine
import PageWalk.Proofs.TwoRuns

/-!
# What is done in an open browser

A driver is asked to start a browser and to close it at two places only. Everything else that is asked of
it, for calls to a page or for storage, is done within the life of one browser.
-/

namespace PageWalk

set_option autoImplicit false

/-- A driver starts a browser or closes it. -/
def WireCall.isEdge : WireCall → Bool
  | start _ _ => true
  | send .close => true
  | _ => false

/-- Neither starts a browser nor closes one. -/
abbrev WireProgram.Within {α : Type} (p : WireProgram α) : Prop :=
  p.Asks fun call => WireCall.isEdge call = false

open WireProgram (Within)

section Driving

variable {α β : Type}

theorem within_send {command : WireCommand} (h : (WireCall.send command).isEdge = false) :
    Within (Wire.send command) :=
  ⟨h, fun _ => trivial⟩

theorem within_execute (script : PageScript) (arguments : List ScriptArgument) :
    Within (Wire.execute script arguments) :=
  within_send rfl

theorem within_pause (ms : Nat) : Within (Wire.pause ms) :=
  ⟨rfl, fun _ => trivial⟩

namespace Driving

variable {step : WireProgram (Except Fault α)}

theorem within_andThen {next : α → WireProgram (Except Fault β)} (first : Within step)
    (later : ∀ a, Within (next a)) : Within (andThen step next) := by
  apply first.bind
  rintro (fault | a)
  · trivial
  · exact later a

theorem within_plain (h : Within step) : Within (plain step) :=
  h.bind fun _ => trivial

theorem within_inContext {context : String} (h : Within step) : Within (inContext context step) :=
  h.bind fun _ => trivial

theorem within_asking {command : WireCommand} {read : Json → Except Fault α}
    (h : (WireCall.send command).isEdge = false) : Within (asking command read) :=
  (within_send h).bind fun _ => trivial

theorem within_findAll (selector : String) : Within (findAll selector) :=
  within_inContext (within_asking rfl)

theorem within_find (selector : String) : Within (find selector) := by
  apply within_andThen (within_findAll selector)
  rintro (_ | _) <;> trivial

theorem within_snapshot (element : String) : Within (snapshot element) :=
  within_andThen (within_inContext (within_execute _ _)) fun _ => trivial

theorem within_click (selector : String) : Within (click selector) :=
  within_andThen (within_find selector) fun _ => within_plain (within_inContext (within_send rfl))

theorem within_fill (selector value : String) : Within (fill selector value) := by
  apply within_andThen (within_find selector)
  intro element
  apply within_andThen (within_send rfl)
  intro _
  exact within_plain (within_inContext (within_send rfl))

theorem within_awaitReady (polls : Nat) : Within (awaitReady polls) := by
  induction polls with
  | zero => trivial
  | succ n ih =>
    apply (within_execute _ _).bind
    intro reply
    split
    · trivial
    · exact (within_pause _).bind fun _ => ih

theorem within_navigate (url : String) : Within (navigate url) := by
  apply within_andThen (within_asking rfl)
  intro base
  split
  · trivial
  · exact within_plain (within_send rfl)

theorem within_goto (url : String) : Within (goto url) := by
  apply within_andThen (within_inContext (within_navigate url))
  intro _
  exact (within_awaitReady _).bind fun _ => trivial

theorem within_press (key : String) : Within (press key) :=
  within_andThen (within_asking rfl) fun _ => within_plain (within_inContext (within_send rfl))

theorem within_scrollTo (selector : String) : Within (scrollTo selector) := by
  apply within_andThen (within_findAll selector)
  rintro (_ | ⟨element, _⟩)
  · trivial
  · exact (within_execute _ _).bind fun _ => trivial

theorem within_query (selector : String) : Within (query selector) := by
  apply within_andThen (within_findAll selector)
  rintro (_ | ⟨element, _⟩)
  · trivial
  · exact (within_snapshot element).bind fun _ => trivial

theorem within_queryAll (selectors : List String) : Within (queryAll selectors) := by
  unfold queryAll
  split
  · trivial
  · exact within_andThen (within_inContext (within_execute _ _)) fun _ => trivial

theorem within_anyDisplayed (elements : List String) : Within (anyDisplayed elements) := by
  induction elements with
  | nil => trivial
  | cons element rest ih =>
    apply within_andThen (within_asking rfl)
    rintro (_ | _)
    · exact ih
    · trivial

theorem within_settle (timeout polls now since : Nat) (count : Option Nat) :
    Within (settle timeout polls now since count) := by
  induction polls generalizing now since count with
  | zero =>
    rw [settle]
    trivial
  | succ n ih =>
    rw [settle]
    apply within_andThen (within_execute _ _)
    intro value
    dsimp only
    split
    · trivial
    · split
      · rw [settle]
        trivial
      · exact (within_pause _).bind fun _ => ih _ _ _

end Driving

open Driving

theorem within_driven (call : PageCall) : Within call.driven := by
  cases call with
  | click selector => exact within_click selector
  | fill selector value => exact within_fill selector value
  | wait ms => exact (within_pause _).bind fun _ => trivial
  | goto url => exact within_goto url
  | press key => exact within_press key
  | scrollTop | scrollBottom => exact within_plain (within_execute _ _)
  | scrollTo selector => exact within_scrollTo selector
  | query selector => exact within_query selector
  | queryAll selectors => exact within_queryAll selectors
  | isVisible selector => exact within_andThen (within_findAll selector) within_anyDisplayed
  | hasText text => exact (within_execute _ _).bind fun _ => trivial
  | currentUrl => exact (within_asking rfl).bind fun _ => trivial
  | evaluate script args => exact within_inContext (within_execute _ _)
  | quiet timeout => exact within_settle _ _ _ _ _
  | isPresent selector => exact (within_findAll selector).bind fun _ => trivial

namespace Storage

theorem within_capture : Within capture := by
  apply within_andThen (within_inContext (within_asking rfl))
  intro cookies
  apply within_andThen (within_asking rfl)
  intro page
  refine within_andThen ?_ fun _ => trivial
  cases page with
  | none => trivial
  | some url => exact within_andThen (within_execute _ _) fun _ => trivial

theorem within_addCookies (cookies : List Cookie) : Within (addCookies cookies) := by
  induction cookies with
  | nil => trivial
  | cons cookie rest ih =>
    apply (within_send rfl).bind
    intro reply
    exact ih.bind fun _ => trivial

theorem within_setEntries (entries : List StorageEntry) : Within (setEntries entries) := by
  induction entries with
  | nil => trivial
  | cons entry rest ih => exact within_andThen (within_inContext (within_execute _ _)) fun _ => ih

theorem within_restore (session : Session) : Within (restore session) := by
  apply within_andThen (within_asking rfl)
  rintro (_ | url)
  · trivial
  · apply (within_addCookies _).bind
    intro accepted
    apply within_andThen (within_setEntries _)
    intro _
    split
    · trivial
    · exact within_plain (within_send rfl)

end Storage

end Driving

section Commands

open Machine (andThen desk wire)

variable {α β : Type}

/-- A question that is put to files or to the console. -/
def Machine.isAtDesk : machineSignature.Ask → Bool
  | .inl _ => true
  | .inr _ => false

/-- A question by which a driver starts a browser or closes it. -/
def Machine.isEdge : machineSignature.Ask → Bool
  | .inl _ => false
  | .inr call => WireCall.isEdge call

/-- Asks nothing of a driver. -/
abbrev MachineProgram.AtDesk (p : MachineProgram α) : Prop :=
  p.Asks fun q => Machine.isAtDesk q = true

/-- Neither starts a browser nor closes one. -/
abbrev MachineProgram.Within (p : MachineProgram α) : Prop :=
  p.Asks fun q => Machine.isEdge q = false

namespace Machine

theorem atDesk_desk (p : DeskProgram α) : (desk p).AtDesk :=
  (Program.asks_true p).through fun _ _ => ⟨rfl, fun _ => trivial⟩

theorem within_of_atDesk {p : MachineProgram α} (h : p.AtDesk) : p.Within := by
  apply h.imp
  rintro (q | call) there
  · rfl
  · cases there

theorem within_desk (p : DeskProgram α) : (desk p).Within :=
  within_of_atDesk (atDesk_desk p)

theorem within_wire {p : WireProgram α} (h : WireProgram.Within p) : (wire p).Within :=
  h.through fun _ inner => ⟨inner, fun _ => trivial⟩

theorem within_andThen {step : MachineProgram (Except Fault α)}
    {next : α → MachineProgram (Except Fault β)} (first : step.Within)
    (later : ∀ a, (next a).Within) : (andThen step next).Within := by
  apply first.bind
  rintro (fault | a)
  · trivial
  · exact later a

end Machine

end Commands

end PageWalk
