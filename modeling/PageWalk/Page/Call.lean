import PageWalk.Program
import PageWalk.Page.Element
import PageWalk.Page.Fault

/-!
# Calls to a page

Everything that is asked of a page goes through `PageCall`. A selector is passed on as it stands.
-/

namespace PageWalk

set_option autoImplicit false

/-- Code that runs inside a page. -/
inductive Script where
  /-- Lists the visible elements that a user could act on or should notice. -/
  | scrape
  /-- Lists the fields of each form. -/
  | forms
  /-- Starts to note errors; its argument is how many are kept. -/
  | installMonitor
  /-- Takes the errors noted so far. -/
  | collectErrors
  | text (source : String)
  deriving DecidableEq, Repr

inductive PageCall where
  | click (selector : String)
  | fill (selector value : String)
  | wait (ms : UInt64)
  | goto (url : String)
  | press (key : String)
  | scrollTop
  | scrollBottom
  /-- Brings the first match into view; `false` when nothing matches. -/
  | scrollTo (selector : String)
  | query (selector : String)
  /-- Every element that matches any of the selectors, in document order. -/
  | queryAll (selectors : List String)
  | isVisible (selector : String)
  | hasText (text : String)
  | currentUrl
  | evaluate (script : Script) (args : List Json)
  /-- Waits until the page loads nothing more, or fails after so many milliseconds. -/
  | quiet (timeout : Nat)
  /-- Whether anything matches, visible or not. -/
  | isPresent (selector : String)

/-- What a call that succeeds gives. -/
def PageCall.Reply : PageCall → Type
  | scrollTo _ => Bool
  | query _ => Option Element
  | queryAll _ => List Element
  | isVisible _ => Bool
  | hasText _ => Bool
  | currentUrl => String
  | evaluate _ _ => Json
  | isPresent _ => Bool
  | _ => Unit

def pageSignature : Signature where
  Ask := PageCall
  Answer call := Except Fault call.Reply

/-- A program over a page. -/
abbrev PageProgram (α : Type) := Program pageSignature α

/-- A page with a state. -/
abbrev Page (σ : Type) := Responder pageSignature σ

def PageCall.make (call : PageCall) : PageProgram (Except Fault call.Reply) :=
  Program.call (S := pageSignature) call

end PageWalk
