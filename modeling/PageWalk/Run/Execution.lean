import PageWalk.Command.Basic
import PageWalk.Locator.Semantic
import PageWalk.Page.Call

/-!
# Carrying out actions

An action on a page gives a result; no fault of the page escapes. Before a click or a fill a locator
is derived, since the element may be gone afterwards.
-/

namespace PageWalk

set_option autoImplicit false

/-- What became of an action. -/
inductive Result where
  /-- It worked; the locator is that of the element it was aimed at, if one was found. -/
  | success (locator : Option String)
  | failure (error : String)
  deriving DecidableEq, Repr

namespace Result

def isSuccess : Result → Bool
  | success _ => true
  | failure _ => false

def error? : Result → Option String
  | success _ => none
  | failure e => some e

def locator? : Result → Option String
  | success l => l
  | failure _ => none

/-- The result of a call that only works or fails. -/
def ofReply : Except Fault Unit → Result
  | .ok _ => success none
  | .error fault => failure fault.text

/-- The result of a call that answers yes or no, with what a no means. -/
def ofCheck (no : String) : Except Fault Bool → Result
  | .ok true => success none
  | .ok false => failure no
  | .error fault => failure fault.text

end Result

/-- How long a click waits for the page to settle, in milliseconds. -/
def settleTime : Nat := 2000

/-- The locator of what a selector matches now; a fault counts as no match. -/
def locatorOf (selector : String) : PageProgram (Option String) := do
  match ← (PageCall.query selector).make with
  | .ok (some element) => pure ((Locator.of? element).map Locator.expression)
  | _ => pure none

def click (selector : String) : PageProgram Result := do
  let locator ← locatorOf selector
  match ← (PageCall.click selector).make with
  | .error fault => pure (.failure fault.text)
  | .ok _ =>
    let _ ← (PageCall.quiet settleTime).make
    pure (.success locator)

def fill (selector value : String) : PageProgram Result := do
  let locator ← locatorOf selector
  match ← (PageCall.fill selector value).make with
  | .error fault => pure (.failure fault.text)
  | .ok _ => pure (.success locator)

def scroll : Goal → PageProgram Result
  | .top => do pure (.ofReply (← PageCall.scrollTop.make))
  | .bottom => do pure (.ofReply (← PageCall.scrollBottom.make))
  | .element selector => do
    pure (.ofCheck "Element not found" (← (PageCall.scrollTo selector).make))

/-- Looks whether an expectation holds. -/
def look (aspect : Aspect) (value : String) : PageProgram (Except Fault Bool) :=
  match aspect with
  | .text => (PageCall.hasText value).make
  | .selector => (PageCall.isVisible value).make
  | .url => do
    let url ← PageCall.currentUrl.make
    pure (url.map fun u => Text.occursIn value.toList u.toList)

/-- Runs a program up to so many times until it fails, and gives the last result. -/
def repeated (p : PageProgram Result) : Nat → Result → PageProgram Result
  | 0, last => pure last
  | n + 1, _ => do
    let r ← p
    if r.isSuccess then repeated p n r else pure r

def Action.execute : Action → PageProgram Result
  | .click selector => PageWalk.click selector
  | .fill selector value => PageWalk.fill selector value
  | .wait ms => do pure (.ofReply (← (PageCall.wait ms).make))
  | .goto url => do pure (.ofReply (← (PageCall.goto url).make))
  | .press key => do pure (.ofReply (← (PageCall.press key).make))
  | .scroll goal => PageWalk.scroll goal
  | .expect aspect value => do
    pure (.ofCheck "Expectation failed" (← look aspect value))
  | .loop count body => repeated body.execute count.toNat (.success none)
  | .when selector body => do
    match ← (PageCall.isPresent selector).make with
    | .ok true => body.execute
    | .ok false => pure (.success none)
    | .error fault => pure (.failure fault.text)

end PageWalk
