import PageWalk.Browser.Answer
import PageWalk.Browser.Key
import PageWalk.Browser.Wire
import PageWalk.Url.Relative

/-!
# Driving a page

Each call to a page as commands to the driver of its browser.
-/

namespace PageWalk

set_option autoImplicit false

namespace Driving

/-- Goes on when a step succeeded. -/
def andThen {α β : Type} (step : WireProgram (Except Fault α))
    (next : α → WireProgram (Except Fault β)) : WireProgram (Except Fault β) := do
  match ← step with
  | .ok a => next a
  | .error fault => pure (.error fault)

/-- A step that succeeds without a value. -/
def plain {α : Type} (step : WireProgram (Except Fault α)) : WireProgram (Except Fault Unit) := do
  pure ((← step).map fun _ => ())

def inContext {α : Type} (context : String) (step : WireProgram (Except Fault α)) :
    WireProgram (Except Fault α) := do
  pure (Except.within context (← step))

/-- Sends a command and reads its answer. -/
def asking {α : Type} (command : WireCommand) (read : Json → Except Fault α) :
    WireProgram (Except Fault α) := do
  pure ((← Wire.send command).bind read)

def findAll (selector : String) : WireProgram (Except Fault (List String)) :=
  inContext s!"Failed to query selector: {selector}"
    (asking (.find (Target.ofSelector selector)) Answer.asElements)

def find (selector : String) : WireProgram (Except Fault String) :=
  andThen (findAll selector) fun
    | element :: _ => pure (.ok element)
    | [] => pure (.error ⟨s!"Element not found: {selector}", []⟩)

def snapshot (element : String) : WireProgram (Except Fault Element) :=
  andThen (inContext "Failed to snapshot element" (Wire.execute .snapshot [.element element]))
    fun value => pure (Answer.decoded Element.ofJson value)

def click (selector : String) : WireProgram (Except Fault Unit) :=
  andThen (find selector) fun element =>
    plain (inContext s!"Failed to click {selector}" (Wire.send (.click element)))

def fill (selector value : String) : WireProgram (Except Fault Unit) :=
  andThen (find selector) fun element =>
  andThen (Wire.send (.clear element)) fun _ =>
    plain (inContext s!"Failed to fill {selector}" (Wire.send (.sendKeys element value)))

/-- How long it takes from one look at the page to the next, in milliseconds. -/
def pollTime : Nat := 100

/-- How often a page that is being opened is looked at. -/
def readyPolls : Nat := 20

def awaitReady : Nat → WireProgram Unit
  | 0 => pure ()
  | n + 1 => do
    match ← Wire.execute .isReady [] with
    | .ok (.bool true) => pure ()
    | _ => do
      Wire.pause pollTime
      awaitReady n

/-- The URL that is open; an empty one is that of an empty page. -/
def baseUrl : WireProgram (Except Fault Url) :=
  asking .currentUrl fun value => do
    let text ← Answer.asText value
    (Url.parse (if text = "" then "about:blank" else text)).mapError Answer.badUrl

def navigate (url : String) : WireProgram (Except Fault Unit) :=
  andThen baseUrl fun base =>
    match base.join url with
    | .error e => pure (.error (Answer.badUrl e))
    | .ok target => plain (Wire.send (.navigate target.text))

def goto (url : String) : WireProgram (Except Fault Unit) :=
  andThen (inContext s!"Failed to navigate to {url}" (navigate url)) fun _ => do
    awaitReady readyPolls
    pure (.ok ())

def press (key : String) : WireProgram (Except Fault Unit) :=
  andThen (asking .activeElement Answer.asElement) fun element =>
    plain (inContext s!"Failed to press {key}"
      (Wire.send (.sendKeys element (String.ofList (Key.sequence key.toList)))))

def scrollTo (selector : String) : WireProgram (Except Fault Bool) :=
  andThen (findAll selector) fun
    | [] => pure (.ok false)
    | element :: _ => do
      pure ((← Wire.execute .scrollIntoView [.element element]).map fun _ => true)

def query (selector : String) : WireProgram (Except Fault (Option Element)) :=
  andThen (findAll selector) fun
    | [] => pure (.ok none)
    | element :: _ => do pure ((← snapshot element).map some)

/-- The selectors as one, unless one of them is XPath. -/
def cssOnly : List String → Except Fault (List String)
  | [] => .ok []
  | selector :: rest =>
    match Target.ofSelector selector with
    | .css css => (cssOnly rest).map (css :: ·)
    | .xpath _ => .error ⟨s!"query_all takes CSS selectors, got {selector}", []⟩

def queryAll (selectors : List String) : WireProgram (Except Fault (List Element)) :=
  match cssOnly selectors with
  | .error fault => pure (.error fault)
  | .ok css =>
    andThen (inContext "Failed to query candidate elements"
      (Wire.execute .queryAll [.value (.str (joined ", " css))])) fun value =>
        pure (Answer.decoded (Json.asList Element.ofJson) value)

/-- Whether one of some elements is shown; those after it are not looked at. -/
def anyDisplayed : List String → WireProgram (Except Fault Bool)
  | [] => pure (.ok false)
  | element :: rest =>
    andThen (asking (.isDisplayed element) Answer.asBool) fun
      | true => pure (.ok true)
      | false => anyDisplayed rest

def isVisible (selector : String) : WireProgram (Except Fault Bool) :=
  andThen (findAll selector) anyDisplayed

def hasText (text : String) : WireProgram (Except Fault Bool) := do
  pure ((← Wire.execute .hasText [.value (.str text)]).map fun
    | .bool b => b
    | _ => false)

def evaluate (script : Script) (args : List Json) : WireProgram (Except Fault Json) :=
  inContext "Failed to execute script" (Wire.execute (.own script) (args.map .value))

/-- How long a page has to load nothing before it counts as quiet, in milliseconds. -/
def quietTime : Nat := 500

/-- What a page is doing: whether it is complete, and how many resources it has loaded. -/
def activity (value : Json) : Bool × Option Nat :=
  let member (key : String) : Json :=
    match value with
    | .obj members => ((members.find? fun m => m.1 == key).map Prod.snd).getD .null
    | _ => .null
  let ready := match member "ready" with
    | .bool b => b
    | _ => false
  let count := match member "resources" with
    | .int n => if 0 ≤ n then some n.toNat else none
    | _ => none
  (ready, count)

def timeText (ms : Nat) : String :=
  if ms = 0 then "0ns"
  else if ms < 1000 then s!"{ms}ms"
  else
    let thousandths := (Nat.toDigits 10 (ms % 1000)).leftpad 3 '0'
    let places := (thousandths.reverse.dropWhile (· = '0')).reverse
    if places = [] then s!"{ms / 1000}s" else s!"{ms / 1000}.{String.ofList places}s"

/-- Looks at the page up to so many times until it is quiet, at the time `now`, with `count` resources
loaded since `since`. -/
def settle (timeout : Nat) : Nat → Nat → Nat → Option Nat → WireProgram (Except Fault Unit)
  | 0, _, _, _ =>
    pure (.error ⟨s!"Timed out waiting for network idle after {timeText timeout}", []⟩)
  | n + 1, now, since, count =>
    andThen (Wire.execute .activity []) fun value => do
      let (ready, seen) := activity value
      let changed := seen ≠ count ∨ !ready
      if ¬changed ∧ quietTime ≤ now - since then pure (.ok ())
      else if timeout ≤ now then settle timeout 0 now since count
      else
        Wire.pause pollTime
        settle timeout n (now + pollTime) (if changed then now else since) seen

/-- Waits until the page loads nothing more. -/
def quiet (timeout : Nat) : WireProgram (Except Fault Unit) :=
  settle timeout (timeout / pollTime + 2) 0 0 none

end Driving

open Driving

/-- What a call to the page asks of the driver. -/
def PageCall.driven : (call : PageCall) → WireProgram (Except Fault call.Reply)
  | .click selector => Driving.click selector
  | .fill selector value => Driving.fill selector value
  | .wait ms => do
    Wire.pause ms.toNat
    pure (.ok ())
  | .goto url => Driving.goto url
  | .press key => Driving.press key
  | .scrollTop => plain (Wire.execute .scrollTop [])
  | .scrollBottom => plain (Wire.execute .scrollBottom [])
  | .scrollTo selector => Driving.scrollTo selector
  | .query selector => Driving.query selector
  | .queryAll selectors => Driving.queryAll selectors
  | .isVisible selector => Driving.isVisible selector
  | .hasText text => Driving.hasText text
  | .currentUrl => do pure ((← asking .currentUrl Answer.asUrl).map Url.text)
  | .evaluate script args => Driving.evaluate script args
  | .quiet timeout => Driving.quiet timeout
  | .isPresent selector => do pure ((← findAll selector).map fun elements => !elements.isEmpty)

/-- A program over a page as a program over the wire. -/
def PageProgram.driven {α : Type} (p : PageProgram α) : WireProgram α :=
  p.through PageCall.driven

end PageWalk
