import PageWalk.Browser.Kind
import PageWalk.Browser.Viewport
import PageWalk.Locator.Target
import PageWalk.Page.Call
import PageWalk.Session.Data
import PageWalk.World.Files

/-!
# The wire to a browser driver

A browser is driven by commands to its driver. The driver answers each with a value or refuses it,
and nothing is known of its answers beforehand.
-/

namespace PageWalk

set_option autoImplicit false

/-- Scripts that are run in a page through its driver. -/
inductive PageScript where
  /-- Describes the element that it is given. -/
  | snapshot
  /-- Describes every element that matches a selector. -/
  | queryAll
  /-- Whether the document is complete. -/
  | isReady
  /-- Whether the document is complete, and how many resources have been loaded. -/
  | activity
  | readStorage
  | setStorage
  | scrollTop
  | scrollBottom
  | scrollIntoView
  | hasText
  | own (script : Script)
  deriving DecidableEq, Repr

inductive ScriptArgument where
  | value (value : Json)
  | element (id : String)

inductive WireCommand where
  | setWindowSize (size : Viewport)
  | currentUrl
  | navigate (url : String)
  | refresh
  | find (target : Target)
  | activeElement
  | click (element : String)
  | clear (element : String)
  | sendKeys (element keys : String)
  | isDisplayed (element : String)
  | execute (script : PageScript) (arguments : List ScriptArgument)
  | cookies
  | addCookie (cookie : Cookie)
  | screenshot
  /-- Ends the browser. -/
  | close

/-- Why a driver refused a command. -/
structure WireError where
  code : String
  message : String
  deriving DecidableEq, Repr

namespace WireError

def lead (code : String) : String :=
  if code = "no such element" ∨ code = "stale element reference" then
    "no element found matching selector"
  else if code = "no such window" then "no window is currently selected"
  else "webdriver returned error"

def fault (e : WireError) : Fault :=
  ⟨s!"{lead e.code}: {e.message}", []⟩

def startFault (e : WireError) : Fault :=
  if e.code = "session not created" then ⟨s!"webdriver did not create session: {e.message}", []⟩
  else e.fault

end WireError

structure BrowserOptions where
  kind : BrowserKind
  arguments : List String
  deriving DecidableEq, Repr

inductive WireCall where
  /-- Whether a driver listens at a URL. -/
  | isUp (url : String)
  /-- Makes an empty directory for the data of a browser, which is removed when the browser ends. -/
  | makeProfile (kind : BrowserKind)
  /-- Starts a browser through the driver at a URL. -/
  | start (url : String) (options : BrowserOptions)
  | send (command : WireCommand)
  | pause (ms : Nat)

def WireCall.Reply : WireCall → Type
  | isUp _ => Bool
  | makeProfile _ => Except FileError String
  | start _ _ => Except WireError Json
  | send _ => Except WireError Json
  | pause _ => Unit

def wireSignature : Signature where
  Ask := WireCall
  Answer := WireCall.Reply

abbrev WireProgram (α : Type) := Program wireSignature α

def WireCall.make (call : WireCall) : WireProgram call.Reply :=
  Program.call (S := wireSignature) call

namespace Wire

def isUp (url : String) : WireProgram Bool :=
  (WireCall.isUp url).make

def makeProfile (kind : BrowserKind) : WireProgram (Except FileError String) :=
  (WireCall.makeProfile kind).make

def start (url : String) (options : BrowserOptions) : WireProgram (Except WireError Json) :=
  (WireCall.start url options).make

def pause (ms : Nat) : WireProgram Unit :=
  (WireCall.pause ms).make

/-- Sends a command and takes a refusal for a fault. -/
def send (command : WireCommand) : WireProgram (Except Fault Json) := do
  let (reply : Except WireError Json) ← (WireCall.send command).make
  pure (reply.mapError WireError.fault)

def execute (script : PageScript) (arguments : List ScriptArgument) :
    WireProgram (Except Fault Json) :=
  send (.execute script arguments)

end Wire

def unreachable : Responder wireSignature Unit
  | .isUp _, s => (false, s)
  | .makeProfile _, s => (.error (.refused "no browser"), s)
  | .start _ _, s => (.error ⟨"session not created", "no browser"⟩, s)
  | .send _, s => (.error ⟨"invalid session id", "no browser"⟩, s)
  | .pause _, s => ((), s)

end PageWalk
