import PageWalk.Browser.Driving

/-!
# Starting a browser
-/

namespace PageWalk.Browser

set_option autoImplicit false

open Driving

/-- What a browser is to be: its kind, where its driver listens, its size, whether it is hidden. -/
structure Plan where
  kind : BrowserKind
  url : String
  viewport : Option Viewport
  headless : Bool
  deriving DecidableEq, Repr

def widthAndHeight (viewport : Option Viewport) (write : Nat → Nat → List String) : List String :=
  match viewport with
  | some v => write v.width.toNat v.height.toNat
  | none => []

/-- The arguments of the browser, whose data lies in a directory. -/
def arguments (plan : Plan) (profile : String) : List String :=
  match plan.kind with
  | .firefox =>
    ["-profile", profile] ++ (if plan.headless then ["--headless"] else []) ++
      widthAndHeight plan.viewport fun w h => [s!"--width={w}", s!"--height={h}"]
  | .chrome =>
    ["--no-sandbox"] ++
      (if plan.headless then ["--headless=new", "--disable-gpu", "--disable-dev-shm-usage"]
      else []) ++
      (widthAndHeight plan.viewport fun w h => [s!"--window-size={w},{h}"]) ++
      [s!"--user-data-dir={profile}"]

def unreachableMessage (plan : Plan) : String :=
  s!"Cannot connect to {plan.kind.driver} WebDriver at {plan.url}.\n" ++
    s!"Please ensure {plan.kind.driver} is running:\n" ++
    "For Firefox: geckodriver --port 4444\nFor Chrome: chromedriver --port 9515"

/-- The address at which a driver tells whether it is up. -/
def statusUrl (url : String) : String :=
  String.ofList (url.toList.reverse.dropWhile (· = '/')).reverse ++ "/status"

/-- Sets the size of the window; a driver that refuses is left alone. -/
def setSize : Option Viewport → WireProgram Unit
  | none => pure ()
  | some size => do
    let _ ← Wire.send (.setWindowSize size)
    pure ()

def start (plan : Plan) : WireProgram (Except Fault Unit) := do
  if ← Wire.isUp (statusUrl plan.url) then
    match ← Wire.makeProfile plan.kind with
    | .error e => pure (.error e.fault)
    | .ok profile =>
      match ← Wire.start plan.url ⟨plan.kind, arguments plan profile⟩ with
      | .error e => pure (.error (e.startFault.within "Failed to connect to WebDriver"))
      | .ok _ => do
        setSize plan.viewport
        pure (.ok ())
  else pure (.error ⟨unreachableMessage plan, []⟩)

def close : WireProgram (Except Fault Unit) :=
  plain (Wire.send .close)

end PageWalk.Browser
