import PageWalk.Json.Decode
import PageWalk.Text.LowerCase

/-!
# Kinds of browser
-/

namespace PageWalk

set_option autoImplicit false

inductive BrowserKind where
  | firefox
  | chrome
  deriving DecidableEq, Repr

namespace BrowserKind

def name : BrowserKind → String
  | firefox => "firefox"
  | chrome => "chrome"

def driver : BrowserKind → String
  | firefox => "geckodriver"
  | chrome => "chromedriver"

/-- Where the driver listens unless it is told otherwise. -/
def defaultUrl : BrowserKind → String
  | firefox => "http://localhost:4444"
  | chrome => "http://localhost:9515"

/-- Reads the name of a browser in any case. -/
def ofText? (text : String) : Option BrowserKind :=
  let lowered := String.ofList (Text.lower text.toList)
  if lowered = "firefox" then some firefox
  else if lowered = "chrome" ∨ lowered = "chromium" then some chrome
  else none

def unsupported (text : String) : String :=
  s!"Unsupported browser: {text}"

def ofJson : Json → Decoded BrowserKind :=
  Json.asWord [("firefox", firefox), ("chrome", chrome)]

end BrowserKind

end PageWalk
