import PageWalk.Browser.Start
import PageWalk.Session.Store

/-!
# Settings

What is set in a file once and for all. A file that is missing or cannot be read stands for the
usual settings.
-/

namespace PageWalk

set_option autoImplicit false

structure Settings where
  browser : BrowserKind := .firefox
  /-- Where the driver listens, unless it is at the usual place for its browser. -/
  webdriverUrl : Option String := none
  headless : Bool := true
  /-- The size of the window, as it is written. -/
  viewport : Option String := none
  sessionsDir : Option String := none
  deriving DecidableEq, Repr

namespace Settings

def usualFile : String := "scout.config.json"

def ofJson (j : Json) : Decoded Settings := do
  let fields ← j.asFields "settings" 5
  let option (name : String) (place : Nat) :=
    fields.withDefault ⟨[name], place⟩ none (Json.asOption Json.asString)
  return {
    browser := ← fields.withDefault ⟨["browser"], 0⟩ .firefox BrowserKind.ofJson
    webdriverUrl := ← option "webdriverUrl" 1
    headless := ← fields.withDefault ⟨["headless"], 2⟩ true Json.asBool
    viewport := ← option "viewport" 3
    sessionsDir := ← option "sessionsDir" 4 }

def toJson (s : Settings) : Json :=
  .obj ([("browser", .str s.browser.name)] ++
    Json.optional "webdriverUrl" s.webdriverUrl ++
    [("headless", .bool s.headless)] ++
    Json.optional "viewport" s.viewport ++
    Json.optional "sessionsDir" s.sessionsDir)

def text (s : Settings) : String :=
  s.toJson.pretty

def ofText? (text : String) : Option Settings :=
  match (Json.read? text).map ofJson with
  | some (.ok settings) => some settings
  | _ => none

def load (path : String) : FileProgram Settings := do
  if ← Files.isThere path then
    match ← Files.read path with
    | .ok text => pure ((ofText? text).getD {})
    | .error _ => pure {}
  else pure {}

def save (s : Settings) (path : String) : FileProgram (Except Fault Unit) := do
  let reply ← Files.write path s.text
  pure (FileError.within s!"Failed to save config file at {path}" reply)

def url (s : Settings) : String :=
  s.webdriverUrl.getD s.browser.defaultUrl

def viewportSize (s : Settings) : Except ViewportError (Option Viewport) :=
  match s.viewport with
  | some text => some <$> Viewport.parse text
  | none => .ok none

/-- Where sessions are kept, below the user's data directory unless another one is set. -/
def store (s : Settings) (dataDirectory : String) : SessionStore :=
  match s.sessionsDir with
  | some directory => ⟨directory⟩
  | none => .below dataDirectory

end Settings

end PageWalk
