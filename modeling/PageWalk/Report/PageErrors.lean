import PageWalk.Json.Decode
import PageWalk.Url.Redaction
import PageWalk.Report.Summary

/-!
# Page errors

What went wrong on a page while it was watched: messages on its console, and requests that were
answered by an error or not at all. Of each kind only the newest are kept. They are noted inside the page
and taken out from time to time; what notes them is lost with the document, so it is installed anew each
time.
-/

namespace PageWalk

set_option autoImplicit false

structure NetworkError where
  /-- The status of the answer, if there was one. -/
  status : Option Nat
  method : String
  url : String
  deriving DecidableEq, Repr

namespace NetworkError

def text (e : NetworkError) : String :=
  let status := match e.status with
    | some n => toString n
    | none => "failed"
  s!"[{status}] {e.method} {e.url}"

def ofJson (j : Json) : Decoded NetworkError := do
  let fields ← j.asFields "a network error" 3
  return {
    status := ← fields.optional ⟨["status"], 0⟩ Json.asUInt16
    method := ← fields.required ⟨["method"], 1⟩ Json.asString
    url := ← fields.required ⟨["url"], 2⟩ Json.asString }

def toJson (e : NetworkError) : Json :=
  let status := match e.status with
    | some n => Json.int n
    | none => .null
  .obj [("status", status), ("method", .str e.method), ("url", .str e.url)]

def redacted (e : NetworkError) : NetworkError :=
  { e with url := Url.redact e.url }

end NetworkError

structure PageErrors where
  console : List String := []
  network : List NetworkError := []
  deriving DecidableEq, Repr

namespace PageErrors

/-- How many errors of each kind are kept. -/
def capacity : Nat := 1000

def newest {α : Type} (items : List α) : List α :=
  items.drop (items.length - capacity)

def append (a b : PageErrors) : PageErrors :=
  ⟨newest (a.console ++ b.console), newest (a.network ++ b.network)⟩

def count (e : PageErrors) : Nat :=
  e.console.length + e.network.length

def isEmpty (e : PageErrors) : Bool :=
  e.console.isEmpty && e.network.isEmpty

/-- One message for each error, those of the console first. -/
def messages (e : PageErrors) : List String :=
  (e.console.map fun text => "Console Error: " ++ text) ++
    e.network.map fun error => "Network Error: " ++ error.text

def ofJson (j : Json) : Decoded PageErrors := do
  let fields ← j.asFields "page errors" 2
  return {
    console := ← fields.withDefault ⟨["console"], 0⟩ [] (Json.asList Json.asString)
    network := ← fields.withDefault ⟨["network"], 1⟩ [] (Json.asList NetworkError.ofJson) }

def toJson (e : PageErrors) : Json :=
  .obj [
    ("console", .arr (e.console.map .str)),
    ("network", .arr (e.network.map NetworkError.toJson))]

def redacted (e : PageErrors) : PageErrors :=
  { e with network := e.network.map NetworkError.redacted }

end PageErrors

namespace Monitor

def install : PageProgram (Except Fault Unit) := do
  let reply ← (PageCall.evaluate .installMonitor [.int PageErrors.capacity]).make
  pure ((Except.within "Failed to install error monitor" reply).map fun (_ : Json) => ())

/-- The errors that the page has noted since they were last taken. -/
def collect : PageProgram (Except Fault PageErrors) := do
  let reply ← (PageCall.evaluate .collectErrors []).make
  pure do
    let value ← Except.within "Failed to collect page errors" reply
    let errors ← Except.within "Unexpected error monitor result"
      (value.answered {} PageErrors.ofJson)
    pure errors.redacted

/-- Adds the errors of the page to those known, and goes on watching. -/
def drain (known : PageErrors) : PageProgram (Except Fault Unit × PageErrors) := do
  match ← collect with
  | .error fault => pure (.error fault, known)
  | .ok errors =>
    let reply ← install
    pure (reply, known.append errors)

end Monitor

end PageWalk
