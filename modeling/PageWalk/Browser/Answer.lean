import PageWalk.Json.Decode
import PageWalk.Page.Fault
import PageWalk.Session.Data
import PageWalk.Text.Base64
import PageWalk.Text.LowerCase
import PageWalk.Url.Parser

/-!
# Answers of a browser driver

What the values mean that a driver answers with. A value of another shape is a fault.
-/

namespace PageWalk.Answer

set_option autoImplicit false

/-- The key under which the driver refers to an element. -/
def elementKey : String := "element-6066-11e4-a52e-4f735466cecf"

mutual

/-- A value as it is named in a fault. -/
def describe : Json → String
  | .null => "Null"
  | .bool b => s!"Bool({b})"
  | .int n => s!"Number({n})"
  | .float x => s!"Number({String.ofList x.text})"
  | .str s => s!"String({(Json.str s).compact})"
  | .arr items => "Array [" ++ joined ", " (describeItems items) ++ "]"
  | .obj members => "Object \x7b" ++ joined ", " (describeMembers members) ++ "\x7d"
  | .unreadable => "Null"

def describeItems : List Json → List String
  | [] => []
  | item :: rest => describe item :: describeItems rest

def describeMembers : List (String × Json) → List String
  | [] => []
  | (key, value) :: rest =>
    s!"{(Json.str key).compact}: {describe value}" :: describeMembers rest

end

def nonconforming (value : Json) : Fault :=
  ⟨s!"webdriver returned non-conforming response: {describe value}", []⟩

def asText : Json → Except Fault String
  | .str s => .ok s
  | value => .error (nonconforming value)

def asBool : Json → Except Fault Bool
  | .bool b => .ok b
  | value => .error (nonconforming value)

def asElement : Json → Except Fault String
  | .obj members =>
    match members.find? (·.1 == elementKey) with
    | some (_, .str id) => .ok id
    | _ => .error (nonconforming (.obj members))
  | value => .error (nonconforming value)

def asElements : Json → Except Fault (List String)
  | .arr items => items.mapM asElement
  | value => .error (nonconforming value)

def badUrl (e : UrlError) : Fault :=
  ⟨s!"bad url provided: {e.message}", []⟩

def asUrl (value : Json) : Except Fault Url := do
  (Url.parse (← asText value)).mapError badUrl

/-- Whether a word names one of the ways in which cookies are sent along with foreign requests. -/
def sameSite (j : Json) : Decoded Unit := do
  let word := String.ofList ((← j.asString).toList.map Text.asciiLower)
  if ["strict", "lax", "none"].contains word then .ok ()
  else .error (.unknownVariant word ["Strict", "Lax", "None"])

/-- A cookie of the browser, without what is not kept of it. -/
def cookie (j : Json) : Decoded Cookie := do
  let fields ← j.asFields "a cookie" 8
  let optional {α : Type} (name : String) (place : Nat) (read : Json → Decoded α) :=
    fields.withDefault ⟨[name], place⟩ none (Json.asOption read)
  let cookie : Cookie := {
    name := ← fields.required ⟨["name"], 0⟩ Json.asString
    value := ← fields.required ⟨["value"], 1⟩ Json.asString
    path := ← optional "path" 2 Json.asString
    domain := ← optional "domain" 3 Json.asString
    secure := ← optional "secure" 4 Json.asBool
    httpOnly := ← optional "httpOnly" 5 Json.asBool }
  let _ ← optional "expiry" 6 Json.asUInt64
  let _ ← optional "sameSite" 7 sameSite
  return cookie

def asCookies (value : Json) : Except Fault (List Cookie) :=
  (value.asList cookie).mapError fun e =>
    ⟨s!"webdriver returned incoherent response: {e.message}", []⟩

def asImage (value : Json) : Except Fault (List UInt8) := do
  match Text.Base64.decode? (← asText value).toList with
  | some bytes => .ok bytes
  | none => .error ⟨"error decoding image: not in base 64", []⟩

/-- Reads a value that a script gave. -/
def decoded {α : Type} (read : Json → Decoded α) (value : Json) : Except Fault α :=
  (read value).mapError fun e => ⟨e.message, []⟩

end PageWalk.Answer
