import PageWalk.Text.Character
import PageWalk.Text.Basic
import PageWalk.Json.Decode

/-!
# Elements

What is known of an element of a page at one moment.
-/

namespace PageWalk

set_option autoImplicit false

structure Element where
  /-- The name of the tag, in lower case. -/
  tag : String := ""
  /-- The rendered text. -/
  text : String := ""
  /-- Attributes by name, sorted. -/
  attributes : List (String × String) := []
  /-- The type of an input. -/
  inputType : Option String := none
  /-- What a form control holds. -/
  value : Option String := none
  /-- Where an anchor leads. -/
  href : Option String := none
  /-- The text of the first label that belongs to the element. -/
  label : Option String := none
  deriving DecidableEq, Repr

namespace Element

/-- The value of an attribute; an empty one counts as absent. -/
def attribute? (e : Element) (name : String) : Option String :=
  ((e.attributes.find? (·.1 == name)).map (·.2)).filter (· ≠ "")

def trimmedText (e : Element) : List Char :=
  Text.trim e.text.toList

/-- The first line of the text, unless it is empty. -/
def firstLine? (e : Element) : Option (List Char) :=
  let line :=
    match Text.splitFirst '\n' e.trimmedText with
    | some (line, _) => line
    | none => e.trimmedText
  if line = [] then none else some line

def ofJson (j : Json) : Decoded Element := do
  let fields ← j.asFields "an element" 7
  let text (name : String) (place : Nat) := fields.withDefault ⟨[name], place⟩ "" Json.asString
  let option (name : String) (place : Nat) :=
    fields.withDefault ⟨[name], place⟩ none (Json.asOption Json.asString)
  return {
    tag := ← text "tag" 0
    text := ← text "text" 1
    attributes := ← fields.withDefault ⟨["attributes"], 2⟩ [] Json.asStrings
    inputType := ← option "inputType" 3
    value := ← option "value" 4
    href := ← option "href" 5
    label := ← option "label" 6 }

def toJson (e : Element) : Json :=
  .obj [
    ("tag", .str e.tag),
    ("text", .str e.text),
    ("attributes", .obj (e.attributes.map fun (name, value) => (name, .str value))),
    ("inputType", Json.ofOption e.inputType),
    ("value", Json.ofOption e.value),
    ("href", Json.ofOption e.href),
    ("label", Json.ofOption e.label)]

end Element

end PageWalk
