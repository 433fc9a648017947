import PageWalk.Report.Summary

/-!
# Forms

The fields of a page, form by form, and those that belong to no form. What is typed into a password
field is not shown.
-/

namespace PageWalk

set_option autoImplicit false

structure FormField where
  tag : String
  /-- The type of an input, the tag of any other field. -/
  type : String
  name : String
  id : String
  label : String
  required : Bool
  value : String
  deriving DecidableEq, Repr

namespace FormField

def ofJson (j : Json) : Decoded FormField := do
  let fields ← j.asFields "a form field" 7
  let text (name : String) (place : Nat) := fields.withDefault ⟨[name], place⟩ "" Json.asString
  return {
    tag := ← text "tag" 0
    type := ← text "type" 1
    name := ← text "name" 2
    id := ← text "id" 3
    label := ← text "label" 4
    required := ← fields.withDefault ⟨["required"], 5⟩ false Json.asBool
    value := ← text "value" 6 }

def toJson (f : FormField) : Json :=
  .obj [
    ("tag", .str f.tag),
    ("type", .str f.type),
    ("name", .str f.name),
    ("id", .str f.id),
    ("label", .str f.label),
    ("required", .bool f.required),
    ("value", .str f.value)]

def mask : String := "********"

def masked (f : FormField) : FormField :=
  if f.type = "password" ∧ f.value ≠ "" then { f with value := mask } else f

end FormField

/-- Whether fields belong to a form. -/
inductive FormKind where
  | form
  | standalone
  deriving DecidableEq, Repr

def FormKind.name : FormKind → String
  | form => "form"
  | standalone => "standalone"

structure Form where
  kind : FormKind
  id : String
  name : String
  fields : List FormField
  deriving DecidableEq, Repr

namespace Form

def ofJson (j : Json) : Decoded Form := do
  let fields ← j.asFields "a form" 4
  return {
    kind := ← fields.required ⟨["type"], 0⟩
      (Json.asWord [("form", .form), ("standalone", .standalone)])
    id := ← fields.required ⟨["id"], 1⟩ Json.asString
    name := ← fields.withDefault ⟨["name"], 2⟩ "" Json.asString
    fields := ← fields.withDefault ⟨["inputs"], 3⟩ [] (Json.asList FormField.ofJson) }

def toJson (f : Form) : Json :=
  .obj [
    ("type", .str f.kind.name),
    ("id", .str f.id),
    ("name", .str f.name),
    ("inputs", .arr (f.fields.map FormField.toJson))]

def masked (f : Form) : Form :=
  { f with fields := f.fields.map FormField.masked }

def required (f : Form) : List FormField :=
  f.fields.filter (·.required)

/-- Lists the forms of the page as it is now. -/
def analyze : PageProgram (Except Fault (List Form)) := do
  let reply ← (PageCall.evaluate .forms []).make
  pure do
    let value ← Except.within "Failed to analyze forms" reply
    let forms ← Except.within "Unexpected form analysis result"
      (value.answered [] (Json.asList Form.ofJson))
    pure (forms.map masked)

end Form

end PageWalk
