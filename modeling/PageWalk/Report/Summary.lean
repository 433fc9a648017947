import PageWalk.Json.Decode
import PageWalk.Page.Call
import PageWalk.Text.Character

/-!
# Page summaries

What a page shows at one moment: its visible elements that a user could act on or should notice.
-/

namespace PageWalk

set_option autoImplicit false

/-- Position and size on the page. -/
structure Box where
  x : Binary64
  y : Binary64
  width : Binary64
  height : Binary64
  deriving DecidableEq, Repr

namespace Box

def empty : Box :=
  ⟨Binary64.ofInt 0, Binary64.ofInt 0, Binary64.ofInt 0, Binary64.ofInt 0⟩

def ofJson (j : Json) : Decoded Box := do
  let fields ← j.asFields "a box" 4
  return {
    x := ← fields.required ⟨["x"], 0⟩ Json.asBinary64
    y := ← fields.required ⟨["y"], 1⟩ Json.asBinary64
    width := ← fields.required ⟨["width"], 2⟩ Json.asBinary64
    height := ← fields.required ⟨["height"], 3⟩ Json.asBinary64 }

def toJson (b : Box) : Json :=
  .obj [("x", .float b.x), ("y", .float b.y), ("width", .float b.width),
    ("height", .float b.height)]

end Box

structure VisibleElement where
  tag : String
  text : String
  id : String
  className : String
  ariaLabel : String
  /-- The nearest landmark that the element stands in, such as `nav` or `form#login`. -/
  region : String
  box : Box
  /-- Whether the element tells of an error or asks for attention. -/
  isAlert : Bool
  deriving DecidableEq, Repr

namespace VisibleElement

/-- The first of text, label and id that is not blank. -/
def label (e : VisibleElement) : String :=
  let shown := [e.text, e.ariaLabel, e.id].map fun s => Text.trim s.toList
  String.ofList ((shown.find? (· ≠ [])).getD [])

def ofJson (j : Json) : Decoded VisibleElement := do
  let fields ← j.asFields "a visible element" 8
  let text (name : String) (place : Nat) := fields.withDefault ⟨[name], place⟩ "" Json.asString
  return {
    tag := ← text "tag" 0
    text := ← text "text" 1
    id := ← text "id" 2
    className := ← text "className" 3
    ariaLabel := ← text "ariaLabel" 4
    region := ← text "region" 5
    box := ← fields.withDefault ⟨["box"], 6⟩ Box.empty Box.ofJson
    isAlert := ← fields.withDefault ⟨["isAlert"], 7⟩ false Json.asBool }

def toJson (e : VisibleElement) : Json :=
  .obj ([
    ("tag", .str e.tag),
    ("text", .str e.text),
    ("id", .str e.id),
    ("className", .str e.className),
    ("ariaLabel", .str e.ariaLabel),
    ("region", .str e.region),
    ("box", e.box.toJson)] ++
    if e.isAlert then [("isAlert", .bool true)] else [])

end VisibleElement

structure Summary where
  url : String := ""
  title : String := ""
  elements : List VisibleElement := []
  deriving DecidableEq, Repr

namespace Summary

def alerts (s : Summary) : List VisibleElement :=
  s.elements.filter (·.isAlert)

def ofJson (j : Json) : Decoded Summary := do
  let fields ← j.asFields "a page summary" 3
  return {
    url := ← fields.withDefault ⟨["url"], 0⟩ "" Json.asString
    title := ← fields.withDefault ⟨["title"], 1⟩ "" Json.asString
    elements := ← fields.withDefault ⟨["elements"], 2⟩ [] (Json.asList VisibleElement.ofJson) }

def toJson (s : Summary) : Json :=
  .obj [
    ("url", .str s.url),
    ("title", .str s.title),
    ("elements", .arr (s.elements.map VisibleElement.toJson))]

end Summary

/-- Reads what a script gave; nothing stands for an empty answer. -/
def Json.answered {α : Type} (empty : α) (read : Json → Decoded α) : Json → Except Fault α
  | .null => .ok empty
  | value => (read value).mapError fun e => ⟨e.message, []⟩

theorem Json.answered_of_ne_null {α : Type} {value : Json} (given : value ≠ .null) (empty : α)
    (read : Json → Decoded α) :
    value.answered empty read = (read value).mapError fun e => ⟨e.message, []⟩ := by
  cases value with
  | null => exact absurd rfl given
  | _ => rfl

/-- Takes a summary of the page as it is now. -/
def Summary.take : PageProgram (Except Fault Summary) := do
  let reply ← (PageCall.evaluate .scrape []).make
  pure do
    let value ← Except.within "Failed to scrape page" reply
    Except.within "Unexpected page scrape result" (value.answered {} Summary.ofJson)

end PageWalk
