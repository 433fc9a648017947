import PageWalk.Page.Element
import PageWalk.Text.LowerCase

/-!
# Semantic locators

A reference to an element by its role, label or text, which outlives changes of the markup better
than a selector. `Locator.of?` picks the most durable one that an element has.
-/

namespace PageWalk

set_option autoImplicit false

inductive Locator where
  | role (role name : String)
  | placeholder (text : String)
  | label (text : String)
  | testId (id : String)
  | text (text : String)
  deriving DecidableEq, Repr

namespace Locator

def quoted (s : String) : String :=
  "'" ++ String.ofList (Text.backslashed ['\\', '\''] s.toList) ++ "'"

/-- The call of the test language that finds the element. -/
def expression : Locator → String
  | .role r name => "getByRole('" ++ r ++ "', \x7b name: " ++ quoted name ++ " \x7d)"
  | .placeholder s => "getByPlaceholder(" ++ quoted s ++ ")"
  | .label s => "getByLabel(" ++ quoted s ++ ")"
  | .testId s => "getByTestId(" ++ quoted s ++ ")"
  | .text s => "getByText(" ++ quoted s ++ ")"

/-- Roles that are worth naming when an element states them. -/
def explicitRoles : List String :=
  ["button", "link", "checkbox", "radio", "textbox", "combobox", "listbox", "menuitem"]

/-- Types of inputs that are buttons. -/
def buttonTypes : List String :=
  ["submit", "button", "reset"]

/-- A text at least this long is no name for a stated role. -/
def maxRoleName : Nat := 50

/-- A text at least this long is no locator of its own. -/
def maxText : Nat := 30

/-- The first line of an element's text without blanks around it, unless nothing is left. -/
def line? (e : Element) : Option (List Char) :=
  (e.firstLine?.map Text.trim).filter (· ≠ [])

def shortLine? (limit : Nat) (e : Element) : Option String :=
  ((line? e).filter (·.length < limit)).map String.ofList

def ariaLabel? (e : Element) : Option String :=
  e.attribute? "aria-label"

def placeholder? (e : Element) : Option Locator :=
  (e.attribute? "placeholder").map placeholder

/-- By the role that the element states. -/
def statedRole? (e : Element) : Option Locator := do
  let r ← (e.attribute? "role").filter (explicitRoles.contains ·)
  let name ← ariaLabel? e <|> shortLine? maxRoleName e
  some (role r name)

/-- By the role that the tag implies. -/
def impliedRole? (e : Element) : Option Locator := do
  let r ←
    if e.tag = "button" then some "button"
    else if e.tag = "a" ∧ e.href.any (· ≠ "") then some "link"
    else none
  let name ← ariaLabel? e <|> (line? e).map String.ofList
  some (role r name)

def inputType (e : Element) : String :=
  let stated := (e.inputType <|> e.attribute? "type").getD "text"
  String.ofList (Text.lower stated.toList)

def input? (e : Element) : Option Locator :=
  if e.tag = "input" then
    (if buttonTypes.contains (inputType e) then
      (e.value.filter (· ≠ "")).map (role "button")
    else none)
    <|> placeholder? e
    <|> (ariaLabel? e).map label
    <|> ((e.label.map fun l => Text.trim l.toList).filter (· ≠ [])).map
      fun l => label (String.ofList l)
  else none

def textArea? (e : Element) : Option Locator :=
  if e.tag = "textarea" then placeholder? e <|> (ariaLabel? e).map label else none

def testId? (e : Element) : Option Locator :=
  (e.attribute? "data-testid").map testId

def text? (e : Element) : Option Locator :=
  (shortLine? maxText e).map text

/-- The first rule that applies. -/
def of? (e : Element) : Option Locator :=
  statedRole? e <|> impliedRole? e <|> input? e <|> textArea? e <|> testId? e <|> text? e

end Locator

end PageWalk
