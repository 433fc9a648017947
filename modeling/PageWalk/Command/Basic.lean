import PageWalk.Text.Numeral

/-!
# Actions

What a command asks for. `loop` and `when` wrap another action, so an action is a leaf under any
number of wrappers.
-/

namespace PageWalk

set_option autoImplicit false

/-- Where a scroll goes. -/
inductive Goal where
  | top
  | bottom
  | element (selector : String)
  deriving DecidableEq, Repr

def Goal.ofText (text : String) : Goal :=
  if text = "top" then .top else if text = "bottom" then .bottom else .element text

/-- What an expectation looks at. -/
inductive Aspect where
  | text
  | selector
  | url
  deriving DecidableEq, Repr

namespace Aspect

def name : Aspect → String
  | text => "text"
  | selector => "selector"
  | url => "url"

def ofName? (name : String) : Option Aspect :=
  [text, selector, url].find? (·.name == name)

theorem ofName?_name (a : Aspect) : ofName? a.name = some a := by
  cases a <;> decide

theorem name_of_ofName? {name : String} {a : Aspect} (h : ofName? name = some a) : a.name = name := by
  simpa using List.find?_some h

end Aspect

inductive Action where
  | click (selector : String)
  | fill (selector value : String)
  | wait (ms : UInt64)
  | goto (url : String)
  | press (key : String)
  | scroll (goal : Goal)
  | expect (aspect : Aspect) (value : String)
  | loop (count : UInt32) (body : Action)
  | when (selector : String) (body : Action)
  deriving DecidableEq, Repr

/-- The words that begin a command. -/
inductive Kind where
  | click | fill | wait | goto | press | scroll | expect | loop | when
  deriving DecidableEq, Repr

namespace Kind

def name : Kind → String
  | click => "click"
  | fill => "fill"
  | wait => "wait"
  | goto => "goto"
  | press => "press"
  | scroll => "scroll"
  | expect => "expect"
  | loop => "loop"
  | when => "if"

/-- How a command of the kind is written, as error messages show it. -/
def format : Kind → String
  | click => "click:selector"
  | fill => "fill:selector:value"
  | wait => "wait:ms"
  | goto => "goto:url"
  | press => "press:key"
  | scroll => "scroll:top|bottom|selector"
  | expect => "expect:type:value"
  | loop => "loop:count:action"
  | when => "if:selector:action"

def all : List Kind :=
  [click, fill, wait, goto, press, scroll, expect, loop, when]

def ofName? (name : String) : Option Kind :=
  all.find? (·.name == name)

theorem ofName?_name (k : Kind) : ofName? k.name = some k := by
  cases k <;> decide

theorem name_of_ofName? {name : String} {k : Kind} (h : ofName? name = some k) : k.name = name := by
  simpa using List.find?_some h

end Kind

namespace Action

def kind : Action → Kind
  | click _ => .click
  | fill _ _ => .fill
  | wait _ => .wait
  | goto _ => .goto
  | press _ => .press
  | scroll _ => .scroll
  | expect _ _ => .expect
  | loop _ _ => .loop
  | when _ _ => .when

/-- The element that a click or a fill is aimed at. -/
def aim? : Action → Option String
  | click selector => some selector
  | fill selector _ => some selector
  | _ => none

def aimedAt? (selector : String) : Action → Option Action
  | click _ => some (.click selector)
  | fill _ value => some (.fill selector value)
  | _ => none

/-- Only clicks and fills are tried again on another element. -/
def isHealable (a : Action) : Bool :=
  a.aim?.isSome

end Action

/-- A loop or a condition without its body. -/
inductive Wrapper where
  | loop (count : UInt32)
  | when (selector : String)
  deriving DecidableEq, Repr

def Wrapper.wrap : Wrapper → Action → Action
  | loop count, body => .loop count body
  | when selector, body => .when selector body

/-! ## What can be wrong with a command -/

inductive CommandError where
  /-- There is no colon. -/
  | missingDelimiter (command : String)
  /-- The word before the first colon names no kind of command. -/
  | unknownType (word : String)
  /-- A parameter that the kind needs is absent or empty. -/
  | missingParameter (kind : Kind) (params : String)
  | invalidNumber (kind : Kind) (value : String)
  /-- An expectation that looks at nothing known. -/
  | unknownExpectation (word : String)
  deriving DecidableEq, Repr

def CommandError.message : CommandError → String
  | missingDelimiter command => s!"Invalid action format: {command}"
  | unknownType word => s!"Unknown action type: {word}"
  | missingParameter kind params =>
    s!"Invalid {kind.name} params: {params}. Format: {kind.format}"
  | invalidNumber kind value => s!"Invalid number for {kind.name}: {value}"
  | unknownExpectation word =>
    s!"Unknown expectation type: {word}. Expected one of: text, selector, url"

end PageWalk
