import PageWalk.Command.Field
import PageWalk.Page.Call
import PageWalk.Text.LowerCase

/-!
# Healing

When a click or a fill misses its element, the last telling word of the selector is looked for among
the elements that a user can act on, and the first one that mentions it is taken instead.
-/

namespace PageWalk.Healing

set_option autoImplicit false

/-- The maximal runs of ASCII letters and digits, the one at hand first in the accumulator. -/
def wordsFrom : List Char → List Char → List (List Char)
  | [], [] => []
  | word, [] => [word.reverse]
  | word, c :: rest =>
    if c.isAlphanum then wordsFrom (c :: word) rest
    else if word = [] then wordsFrom [] rest
    else word.reverse :: wordsFrom [] rest

def words (s : List Char) : List (List Char) :=
  wordsFrom [] s

/-- Words that do not tell which element was meant. -/
def genericWords : List (List Char) :=
  ["btn".toList, "button".toList, "input".toList, "id".toList, "class".toList]

def minKeyword : Nat := 2

/-- The last word in lower case, or the one before it if the last is generic. -/
def keywordChars (selector : List Char) : Option (List Char) :=
  let keyword :=
    match ((words selector).map (·.map Text.asciiLower)).reverse with
    | [] => []
    | [last] => last
    | last :: before :: _ => if last ∈ genericWords then before else last
  if minKeyword ≤ keyword.length then some keyword else none

def keyword? (selector : String) : Option String :=
  (keywordChars selector.toList).map String.ofList

/-- Elements among which a replacement is looked for. -/
def candidateSelectors : List String :=
  ["button", "a", "input", "[role=\"button\"]", "[role=\"link\"]", "[tabindex=\"0\"]"]

/-- Attributes that may hold the keyword, the most telling first. -/
def matchAttributes : List String :=
  ["name", "id", "placeholder", "aria-label", "data-testid", "value"]

/-- A text at least this long has to be the keyword itself. -/
def maxText : Nat := 30

/-- What an element is found by. -/
inductive Replacement where
  | text (text : List Char)
  | named (tag name : String) (value : String)
  deriving DecidableEq, Repr

def Replacement.selector : Replacement → String
  | text t => "text=" ++ String.ofList (Field.quote t)
  | named tag name value =>
    tag ++ "[" ++ name ++ "=" ++ String.ofList (Field.quote value.toList) ++ "]"

/-- The text of an element, if it holds the keyword and is short enough to be found by. -/
def byText? (keyword : List Char) (e : Element) : Option Replacement :=
  let lowered := Text.lower e.trimmedText
  if Text.occursIn keyword lowered ∧
      (lowered = keyword ∨ e.trimmedText.length < maxText) then
    some (.text e.trimmedText)
  else none

def byAttribute? (keyword : List Char) (e : Element) : Option Replacement :=
  matchAttributes.findSome? fun name => do
    let value ← e.attribute? name
    if Text.occursIn keyword (Text.lower value.toList) then some (.named e.tag name value)
    else none

/-- How the first candidate that mentions the keyword is found. -/
def replacement? (candidates : List Element) (keyword : String) : Option Replacement :=
  candidates.findSome? fun e => byText? keyword.toList e <|> byAttribute? keyword.toList e

/-- A selector for what a failed selector was probably aimed at. -/
def heal (selector : String) : PageProgram (Option String) :=
  match keyword? selector with
  | none => pure none
  | some keyword => do
    match ← (PageCall.queryAll candidateSelectors).make with
    | .error _ => pure none
    | .ok candidates => pure ((replacement? candidates keyword).map Replacement.selector)

end PageWalk.Healing
