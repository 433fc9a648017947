import PageWalk.Command.Field
import PageWalk.Text.LowerCase

/-!
# What a selector means

A selector is CSS unless it says otherwise: `xpath=...`, `//...` and `(//...` are XPath,
`text="..."` finds the innermost elements with exactly that text, and `text=...` those that contain
it in any case. A text stands in XPath as a literal, and those have no escapes: one with quotes of both
kinds is put together from pieces.
-/

namespace PageWalk

set_option autoImplicit false

namespace XPath

def singleQuoted (s : List Char) : List Char :=
  '\'' :: (s ++ ['\''])

def doubleQuoted (s : List Char) : List Char :=
  '"' :: (s ++ ['"'])

/-- The expression whose value is the text. -/
def literalChars (s : List Char) : List Char :=
  if '\'' ∉ s then singleQuoted s
  else if '"' ∉ s then doubleQuoted s
  else
    let parts := (Text.pieces '\'' s).map singleQuoted
    let between := ", ".toList ++ doubleQuoted ['\''] ++ ", ".toList
    "concat(".toList ++ List.intercalate between parts ++ [')']

def literal (s : String) : String :=
  String.ofList (literalChars s.toList)

end XPath

inductive Target where
  | css (selector : String)
  | xpath (path : String)
  deriving DecidableEq, Repr

namespace Target

/-- Elements whose text is shown. -/
def candidates : String :=
  "//*[not(self::script or self::style or self::head or self::title)]"

def upperLetters : String := "'ABCDEFGHIJKLMNOPQRSTUVWXYZ'"

def lowerLetters : String := "'abcdefghijklmnopqrstuvwxyz'"

def innermost (condition : String) : Target :=
  .xpath (candidates ++ "[" ++ condition ++ "][not(.//*[" ++ condition ++ "])]")

def exactText (s : List Char) : String :=
  "normalize-space(.)=" ++ String.ofList (XPath.literalChars s)

/-- The condition that the text contains this one, whatever the case of ASCII letters. -/
def textPart (s : List Char) : String :=
  "contains(translate(normalize-space(.), " ++ upperLetters ++ ", " ++ lowerLetters ++ "), " ++
    String.ofList (XPath.literalChars (Text.lower s)) ++ ")"

def ofText (text : List Char) : Target :=
  if Text.isQuoted text then innermost (exactText (Field.unquote text))
  else innermost (textPart text)

def ofSelector (selector : String) : Target :=
  match Text.after? "xpath=".toList selector.toList with
  | some path => .xpath (String.ofList path)
  | none =>
    if "//".toList.isPrefixOf selector.toList || "(//".toList.isPrefixOf selector.toList then
      .xpath selector
    else
      match Text.after? "text=".toList selector.toList with
      | some text => ofText text
      | none => .css selector

end Target

end PageWalk
