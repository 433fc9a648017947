import PageWalk.Text.Direction
import PageWalk.Text.Joining
import PageWalk.Url.Domain.Folding
import PageWalk.Url.Punycode

/-!
# Labels

A name is a row of labels. A label beyond ASCII has a second, encoded form in ASCII, and can be
given in either form.
-/

namespace PageWalk.Url.Domain

set_option autoImplicit false

/-- Whether a joiner may stand here, given the characters before it with the nearest first, and those after
it. -/
def joinerFits (before : List Char) (joiner : Char) (rest : List Char) : Bool :=
  before.head?.any Text.isVirama ||
    -- one that keeps letters apart may also stand between two that would join
    joiner == '\u200C' && Text.reachesJoining Text.joinsNext before &&
      Text.reachesJoining Text.joinsPrevious rest

/-- Whether all joiners of a label may stand where they are. -/
def joinersFit (before : List Char) : List Char → Bool
  | [] => true
  | c :: rest =>
    (c != '\u200C' && c != '\u200D' || joinerFits before c rest) && joinersFit (c :: before) rest

/-- Whether a label beyond ASCII can be written: it starts with no mark, its joiners may stand where
they are, and it has at most a thousand characters. -/
def isWritable (label : List Char) : Bool :=
  !label.head?.any Text.isMark && joinersFit [] label && label.length ≤ 1000

/-- What an encoded label starts with. -/
def encodedLead : List Char :=
  "xn--".toList

def isAscii (s : List Char) : Bool :=
  s.all (·.toNat < 0x80)

/-- The text of an encoded label. It has to be one that needs the encoding and is in folded form. -/
def decoded? (coded : List Char) : Option (List Char) :=
  if coded.length ≤ 2000 then
    (Punycode.decode? coded).filter fun text =>
      !isAscii text && fold? text == some text && isWritable text
  else none

/-- A label as it reads and as it is written in ASCII. -/
structure Label where
  text : List Char
  ascii : List Char
  deriving DecidableEq, Repr

namespace Label

/-- Reads a label in folded form. -/
def ofFolded? (s : List Char) : Option Label :=
  match Text.after? encodedLead s with
  | some coded => (decoded? coded).map (⟨·, s⟩)
  | none =>
    if isAscii s then some ⟨s, s⟩
    else if isWritable s then some ⟨s, encodedLead ++ Punycode.encode s⟩
    else none

/-- Whether a label has something that is written from right to left. -/
def hasRightToLeft (label : Label) : Bool :=
  label.text.any fun c =>
    let direction := Text.Direction.ofChar c
    direction = .rightToLeft || direction = .arabicNumber

/-- Whether the directions in a label cannot be misread beside labels of the other direction. Marks at the end
do not count. -/
def isDirected (label : Label) : Bool :=
  match label.text.map Text.Direction.ofChar with
  | [] => true
  | first :: rest =>
    let body := (rest.reverse.dropWhile (· = .mark)).reverse
    match first with
    | .leftToRight =>
      body.all (fun d => d != .rightToLeft && d != .arabicNumber) &&
        body.getLast?.all fun d => d = .leftToRight || d = .europeanNumber
    | .rightToLeft =>
      !body.contains .leftToRight && body.getLast?.all (· != .neutral) &&
        !(body.contains .europeanNumber && body.contains .arabicNumber)
    | _ => false

end Label

end PageWalk.Url.Domain
