import PageWalk.Program
import PageWalk.Text.Utf8

/-!
# Consoles

A console is read line by line and written to, and it knows the time. A line ends at a line feed,
and a carriage return just before it belongs to the line end.
-/

namespace PageWalk

set_option autoImplicit false

/-- A line that is not UTF-8. -/
inductive LineError where
  | notText
  deriving DecidableEq, Repr

def LineError.text : LineError → String
  | notText => "stream did not contain valid UTF-8"

inductive ConsoleCall where
  /-- How many lines can still be read at most. -/
  | lineBound
  /-- The next line without its end, if there is one. -/
  | readLine
  | write (text : String)
  /-- Writes to those who watch the program, apart from its output. -/
  | warn (text : String)
  /-- The time in milliseconds since 1970. -/
  | clock

def ConsoleCall.Reply : ConsoleCall → Type
  | lineBound => Nat
  | readLine => Except LineError (Option (List Char))
  | write _ => Unit
  | warn _ => Unit
  | clock => Int

def consoleSignature : Signature where
  Ask := ConsoleCall
  Answer := ConsoleCall.Reply

abbrev ConsoleProgram (α : Type) := Program consoleSignature α

def ConsoleCall.make (call : ConsoleCall) : ConsoleProgram call.Reply :=
  Program.call (S := consoleSignature) call

/-- A console whose whole input is known. -/
structure Console where
  input : List UInt8
  /-- What has been written, the latest first. -/
  output : List String := []
  warnings : List String := []
  time : Int := 0

namespace Console

def lineFeed : UInt8 := 10

def carriageReturn : UInt8 := 13

/-- The bytes of the first line without its end, and what follows. -/
def splitLine : List UInt8 → List UInt8 × List UInt8
  | [] => ([], [])
  | b :: rest =>
    if b = lineFeed then ([], rest)
    else if b = carriageReturn ∧ rest.head? = some lineFeed then ([], rest.tail)
    else
      let (line, after) := splitLine rest
      (b :: line, after)

def readLine (c : Console) : Except LineError (Option (List Char)) × Console :=
  if c.input = [] then (.ok none, c)
  else
    let (line, rest) := splitLine c.input
    let reply := match Text.Utf8.decode? line with
      | some text => .ok (some text)
      | none => .error .notText
    (reply, { c with input := rest })

def respond : Responder consoleSignature Console
  | .lineBound, c => (c.input.length, c)
  | .readLine, c => c.readLine
  | .write text, c => ((), { c with output := text :: c.output })
  | .warn text, c => ((), { c with warnings := text :: c.warnings })
  | .clock, c => (c.time, c)

def written (c : Console) : String :=
  String.join c.output.reverse

end Console

end PageWalk
