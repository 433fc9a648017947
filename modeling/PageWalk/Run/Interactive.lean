import PageWalk.Session.Record
import PageWalk.TestSource.Prompt
import PageWalk.TestSource.Test
import PageWalk.World.Console

/-!
# The interactive loop

Commands are read line by line, carried out on a page and recorded when they work. A few words ask
about the record instead, and `exit` or the end of the input ends the loop.
-/

namespace PageWalk.Interactive

set_option autoImplicit false

/-- Programs over a page and a console. -/
abbrev TalkProgram (α : Type) := Program (pageSignature.sum consoleSignature) α

def write (text : String) : TalkProgram Unit :=
  (ConsoleCall.write text).make.right

def clock : TalkProgram Int :=
  ConsoleCall.clock.make.right

def readLine : TalkProgram (Except LineError (Option (List Char))) :=
  ConsoleCall.readLine.make.right

def lineBound : TalkProgram Nat :=
  ConsoleCall.lineBound.make.right

def greeting : String :=
  "Starting Scout REPL...\nType \"help\" for commands, \"exit\" to quit.\n"

def promptMark : String := "scout> "

def farewell : String := "Exiting REPL.\n"

def help : String :=
  "
Available commands:
  click:<selector>         Click an element
  fill:<selector>:<val>    Fill an input
  press:<key>              Press a key
  scroll:<target>          Scroll to element or 'top'/'bottom'
  wait:<ms>                Wait for X milliseconds
  goto:<url>               Navigate to URL
  expect:<type>:<val>      Verify state (text/selector/url)
  loop:<n>:<command>       Repeat a command up to n times
  if:<selector>:<command>  Run a command only if the selector matches
  history                  Show recorded commands
  codegen                  Print a Playwright test for the recorded commands
  prompt                   Print an authoring prompt for the recorded commands
  exit                     Exit the REPL
"

/-- What a line asks for. -/
inductive Request where
  | nothing
  | leave
  | help
  | history
  | test
  | prompt
  | command (command : String)
  deriving DecidableEq, Repr

def Request.ofLine (line : List Char) : Request :=
  match String.ofList (Text.trim line) with
  | "" => nothing
  | "exit" | "quit" => leave
  | "help" => help
  | "history" => history
  | "codegen" => test
  | "prompt" => prompt
  | text => command text

/-- A number with blanks before it, at least three characters in all. -/
def padded (n : Nat) : String :=
  String.ofList ((Nat.toDigits 10 n).leftpad 3 ' ')

def historyLine (r : Record) (number : Nat) : String :=
  let locator := match r.locator with
    | some l => s!"  [{l}]"
    | none => ""
  s!"{padded number}. {r.command}{locator}\n"

def historyText (history : History) : String :=
  if history.isEmpty then "No commands recorded yet\n"
  else String.join ((history.zipIdx 1).map fun (r, number) => historyLine r number)

def report (o : Outcome) : String :=
  match o.result with
  | .failure error => s!"❌ Error: {error}\n"
  | .success locator =>
    let healed := match o.healed with
      | some command => s!"   Healed: {command}\n"
      | none => ""
    let found := match locator with
      | some l => s!"   Semantic Locator: {l}\n"
      | none => ""
    "✅ Success\n" ++ healed ++ found

/-- Carries out a command and records it when it works. -/
def perform (history : History) (command : String) : TalkProgram History := do
  let outcome ← (Batch.execute command).left
  write (report outcome)
  let time ← clock
  pure (history.note time outcome)

/-- Reads and answers up to so many lines. -/
def loop : Nat → History → TalkProgram (Except LineError Unit × History)
  | 0, history => do
    write farewell
    pure (.ok (), history)
  | n + 1, history => do
    write promptMark
    match ← readLine with
    | .error e => pure (.error e, history)
    | .ok none => do
      write "\n"
      write farewell
      pure (.ok (), history)
    | .ok (some line) =>
      match Request.ofLine line with
      | .nothing => loop n history
      | .leave => do
        write farewell
        pure (.ok (), history)
      | .help => do
        write (help ++ "\n")
        loop n history
      | .history => do
        write (historyText history)
        loop n history
      | .test => do
        write (TestSource.test history ++ "\n")
        loop n history
      | .prompt => do
        write (TestSource.prompt history)
        loop n history
      | .command command => do
        let history ← perform history command
        loop n history

/-- Runs until the input ends or asks to leave; a line that is not text ends it with an error. -/
def run (history : History) : TalkProgram (Except LineError Unit × History) := do
  write greeting
  let bound ← lineBound
  loop (bound + 1) history

end PageWalk.Interactive
