import PageWalk.Command.Parser
import PageWalk.Session.Record
import PageWalk.TestSource.Statement

/-!
# A test from a history

A step repeats a record of a history: every record is one, but for a `goto` that comes right after one to
the same place. A test has one statement for each step, in order, and a comment for one that is no command.
-/

namespace PageWalk.TestSource

set_option autoImplicit false

/-! ## Steps -/

structure Step where
  record : Record
  action : Except CommandError Action

def Step.place? (s : Step) : Option String :=
  match s.action with
  | .ok (.goto url) => some url
  | _ => none

def Step.ofRecord (r : Record) : Step :=
  ⟨r, Command.parse r.command⟩

/-- The steps of a history, after a step that went to `last`. -/
def stepsAfter (last : Option String) : History → List Step
  | [] => []
  | r :: rest =>
    let step := Step.ofRecord r
    if step.place?.isSome ∧ step.place? = last then stepsAfter last rest
    else step :: stepsAfter step.place? rest

def steps (history : History) : List Step :=
  stepsAfter none history

/-- A text with a blank in place of each line break. -/
def oneLine (s : String) : String :=
  String.ofList (s.toList.map fun c => if c = '\r' ∨ c = '\n' then ' ' else c)

/-! ## Tests -/

def opening : List String :=
  ["import \x7b test, expect \x7d from '@playwright/test';", "",
    "test('generated test', async (\x7b page \x7d) => \x7b"]

def closing : String := "\x7d);"

def comment (command : String) (e : CommandError) : String :=
  "// Failed to parse command '" ++ oneLine command ++ "': " ++ oneLine e.message

def Step.statement (s : Step) : String :=
  match s.action with
  | .ok action => action.statement s.record.locator
  | .error e => comment s.record.command e

def Step.block (s : Step) : String :=
  String.ofList (Text.indent s.statement.toList)

def test (history : History) : String :=
  joined "\n" (opening ++ (steps history).map Step.block ++ [closing])

end PageWalk.TestSource
