import PageWalk.Command.Parser
import PageWalk.Command.Printer
import PageWalk.Run.Execution
import PageWalk.Run.Healing

/-!
# Batches of commands

Commands are carried out strictly in order and none is left out because another failed. A click or a
fill that fails is tried once more on a healed selector.
-/

namespace PageWalk

set_option autoImplicit false

/-- What happened to one command. -/
structure Outcome where
  /-- The command as it was submitted. -/
  command : String
  result : Result
  /-- The command that worked instead, after healing. -/
  healed : Option String := none
  deriving DecidableEq, Repr

/-- The command that does the same again. -/
def Outcome.replay (o : Outcome) : String :=
  o.healed.getD o.command

namespace Batch

/-- Tries a failed action on a healed selector: the new command and what came of it. -/
def retry (action : Action) : PageProgram (Option (String × Result)) := do
  match action.aim? with
  | none => pure none
  | some selector =>
    match ← Healing.heal selector with
    | none => pure none
    | some healed =>
      match action.aimedAt? healed with
      | none => pure none
      | some aimed =>
        let command := aimed.command
        match Command.parse command with
        | .error e => pure (some (command, .failure e.message))
        | .ok again => do
          let result ← again.execute
          pure (some (command, result))

def bothFailed (error healed again : String) : String :=
  s!"{error}; healed command {healed} also failed: {again}"

/-- Carries out an action, and a click or a fill that fails once more after healing. -/
def attempt (command : String) (action : Action) : PageProgram Outcome := do
  match ← action.execute with
  | .success locator => pure { command, result := .success locator }
  | .failure error =>
    match ← retry action with
    | none => pure { command, result := .failure error }
    | some (healed, .success locator) =>
      pure { command, result := .success locator, healed := some healed }
    | some (healed, .failure again) =>
      pure { command, result := .failure (bothFailed error healed again) }

def execute (command : String) : PageProgram Outcome :=
  match Command.parse command with
  | .error e => pure { command, result := .failure e.message }
  | .ok action => attempt command action

def perform : List String → PageProgram (List Outcome)
  | [] => pure []
  | command :: rest => do
    let outcome ← execute command
    let outcomes ← perform rest
    pure (outcome :: outcomes)

/-- An expectation as a command: the word `expect` is added where it is missing. -/
def expectation (text : String) : String :=
  if "expect:".toList.isPrefixOf text.toList then text else "expect:" ++ text

def check (text : String) : PageProgram Outcome :=
  match Command.parse (expectation text) with
  | .error e => pure { command := expectation text, result := .failure e.message }
  | .ok action => do
    let result ← action.execute
    pure { command := expectation text, result }

def checkAll : List String → PageProgram (List Outcome)
  | [] => pure []
  | text :: rest => do
    let outcome ← check text
    let outcomes ← checkAll rest
    pure (outcome :: outcomes)

def failedCount (checks : List Outcome) : Nat :=
  (checks.filter fun c => !c.result.isSuccess).length

def allPassed (checks : List Outcome) : Bool :=
  checks.all fun c => c.result.isSuccess

end Batch

end PageWalk
