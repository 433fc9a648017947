import PageWalk.Cli.Machine
import PageWalk.Cli.Request
import PageWalk.Command.Parser
import PageWalk.Command.Printer
import PageWalk.Json.Printer
import PageWalk.TestSource.Statement

/-!
# Checking commands

Commands are read but not carried out. All of them are looked at, and the first that is wrong
decides how the check ends.
-/

namespace PageWalk

set_option autoImplicit false

def Goal.toJson : Goal → Json
  | top => .str "top"
  | bottom => .str "bottom"
  | element selector => .obj [("selector", .str selector)]

/-- An object whose `type` is the word that begins the command. -/
def Action.toJson : Action → Json
  | click selector => .obj [("type", .str "click"), ("selector", .str selector)]
  | fill selector value =>
    .obj [("type", .str "fill"), ("selector", .str selector), ("value", .str value)]
  | wait ms => .obj [("type", .str "wait"), ("ms", .int ms.toNat)]
  | goto url => .obj [("type", .str "goto"), ("url", .str url)]
  | press key => .obj [("type", .str "press"), ("key", .str key)]
  | scroll goal => .obj [("type", .str "scroll"), ("target", goal.toJson)]
  | expect aspect value =>
    .obj [("type", .str "expect"), ("kind", .str aspect.name), ("value", .str value)]
  | loop count body =>
    .obj [("type", .str "loop"), ("count", .int count.toNat), ("action", body.toJson)]
  | when selector body =>
    .obj [("type", .str "if"), ("selector", .str selector), ("action", body.toJson)]

namespace Check

structure Finding where
  command : String
  parsed : Except CommandError Action

def find (command : String) : Finding :=
  ⟨command, Command.parse command⟩

def Finding.toJson (f : Finding) : Json :=
  match f.parsed with
  | .ok action => .obj [("action", action.toJson), ("canonical", .str action.command),
      ("command", .str f.command), ("valid", .bool true)]
  | .error e =>
    .obj [("command", .str f.command), ("error", .str e.message), ("valid", .bool false)]

def Finding.text (f : Finding) : String :=
  match f.parsed with
  | .ok action => s!"✓ {f.command}  =>  {action.statement none}\n"
  | .error e => s!"✗ {f.command}: {e.message}\n"

def report (format : OutputFormat) (findings : List Finding) : String :=
  match format with
  | .json => (Json.arr (findings.map Finding.toJson)).normal.pretty ++ "\n"
  | .simple => String.join (findings.map Finding.text)

def firstError? (findings : List Finding) : Option CommandError :=
  findings.findSome? fun f =>
    match f.parsed with
    | .error e => some e
    | .ok _ => none

def verdict (findings : List Finding) : Except Failure Unit :=
  match firstError? findings with
  | some e => .error ⟨[], .command e⟩
  | none => .ok ()

def run (commands : List String) (format : OutputFormat) : DeskProgram (Except Failure Unit) := do
  let findings := commands.map find
  Desk.write (report format findings)
  pure (verdict findings)

end Check

end PageWalk
