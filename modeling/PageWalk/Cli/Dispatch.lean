import PageWalk.Cli.Browse
import PageWalk.Cli.Check
import PageWalk.Cli.Configure
import PageWalk.Cli.Sessions

/-!
# The command line

Reads a command line, carries it out and tells how the program ends. A failure is written as JSON,
with the exit code that its cause gives; a command line that cannot be read writes nothing.
-/

namespace PageWalk.Cli

set_option autoImplicit false

/-- The exit code for a command line that cannot be read. -/
def usageCode : Nat := 2

def failureLine (v : Verdict) : String :=
  (Json.obj [("error", .bool true), ("exit_code", .int v.exitCode),
    ("message", .str v.message)]).compact

def perform (settings : Settings) (configPath dataDirectory : String) :
    CliRequest → MachineProgram (Except Failure Unit)
  | .run request => Browse.run settings (settings.store dataDirectory) request
  | .interact url session choice =>
    Browse.interact settings (settings.store dataDirectory) url session choice
  | .generate session prompt output =>
    Machine.desk (Generate.run (settings.store dataDirectory) session prompt output)
  | .check commands format => Machine.desk (Check.run commands format)
  | .session request => Machine.desk (Sessions.run (settings.store dataDirectory) request)
  | .settings request => Machine.desk (Configure.run settings configPath dataDirectory request)

/-- The exit code of what was done; a failure is told. -/
def conclude : Except Failure Unit → DeskProgram Nat
  | .ok _ => pure 0
  | .error failure => do
    let verdict := Verdict.of failure
    Desk.writeLine (failureLine verdict)
    Desk.warnLine s!"Error: {verdict.message}"
    pure verdict.exitCode

/-- Carries out a command line and gives the exit code. -/
def run (dataDirectory : String) (args : List String) : MachineProgram Nat := do
  match CliRequest.read args with
  | none => pure usageCode
  | some (request, configPath) =>
    let path := configPath.getD Settings.usualFile
    let settings ← Machine.files (Settings.load path)
    let result ← perform settings path dataDirectory request
    Machine.desk (conclude result)

end PageWalk.Cli
