import PageWalk.Browser.Wire
import PageWalk.Failure
import PageWalk.World.Console
import PageWalk.World.Files

/-!
# What a command works with

Commands work with files and a console; some drive a browser besides.
-/

namespace PageWalk

set_option autoImplicit false

/-- Files and a console. -/
def deskSignature : Signature :=
  fileSignature.sum consoleSignature

abbrev DeskProgram (α : Type) := Program deskSignature α

namespace Desk

def files {α : Type} (p : FileProgram α) : DeskProgram α :=
  p.left

def write (text : String) : DeskProgram Unit :=
  (ConsoleCall.write text).make.right

def writeLine (line : String) : DeskProgram Unit :=
  write (line ++ "\n")

/-- Writes a line to those who watch the program. -/
def warnLine (line : String) : DeskProgram Unit :=
  (ConsoleCall.warn (line ++ "\n")).make.right

def fail {α : Type} (fault : Fault) : DeskProgram (Except Failure α) :=
  pure (.error (.ofFault fault))

end Desk

/-- Files, a console and the wire to a browser driver. -/
def machineSignature : Signature :=
  deskSignature.sum wireSignature

abbrev MachineProgram (α : Type) := Program machineSignature α

namespace Machine

def desk {α : Type} (p : DeskProgram α) : MachineProgram α :=
  p.left

def files {α : Type} (p : FileProgram α) : MachineProgram α :=
  desk (Desk.files p)

def wire {α : Type} (p : WireProgram α) : MachineProgram α :=
  p.right

/-- Goes on when a step succeeded. -/
def andThen {α β : Type} (step : MachineProgram (Except Fault α))
    (next : α → MachineProgram (Except Fault β)) : MachineProgram (Except Fault β) := do
  match ← step with
  | .ok a => next a
  | .error fault => pure (.error fault)

end Machine

end PageWalk
