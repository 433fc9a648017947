import PageWalk.Text.Character
import PageWalk.World.Files

/-!
# Files of commands

An argument that begins with an at sign names a file of commands, one to a line. Blank lines and
lines that begin with a number sign do not count.
-/

namespace PageWalk.CommandFile

set_option autoImplicit false

def commands (text : String) : List String :=
  let trimmed := (Text.lines text.toList).map Text.trim
  (trimmed.filter fun line => line ≠ [] ∧ line.head? ≠ some '#').map String.ofList

/-- The commands that an argument stands for. -/
def expandOne (argument : String) : FileProgram (Except Fault (List String)) :=
  match Text.after? ['@'] argument.toList with
  | none => pure (.ok [argument])
  | some name => do
    let path := String.ofList name
    let reply ← Files.read path
    pure ((FileError.within s!"Failed to read commands from file: {path}" reply).map commands)

/-- The commands that arguments stand for, in order, up to the first file that cannot be read. -/
def expand : List String → FileProgram (Except Fault (List String))
  | [] => pure (.ok [])
  | argument :: rest => do
    match ← expandOne argument with
    | .error fault => pure (.error fault)
    | .ok commands =>
      let more ← expand rest
      pure (more.map (commands ++ ·))

end PageWalk.CommandFile
