import PageWalk.Cli.Dispatch
import Std.Time.DateTime.Timestamp

/-!
# The program

Answers what commands ask of files and of the console by those of this machine. No browser driver
can be reached from here, so commands that need one end by telling so.
-/

namespace PageWalk.Host

set_option autoImplicit false

def fileError : IO.Error → FileError
  | .noFileOrDirectory _ _ _ => .notFound
  | .alreadyExists _ _ _ => .alreadyThere
  | .inappropriateType _ 20 _ => .notADirectory
  | .inappropriateType _ _ _ => .isADirectory
  | .permissionDenied _ code _ => .refused s!"Permission denied (os error {code})"
  | e => .refused (toString e)

/-- The result of an action on files, or why it was refused. -/
def attempt {α : Type} (action : IO α) : IO (Except FileError α) := do
  match ← action.toBaseIO with
  | .ok a => pure (.ok a)
  | .error e => pure (.error (fileError e))

def readText (path : String) : IO (Except FileError String) := do
  match ← attempt (IO.FS.readBinFile path) with
  | .error e => pure (.error e)
  | .ok bytes =>
    match String.fromUTF8? bytes with
    | some text => pure (.ok text)
    | none => pure (.error .notText)

def isThere (path : String) : IO Bool := do
  match ← (IO.FS.realPath path).toBaseIO with
  | .ok _ => pure true
  | .error _ => pure false

def names (path : String) : IO (List String) := do
  let directory ← IO.FS.realPath path
  let entries ← directory.readDir
  pure (entries.toList.map fun entry => entry.fileName)

def modified (path : String) : IO Calendar.Moment := do
  let file ← IO.FS.realPath path
  let time := (← file.metadata).modified
  pure (time.sec * Calendar.nanosecondsPerSecond + time.nsec.toNat)

def answerFile : (call : FileCall) → IO call.Reply
  | .read path => readText path
  | .write path content => attempt (IO.FS.writeFile path content)
  | .writeBytes path content => attempt (IO.FS.writeBinFile path ⟨content.toArray⟩)
  | .makeDirectories path => attempt (IO.FS.createDirAll path)
  | .remove path => attempt (IO.FS.removeFile path)
  | .isThere path => isThere path
  | .list path => attempt (names path)
  | .modified path => do
    match ← attempt (modified path) with
    | .ok time => pure (some time)
    | .error _ => pure none

/-- More lines than can be entered. -/
def lineBound : Nat := 0x10000000000000000

def withoutEnd (line : String) : List Char :=
  match line.toList.reverse with
  | '\n' :: '\r' :: rest => rest.reverse
  | '\n' :: rest => rest.reverse
  | rest => rest.reverse

def readLine : IO (Except LineError (Option (List Char))) := do
  let input ← IO.getStdin
  match ← input.getLine.toBaseIO with
  | .error _ => pure (.error .notText)
  | .ok line => pure (.ok (if line.isEmpty then none else some (withoutEnd line)))

def write (stream : IO.FS.Stream) (text : String) : IO Unit := do
  stream.putStr text
  stream.flush

def clock : IO Int := do
  let now ← Std.Time.Timestamp.now
  pure now.toMillisecondsSinceUnixEpoch.val

def answerConsole : (call : ConsoleCall) → IO call.Reply
  | .lineBound => pure lineBound
  | .readLine => readLine
  | .write text => do write (← IO.getStdout) text
  | .warn text => do write (← IO.getStderr) text
  | .clock => clock

def answer : (q : machineSignature.Ask) → IO (machineSignature.Answer q)
  | .inl (.inl call) => answerFile call
  | .inl (.inr call) => answerConsole call
  | .inr call => pure (unreachable call ()).1

def dataDirectory : IO String := do
  match ← IO.getEnv "XDG_DATA_HOME", ← IO.getEnv "HOME" with
  | some data, home =>
    if data.startsWith "/" then pure data else pure (inHome home)
  | none, home => pure (inHome home)
where
  inHome : Option String → String
    | some home => FilePath.join home ".local/share"
    | none => "."

end PageWalk.Host

def main (args : List String) : IO UInt32 := do
  let data ← PageWalk.Host.dataDirectory
  let code ← (PageWalk.Cli.run data args).runM PageWalk.Host.answer
  pure code.toUInt32
