import PageWalk.Page.Fault
import PageWalk.Program

/-!
# Files

What is asked of the files of a machine, and why it may refuse.
-/

namespace PageWalk

set_option autoImplicit false

inductive FileError where
  | notFound
  | alreadyThere
  | notADirectory
  | isADirectory
  | nameTooLong
  | zeroInName
  | notText
  /-- Any other reason, in the words of the machine. -/
  | refused (text : String)
  deriving DecidableEq, Repr

namespace FileError

def text : FileError → String
  | notFound => "No such file or directory (os error 2)"
  | alreadyThere => "File exists (os error 17)"
  | notADirectory => "Not a directory (os error 20)"
  | isADirectory => "Is a directory (os error 21)"
  | nameTooLong => "File name too long (os error 36)"
  | zeroInName => "file name contained an unexpected NUL byte"
  | notText => "stream did not contain valid UTF-8"
  | refused text => text

def fault (e : FileError) : Fault :=
  ⟨e.text, []⟩

end FileError

inductive FileCall where
  | read (path : String)
  | write (path content : String)
  | writeBytes (path : String) (content : List UInt8)
  /-- Makes a directory and those that it lies in, where they are missing. -/
  | makeDirectories (path : String)
  | remove (path : String)
  /-- Whether there is a file or a directory. -/
  | isThere (path : String)
  /-- The names in a directory, in any order. -/
  | list (path : String)
  /-- When a file was last written, in nanoseconds since the beginning of 1970. -/
  | modified (path : String)

def FileCall.Reply : FileCall → Type
  | read _ => Except FileError String
  | isThere _ => Bool
  | list _ => Except FileError (List String)
  | modified _ => Option Int
  | _ => Except FileError Unit

def fileSignature : Signature where
  Ask := FileCall
  Answer := FileCall.Reply

abbrev FileProgram (α : Type) := Program fileSignature α

def FileCall.make (call : FileCall) : FileProgram call.Reply :=
  Program.call (S := fileSignature) call

namespace Files

def read (path : String) : FileProgram (Except FileError String) :=
  (FileCall.read path).make

def write (path content : String) : FileProgram (Except FileError Unit) :=
  (FileCall.write path content).make

def writeBytes (path : String) (content : List UInt8) : FileProgram (Except FileError Unit) :=
  (FileCall.writeBytes path content).make

def makeDirectories (path : String) : FileProgram (Except FileError Unit) :=
  (FileCall.makeDirectories path).make

def remove (path : String) : FileProgram (Except FileError Unit) :=
  (FileCall.remove path).make

def isThere (path : String) : FileProgram Bool :=
  (FileCall.isThere path).make

def list (path : String) : FileProgram (Except FileError (List String)) :=
  (FileCall.list path).make

def modified (path : String) : FileProgram (Option Int) :=
  (FileCall.modified path).make

end Files

/-- What a refusal means for what was being done. -/
def FileError.within {α : Type} (context : String) (reply : Except FileError α) : Except Fault α :=
  Except.within context (reply.mapError fault)

end PageWalk
