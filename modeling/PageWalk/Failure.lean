import PageWalk.Command.Basic
import PageWalk.Page.Fault

/-!
# Failures and exit codes

A failure keeps its cause under what was being done when it came up. `Verdict.of` decides how the
program ends: a bad command and unmet expectations are known by their cause, everything else by the
words of the outermost message.
-/

namespace PageWalk

set_option autoImplicit false

inductive Cause where
  | command (e : CommandError)
  | unmet (failed total : Nat)
  | fault (f : Fault)
  deriving DecidableEq, Repr

def unmetMessage (failed total : Nat) : String :=
  s!"{failed} of {total} expectations failed"

def Cause.message : Cause → String
  | command e => e.message
  | unmet failed total => unmetMessage failed total
  | fault f => f.message

structure Failure where
  /-- What was being done, the outermost first. -/
  contexts : List String
  cause : Cause
  deriving DecidableEq, Repr

namespace Failure

def ofFault (f : Fault) : Failure := ⟨[], .fault f⟩

def ofMessage (message : String) : Failure := ofFault ⟨message, []⟩

def within (context : String) (f : Failure) : Failure :=
  { f with contexts := context :: f.contexts }

def message (f : Failure) : String :=
  f.contexts.headD f.cause.message

end Failure

/-- How the program ends when it fails. -/
inductive Verdict where
  | command (e : CommandError)
  | unreachable (message : String)
  | timeout (message : String)
  | unmet (failed total : Nat)
  | other (f : Failure)
  deriving DecidableEq, Repr

namespace Verdict

/-- Words that tell that a browser driver could not be reached. -/
def unreachableWords : List String :=
  ["Failed to connect to WebDriver", "Cannot connect to", "geckodriver", "chromedriver"]

def timeoutWords : List String :=
  ["timeout", "timed out"]

def mentions (words : List String) (message : String) : Bool :=
  words.any fun word => Text.occursIn word.toList message.toList

def of (f : Failure) : Verdict :=
  match f.cause with
  | .command e => command e
  | .unmet failed total => unmet failed total
  | .fault _ =>
    if mentions unreachableWords f.message then unreachable f.message
    else if mentions timeoutWords f.message then timeout f.message
    else other f

def exitCode : Verdict → Nat
  | command _ => 2
  | unreachable _ => 4
  | timeout _ => 5
  | unmet _ _ => 6
  | other _ => 1

def message : Verdict → String
  | command e => e.message
  | unreachable message => s!"WebDriver connection failed: {message}"
  | timeout message => s!"Operation timed out: {message}"
  | unmet failed total => unmetMessage failed total
  | other f => f.message

/-- The message of what lies below a verdict. -/
def below? : Verdict → Option String
  | command e => some e.message
  | other f => some f.message
  | _ => none

/-- A verdict that is raised as a failure itself. -/
def raise : Verdict → Failure
  | unmet failed total => ⟨[], .unmet failed total⟩
  | v => .ofFault ⟨v.message, v.below?.toList⟩

end Verdict

end PageWalk
