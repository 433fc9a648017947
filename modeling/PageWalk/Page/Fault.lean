import PageWalk.Text.Basic

/-!
# Faults

Why a call failed: what was being done, and below it what went wrong on the way.
-/

namespace PageWalk

set_option autoImplicit false

structure Fault where
  message : String
  /-- The causes, the nearest first. -/
  causes : List String := []
  deriving DecidableEq, Repr

namespace Fault

/-- All messages, the outermost first. -/
def text (f : Fault) : String :=
  joined ": " (f.message :: f.causes)

def within (context : String) (f : Fault) : Fault :=
  ⟨context, f.message :: f.causes⟩

end Fault

/-- Adds what was being done to a fault. -/
def Except.within {α : Type} (context : String) (r : Except Fault α) : Except Fault α :=
  r.mapError (Fault.within context)

end PageWalk
