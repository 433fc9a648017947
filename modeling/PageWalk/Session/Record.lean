import PageWalk.Json.Decode
import PageWalk.Run.Batch

/-!
# The record of a session

Commands that worked, in order, each with the locator of the element it was aimed at and the time in
milliseconds. The record only grows, and a command that failed is not kept, since it cannot be
replayed.
-/

namespace PageWalk

set_option autoImplicit false

structure Record where
  command : String
  locator : Option String
  time : Int
  deriving DecidableEq, Repr

namespace Record

/-- Older files call the command `action` and the locator `semantic`. -/
def ofJson (j : Json) : Decoded Record := do
  let fields ← j.asFields "a record" 3
  return {
    command := ← fields.required ⟨["command", "action"], 0⟩ Json.asString
    locator := ← fields.withDefault ⟨["semanticLocator", "semantic"], 1⟩ none
      (Json.asOption Json.asString)
    time := ← fields.required ⟨["timestamp"], 2⟩ Json.asInt64 }

def toJson (r : Record) : Json :=
  .obj ([("command", .str r.command)] ++ Json.optional "semanticLocator" r.locator ++
    [("timestamp", .int r.time)])

/-- What is kept of an outcome at a time. -/
def ofOutcome? (time : Int) (o : Outcome) : Option Record :=
  match o.result with
  | .success locator => some ⟨o.replay, locator, time⟩
  | .failure _ => none

end Record

abbrev History := List Record

def History.note (history : History) (time : Int) (o : Outcome) : History :=
  history ++ (Record.ofOutcome? time o).toList

end PageWalk
