import PageWalk.Report.Form
import PageWalk.Report.PageErrors
import PageWalk.Run.Batch

/-!
# Explorations

A run of commands and expectations, and then a report of what the page shows. Commands and
expectations that fail are part of the report; only the steps that make the report can fail as a
whole.
-/

namespace PageWalk

set_option autoImplicit false

def Result.toJson (r : Result) : Json :=
  .obj (("success", .bool r.isSuccess) ::
    (Json.optional "error" r.error? ++ Json.optional "semanticLocator" r.locator?))

def Outcome.toJson (o : Outcome) : Json :=
  .obj ([("command", .str o.command), ("result", o.result.toJson)] ++
    Json.optional "healedCommand" o.healed)

/-- What is collected besides the summary. -/
structure ExploreOptions where
  monitor : Bool := false
  forms : Bool := false
  deriving DecidableEq, Repr

structure Report where
  actions : List Outcome
  checks : List Outcome
  page : Summary
  forms : Option (List Form)
  errors : Option PageErrors
  deriving DecidableEq, Repr

namespace Report

/-- What is reported when the page was watched and something went wrong on it. -/
def monitoringFailure? (r : Report) : Option String :=
  match r.errors with
  | some errors =>
    if errors.isEmpty then none
    else some (s!"Monitoring failed with {errors.count} errors:\n" ++ joined "\n" errors.messages)
  | none => none

/-- The parts that are there only when they were asked for. -/
def extras (r : Report) : List (String × Json) :=
  (r.forms.map fun forms => ("forms", Json.arr (forms.map Form.toJson))).toList ++
    (r.errors.map fun errors => ("errors", errors.toJson)).toList

def toJson (r : Report) : Json :=
  .obj ([
    ("actions", .arr (r.actions.map Outcome.toJson)),
    ("expectations", .arr (r.checks.map Outcome.toJson)),
    ("page", r.page.toJson)] ++ r.extras)

end Report

namespace Exploration

/-- Goes on when a step succeeded. -/
def andThen {α β : Type} (step : PageProgram (Except Fault α))
    (next : α → PageProgram (Except Fault β)) : PageProgram (Except Fault β) := do
  match ← step with
  | .ok a => next a
  | .error fault => pure (.error fault)

/-- Starts to watch the page if it is to be watched. -/
def watch (monitor : Bool) : PageProgram (Except Fault (Option PageErrors)) := do
  if monitor then
    let reply ← Monitor.install
    pure (reply.map fun _ => some {})
  else pure (.ok none)

/-- Takes the errors so far if the page is watched. -/
def note : Option PageErrors → PageProgram (Except Fault (Option PageErrors))
  | none => pure (.ok none)
  | some known => do
    let (reply, errors) ← Monitor.drain known
    pure (reply.map fun _ => some errors)

/-- Carries out commands one by one, and takes the errors after each. -/
def perform : List String → Option PageErrors →
    PageProgram (Except Fault (List Outcome × Option PageErrors))
  | [], errors => pure (.ok ([], errors))
  | command :: rest, errors => do
    let outcome ← Batch.execute command
    andThen (note errors) fun errors =>
    andThen (perform rest errors) fun (outcomes, errors) =>
    pure (.ok (outcome :: outcomes, errors))

def forms (wanted : Bool) : PageProgram (Except Fault (Option (List Form))) := do
  if wanted then
    let reply ← Form.analyze
    pure (reply.map some)
  else pure (.ok none)

/-- Runs commands, checks expectations and reports on the page. -/
def run (commands expectations : List String) (options : ExploreOptions) :
    PageProgram (Except Fault Report) :=
  andThen (watch options.monitor) fun errors =>
  andThen (perform commands errors) fun (actions, errors) => do
    let checks ← Batch.checkAll expectations
    andThen Summary.take fun page =>
      andThen (forms options.forms) fun forms =>
      andThen (note errors) fun errors =>
      pure (.ok { actions, checks, page, forms, errors })

end Exploration

end PageWalk
