import PageWalk.Cli.Request
import PageWalk.Json.Printer
import PageWalk.Failure
import PageWalk.Report.Exploration

/-!
# Reports of runs

How the report of a run is written, as JSON or for people.
-/

namespace PageWalk.RunReport

set_option autoImplicit false

def json (url : String) (r : Report) : Json :=
  .obj ([
    ("actions", .arr (r.actions.map Outcome.toJson)),
    ("expectations", .arr (r.checks.map Outcome.toJson)),
    ("page", r.page.toJson),
    ("passed", .bool (Batch.allPassed r.checks)),
    ("url", .str url)] ++ r.extras)

def outcomeText (o : Outcome) : String :=
  match o.result with
  | .failure error => s!"  ✗ {o.command}: {error}\n"
  | .success locator =>
    let healed := match o.healed with
      | some command => s!"      healed as {command}\n"
      | none => ""
    let found := match locator with
      | some l => s!"      {l}\n"
      | none => ""
    s!"  ✓ {o.command}\n" ++ healed ++ found

def outcomesText (outcomes : List Outcome) : String :=
  String.join (outcomes.map outcomeText)

def elementText (e : VisibleElement) : String :=
  s!"  [{e.region}] {e.tag} \"" ++ e.label ++ "\"\n"

def pageText (page : Summary) : String :=
  let alerts := if page.alerts.isEmpty then ""
    else s!"Alerts ({page.alerts.length}):\n" ++
      String.join (page.alerts.map fun e => s!"  ! {e.label}\n")
  s!"\nPage: {page.title} ({page.url})\nInteractive elements ({page.elements.length}):\n" ++
    String.join (page.elements.map elementText) ++ alerts

def fieldText (f : FormField) : String :=
  let label := if f.label = "" then f.name else f.label
  let mark := if f.required then " *" else ""
  s!"    {f.tag} [{f.type}] {label}{mark}\n"

def formText (f : Form) : String :=
  s!"  {f.id} ({f.fields.length} inputs)\n" ++ String.join (f.fields.map fieldText)

def formsText : List Form → String
  | [] => "\nNo forms found\n"
  | forms => s!"\nForms ({forms.length}):\n" ++ String.join (forms.map formText)

def errorsText (errors : PageErrors) : String :=
  if errors.isEmpty then "\nNo console or network errors\n"
  else s!"\nErrors ({errors.count}):\n" ++
    String.join (errors.messages.map fun message => s!"  {message}\n")

def checksText (checks : List Outcome) : String :=
  if checks.isEmpty then "" else "\nExpectations:\n" ++ outcomesText checks

def closing (r : Report) : String :=
  let done := (r.actions.filter fun o => o.result.isSuccess).length
  let mark := if Batch.allPassed r.checks then "✓" else "✗"
  let passed := r.checks.length - Batch.failedCount r.checks
  s!"\nRun complete:\n  ✓ {done} of {r.actions.length} actions succeeded\n" ++
    if r.checks.isEmpty then ""
    else s!"  {mark} {passed} of {r.checks.length} expectations passed\n"

def text (url : String) (format : OutputFormat) (r : Report) : String :=
  match format with
  | .json => (json url r).normal.pretty ++ "\n"
  | .simple =>
    outcomesText r.actions ++ checksText r.checks ++ pageText r.page ++
      (r.forms.map formsText).getD "" ++ (r.errors.map errorsText).getD "" ++ closing r

/-- How a run ends: unmet expectations first, then errors of a page that was watched. -/
def verdict (r : Report) : Except Failure Unit :=
  if Batch.allPassed r.checks then
    match r.monitoringFailure? with
    | some message => .error (.ofMessage message)
    | none => .ok ()
  else .error ⟨[], .unmet (Batch.failedCount r.checks) r.checks.length⟩

end PageWalk.RunReport
