import PageWalk.Browser.Start
import PageWalk.Browser.Storage
import PageWalk.Cli.CommandFile
import PageWalk.Cli.Machine
import PageWalk.Cli.RunReport
import PageWalk.Cli.Settings
import PageWalk.Run.Interactive

/-!
# Commands that drive a browser

A browser is started, the session that was named is put back into it, and whatever happens then, the
browser is closed at the end. The session is saved only when everything before has worked.
-/

namespace PageWalk.Browse

set_option autoImplicit false

open Machine

/-- The settings with what was said on the command line. -/
def chosen (settings : Settings) (choice : BrowserChoice) : Except Fault Settings := do
  let settings ← match choice.browser with
    | none => pure settings
    | some name =>
      match BrowserKind.ofText? name with
      | none => throw ⟨BrowserKind.unsupported name, []⟩
      | some kind => pure { settings with browser := kind, webdriverUrl := none }
  pure { settings with
    webdriverUrl := choice.webdriverUrl <|> settings.webdriverUrl
    headless := settings.headless && !choice.noHeadless
    viewport := choice.viewport <|> settings.viewport }

def plan (settings : Settings) (choice : BrowserChoice) : Except Fault Browser.Plan := do
  let settings ← chosen settings choice
  let viewport ← settings.viewportSize.mapError fun e => ⟨e.message, []⟩
  pure { kind := settings.browser, url := settings.url, viewport, headless := settings.headless }

def loaded (store : SessionStore) : Option String → MachineProgram Session
  | some name => files (store.load name)
  | none => pure {}

/-- Goes to a URL, and puts back what a named session holds of it. -/
def visit (session : Session) (isNamed : Bool) : Option String → MachineProgram (Except Fault Unit)
  | none => pure (.ok ())
  | some url =>
    andThen (wire (Driving.goto url)) fun _ =>
      if isNamed then wire (Storage.restore session) else pure (.ok ())

/-- Saves what the browser holds, and the record, under a name. -/
def persist (store : SessionStore) (name : String) (history : History) :
    MachineProgram (Except Fault Unit) :=
  andThen (wire (Driving.inContext "Failed to capture browser storage" Storage.capture))
    fun (cookies, origins) => do
      let reply ← files (store.save name { cookies, origins, history })
      pure (reply.map fun _ => ())

def saveAs (store : SessionStore) (history : History) : Option String →
    MachineProgram (Except Fault Unit)
  | some name => persist store name history
  | none => pure (.ok ())

/-- Runs a program in a browser and closes it afterwards, whatever has happened. -/
def inBrowser {α : Type} (plan : Browser.Plan) (body : MachineProgram (Except Fault α)) :
    MachineProgram (Except Fault α) := do
  match ← wire (Browser.start plan) with
  | .error fault => pure (.error fault)
  | .ok _ => do
    let result ← body
    let _ ← wire Browser.close
    pure result

/-- The record after some outcomes, with the time at which they were recorded. -/
def noted (history : History) (time : Int) (outcomes : List Outcome) : History :=
  outcomes.foldl (fun history o => history.note time o) history

def clock : MachineProgram Int :=
  desk ConsoleCall.clock.make.right

def screenshot : Option String → MachineProgram (Except Fault Unit)
  | none => pure (.ok ())
  | some path =>
    andThen (wire (Driving.inContext "Failed to take screenshot"
      (Driving.asking .screenshot Answer.asImage))) fun bytes => do
        let reply ← files (Files.writeBytes path bytes)
        pure (FileError.within s!"Failed to write screenshot to {path}" reply)

/-- What is done in the browser for a run. -/
def explored (store : SessionStore) (request : RunRequest) (actions expectations : List String) :
    MachineProgram (Except Fault Report) := do
  let session ← loaded store request.session
  andThen (visit session request.session.isSome (some request.url)) fun _ =>
  andThen (wire (Exploration.run actions expectations
    { monitor := request.monitor, forms := request.forms }).driven) fun report => do
      let time ← clock
      andThen (screenshot request.screenshot) fun _ =>
      andThen (saveAs store (noted session.history time report.actions) request.session) fun _ =>
      pure (.ok report)

def expanded (request : RunRequest) : FileProgram (Except Fault (List String × List String)) := do
  match ← CommandFile.expand request.actions with
  | .error fault => pure (.error fault)
  | .ok actions =>
    match ← CommandFile.expand request.expectations with
    | .error fault => pure (.error fault)
    | .ok expectations => pure (.ok (actions, expectations))

/-- Carries out the commands of a run and gives its report. -/
def report (settings : Settings) (store : SessionStore) (request : RunRequest) :
    MachineProgram (Except Fault Report) :=
  andThen (files (expanded request)) fun (actions, expectations) =>
  andThen (pure (plan settings request.browser)) fun plan =>
    inBrowser plan (explored store request actions expectations)

def run (settings : Settings) (store : SessionStore) (request : RunRequest) :
    MachineProgram (Except Failure Unit) := do
  match ← report settings store request with
  | .error fault => pure (.error (.ofFault fault))
  | .ok report =>
    desk (Desk.write (RunReport.text request.url request.format report))
    pure (RunReport.verdict report)

/-- Answers a call to the page by the browser, and a call to the console by the console. -/
def answer : (q : (pageSignature.sum consoleSignature).Ask) →
    MachineProgram ((pageSignature.sum consoleSignature).Answer q)
  | .inl call => wire (PageCall.driven call)
  | .inr call => desk (ConsoleCall.make call).right

/-- A program over a page and a console, with the browser for the page. -/
def talk {α : Type} (p : Interactive.TalkProgram α) : MachineProgram α :=
  p.through answer

/-- The interactive loop, and what was recorded when it ended. -/
def interaction (history : History) : MachineProgram (Except Fault History) := do
  let (reply, history) ← talk (Interactive.run history)
  pure ((reply.mapError fun e => ⟨e.text, []⟩).map fun _ => history)

def tellSaved : Option String → MachineProgram Unit
  | some name => desk (Desk.writeLine s!"Session '{name}' saved")
  | none => pure ()

/-- What is done in the browser for the interactive loop. -/
def interacted (store : SessionStore) (url session : Option String) :
    MachineProgram (Except Fault Unit) := do
  let stored ← loaded store session
  andThen (visit stored session.isSome url) fun _ =>
  andThen (interaction stored.history) fun history =>
  andThen (saveAs store history session) fun _ => do
    tellSaved session
    pure (.ok ())

def interact (settings : Settings) (store : SessionStore) (url session : Option String)
    (choice : BrowserChoice) : MachineProgram (Except Failure Unit) := do
  let result ← andThen (pure (plan settings choice)) fun plan =>
    inBrowser plan (interacted store url session)
  pure (result.mapError Failure.ofFault)

end PageWalk.Browse
