import PageWalk.Cli.Arguments

/-!
# What a command line asks for

Each command with its options. A command line that fits none of them is refused as a whole.
-/

namespace PageWalk

set_option autoImplicit false

inductive OutputFormat where
  | json
  | simple
  deriving DecidableEq, Repr

def OutputFormat.ofText? (text : String) : Option OutputFormat :=
  if text = "json" then some .json else if text = "simple" then some .simple else none

/-- What is said of the browser on the command line. -/
structure BrowserChoice where
  browser : Option String
  noHeadless : Bool
  viewport : Option String
  webdriverUrl : Option String
  deriving DecidableEq, Repr

structure RunRequest where
  url : String
  actions : List String
  expectations : List String
  session : Option String
  format : OutputFormat
  forms : Bool
  monitor : Bool
  screenshot : Option String
  browser : BrowserChoice
  deriving DecidableEq, Repr

inductive SessionRequest where
  | list (format : OutputFormat)
  | show (name : String) (format : OutputFormat)
  | delete (name : String)
  deriving DecidableEq, Repr

inductive SettingsRequest where
  | init (force : Bool)
  | show
  deriving DecidableEq, Repr

inductive CliRequest where
  | run (request : RunRequest)
  | interact (url session : Option String) (browser : BrowserChoice)
  | generate (session : String) (prompt : Bool) (output : Option String)
  | check (commands : List String) (format : OutputFormat)
  | session (request : SessionRequest)
  | settings (request : SettingsRequest)
  deriving DecidableEq, Repr

namespace CliRequest

open Arguments

/-- The file of the settings; it may be named before and after any command. -/
def configParameter : Parameter := { name := "config", mayBeEmpty := false }

def actionParameter : Parameter := { name := "action", short := some 'a', mayRepeat := true }
def expectParameter : Parameter := { name := "expect", short := some 'e', mayRepeat := true }
def sessionParameter : Parameter := { name := "session", short := some 's' }
def formatParameter : Parameter := { name := "format", short := some 'f' }
def formsParameter : Parameter := { name := "forms", takesValue := false }
def monitorParameter : Parameter := { name := "monitor-errors", takesValue := false }
def screenshotParameter : Parameter := { name := "screenshot", mayBeEmpty := false }
def browserParameter : Parameter := { name := "browser", short := some 'b' }
def noHeadlessParameter : Parameter := { name := "no-headless", takesValue := false }
def viewportParameter : Parameter := { name := "viewport" }
def webdriverParameter : Parameter := { name := "webdriver-url" }
def promptParameter : Parameter := { name := "prompt", takesValue := false }
def outputParameter : Parameter := { name := "output", short := some 'o', mayBeEmpty := false }
def forceParameter : Parameter := { name := "force", takesValue := false }

def browserParameters : List Parameter :=
  [browserParameter, noHeadlessParameter, viewportParameter, webdriverParameter]

/-- A request and the settings file that was named with it. -/
abbrev Read := CliRequest × Option String

/-- The options and words of a command, if they may stand together. -/
def given (known : List Parameter) (args : List String) : Option Arguments :=
  (scan (configParameter :: known) args).filter fun a =>
    accepted (configParameter :: known) a.options

def format? (a : Arguments) (usual : OutputFormat) : Option OutputFormat :=
  match value? a.options formatParameter with
  | some text => OutputFormat.ofText? text
  | none => some usual

def config? (a : Arguments) : Option String :=
  value? a.options configParameter

def browserChoice (a : Arguments) : BrowserChoice where
  browser := value? a.options browserParameter
  noHeadless := isGiven a.options noHeadlessParameter
  viewport := value? a.options viewportParameter
  webdriverUrl := value? a.options webdriverParameter

def readRun (args : List String) : Option Read := do
  let a ← given ([actionParameter, expectParameter, sessionParameter, formatParameter,
    formsParameter, monitorParameter, screenshotParameter] ++ browserParameters) args
  let format ← format? a .json
  match a.words with
  | [url] =>
    some (.run {
      url, format
      actions := values a.options actionParameter
      expectations := values a.options expectParameter
      session := value? a.options sessionParameter
      forms := isGiven a.options formsParameter
      monitor := isGiven a.options monitorParameter
      screenshot := value? a.options screenshotParameter
      browser := browserChoice a }, config? a)
  | _ => none

def readInteract (args : List String) : Option Read := do
  let a ← given (sessionParameter :: browserParameters) args
  let session := value? a.options sessionParameter
  match a.words with
  | [] => some (.interact none session (browserChoice a), config? a)
  | [url] => some (.interact (some url) session (browserChoice a), config? a)
  | _ => none

def readGenerate (args : List String) : Option Read := do
  let a ← given [sessionParameter, promptParameter, outputParameter] args
  match a.words with
  | [] =>
    let session ← value? a.options sessionParameter
    some (.generate session (isGiven a.options promptParameter) (value? a.options outputParameter),
      config? a)
  | _ => none

def readCheck (args : List String) : Option Read := do
  let a ← given [formatParameter] args
  let format ← format? a .json
  if a.words = [] then none else some (.check a.words format, config? a)

def readSession (command : String) (args : List String) : Option Read :=
  match command with
  | "list" => do
    let a ← given [formatParameter] args
    let format ← format? a .simple
    if a.words = [] then some (.session (.list format), config? a) else none
  | "show" => do
    let a ← given [formatParameter] args
    let format ← format? a .simple
    match a.words with
    | [name] => some (.session (.show name format), config? a)
    | _ => none
  | "delete" => do
    let a ← given [] args
    match a.words with
    | [name] => some (.session (.delete name), config? a)
    | _ => none
  | _ => none

def readSettings (command : String) (args : List String) : Option Read :=
  match command with
  | "init" => do
    let a ← given [forceParameter] args
    if a.words = [] then some (.settings (.init (isGiven a.options forceParameter)), config? a)
    else none
  | "show" => do
    let a ← given [] args
    if a.words = [] then some (.settings .show, config? a) else none
  | _ => none

/-- The name of a command, its arguments and the settings file named before it. -/
def command? (args : List String) : Option (String × List String × Option String) := do
  let (options, name, rest) ← scanToWord [configParameter] args
  if accepted [configParameter] options then some (name, rest, value? options configParameter)
  else none

/-- Reads the command within a group of commands. -/
def readWithin (read : String → List String → Option Read) (args : List String) : Option Read := do
  let (name, rest, outer) ← command? args
  let (request, inner) ← read name rest
  some (request, inner <|> outer)

def readCommand (name : String) (args : List String) : Option Read :=
  match name with
  | "run" => readRun args
  | "repl" => readInteract args
  | "codegen" => readGenerate args
  | "check" => readCheck args
  | "session" => readWithin readSession args
  | "config" => readWithin readSettings args
  | _ => none

/-- Reads a command line; the settings file that is named last counts. -/
def read (args : List String) : Option Read :=
  readWithin readCommand args

end CliRequest

end PageWalk
