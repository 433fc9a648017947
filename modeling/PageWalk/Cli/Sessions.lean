import PageWalk.Cli.Machine
import PageWalk.Cli.Request
import PageWalk.Json.Printer
import PageWalk.Run.Interactive
import PageWalk.Session.Store
import PageWalk.Text.Calendar
import PageWalk.TestSource.Prompt
import PageWalk.TestSource.Test

/-!
# Managing sessions

The sessions of a store are listed, shown and deleted. From the record of a session a test is made, or a
prompt for one, and written to the console or to a file.
-/

namespace PageWalk

set_option autoImplicit false

namespace Sessions

def entryJson (e : SessionEntry) : Json :=
  .obj ([("name", .str e.name), ("path", .str e.path), ("commands", .int e.commands),
    ("cookies", .int e.cookies)] ++
    Json.optional "modified" (e.modified.map Calendar.momentText))

def entryLine (e : SessionEntry) : String :=
  let modified := (e.modified.map Calendar.minuteText).getD "-"
  s!"  {e.name} ({e.commands} commands, {e.cookies} cookies) - modified {modified}\n"

def listing (store : SessionStore) (format : OutputFormat) (entries : List SessionEntry) : String :=
  match format with
  | .json => (Json.arr (entries.map entryJson)).pretty ++ "\n"
  | .simple =>
    if entries.isEmpty then s!"No sessions found in {store.directory}\n"
    else s!"Sessions in {store.directory}:\n" ++ String.join (entries.map entryLine)

def list (store : SessionStore) (format : OutputFormat) : DeskProgram (Except Failure Unit) := do
  match ← Desk.files store.list with
  | .error fault => Desk.fail fault
  | .ok entries =>
    Desk.write (listing store format entries)
    pure (.ok ())

def sessionJson (name path : String) (s : Session) : Json :=
  .obj [
    ("cookies", .int s.cookies.length),
    ("history", .arr (s.history.map Record.toJson)),
    ("name", .str name),
    ("origins", .arr (s.origins.map fun o => .str o.origin)),
    ("path", .str path)]

def storageLine (o : OriginStorage) : String :=
  s!"Storage: {o.origin} ({o.entries.length} localStorage entries)\n"

def recordLine (r : Record) (number : Nat) : String :=
  let time := (Calendar.clockOfMilliseconds? r.time).getD ""
  let locator := match r.locator with
    | some l => s!"  ({l})"
    | none => ""
  s!"  {Interactive.padded number}. [{time}] {r.command}{locator}\n"

def sessionText (name path : String) (s : Session) : String :=
  s!"Session: {name}\nFile: {path}\nCookies: {s.cookies.length}\n" ++
    String.join (s.origins.map storageLine) ++
    s!"History ({s.history.length} commands):\n" ++
    String.join ((s.history.zipIdx 1).map fun (r, number) => recordLine r number)

def showing (name path : String) (format : OutputFormat) (s : Session) : String :=
  match format with
  | .json => (sessionJson name path s).normal.pretty ++ "\n"
  | .simple => sessionText name path s

def present (store : SessionStore) (name : String) (format : OutputFormat) :
    DeskProgram (Except Failure Unit) := do
  let path := store.resolve name
  if ← Desk.files (Files.isThere path) then
    let session ← Desk.files (store.load name)
    Desk.write (showing name path format session)
    pure (.ok ())
  else Desk.fail (SessionStore.missing name)

def delete (store : SessionStore) (name : String) : DeskProgram (Except Failure Unit) := do
  match ← Desk.files (store.delete name) with
  | .error fault => Desk.fail fault
  | .ok _ =>
    Desk.writeLine s!"Session '{name}' deleted"
    pure (.ok ())

def run (store : SessionStore) : SessionRequest → DeskProgram (Except Failure Unit)
  | .list format => list store format
  | .show name format => present store name format
  | .delete name => delete store name

end Sessions

/-! ## Tests from a session -/

namespace Generate

def source (session : Session) (prompt : Bool) : String :=
  let text := if prompt then TestSource.prompt session.history else TestSource.test session.history
  String.ofList (Text.trimEnd text.toList) ++ "\n"

def run (store : SessionStore) (name : String) (prompt : Bool) (output : Option String) :
    DeskProgram (Except Failure Unit) := do
  if ← Desk.files (Files.isThere (store.resolve name)) then
    let session ← Desk.files (store.load name)
    let text := source session prompt
    match output with
    | none =>
      Desk.write text
      pure (.ok ())
    | some path =>
      match ← Desk.files (Files.write path text) with
      | .error e => Desk.fail (e.fault.within s!"Failed to write {path}")
      | .ok _ =>
        Desk.writeLine s!"Generated {path}"
        pure (.ok ())
  else Desk.fail (SessionStore.missing name)

end Generate

end PageWalk
