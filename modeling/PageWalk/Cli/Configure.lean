import PageWalk.Cli.Machine
import PageWalk.Cli.Request
import PageWalk.Cli.Settings

/-!
# Managing settings

A file with the usual settings is written, or the settings in force are shown.
-/

namespace PageWalk.Configure

set_option autoImplicit false

def init (path : String) (force : Bool) : DeskProgram (Except Failure Unit) := do
  let there ← Desk.files (Files.isThere path)
  if there && !force then
    Desk.fail ⟨s!"Config file {path} already exists (use --force to overwrite)", []⟩
  else
    match ← Desk.files (Settings.save {} path) with
    | .error fault => Desk.fail fault
    | .ok _ =>
      Desk.writeLine s!"Configuration saved to {path}"
      pure (.ok ())

def present (settings : Settings) (path dataDirectory : String) :
    DeskProgram (Except Failure Unit) := do
  Desk.warnLine s!"Config file: {path}"
  Desk.warnLine s!"Sessions: {(settings.store dataDirectory).directory}"
  Desk.writeLine settings.text
  pure (.ok ())

def run (settings : Settings) (path dataDirectory : String) :
    SettingsRequest → DeskProgram (Except Failure Unit)
  | .init force => init path force
  | .show => present settings path dataDirectory

end PageWalk.Configure
