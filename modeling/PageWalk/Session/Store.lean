import PageWalk.Session.Data
import PageWalk.World.FilePath
import PageWalk.World.Files

/-!
# Session stores

A directory that holds a file for each session. A name that looks like a path is the path of the
file itself. A file that is missing or holds no session stands for an empty one.
-/

namespace PageWalk

set_option autoImplicit false

structure SessionStore where
  directory : String
  deriving DecidableEq, Repr

/-- What a list of sessions tells about one of them. -/
structure SessionEntry where
  name : String
  path : String
  commands : Nat
  cookies : Nat
  modified : Option Int
  deriving DecidableEq, Repr

namespace SessionStore

/-- The store that is used unless another directory is named, under the user's data directory. -/
def below (dataDirectory : String) : SessionStore :=
  ⟨FilePath.join (FilePath.join dataDirectory "scout") "sessions"⟩

def ending : String := "json"

/-- Whether a name is a path of its own. -/
def isPath (name : String) : Bool :=
  '/' ∈ name.toList || ('.' :: ending.toList).isSuffixOf name.toList

def resolve (store : SessionStore) (name : String) : String :=
  if isPath name then name else FilePath.join store.directory (name ++ "." ++ ending)

def load (store : SessionStore) (name : String) : FileProgram Session := do
  let path := store.resolve name
  if ← Files.isThere path then
    match ← Files.read path with
    | .ok text => pure ((Session.ofText? text).getD {})
    | .error _ => pure {}
  else pure {}

/-- Makes the directory that a file lies in, if it names one. -/
def makeParent (path : String) : FileProgram (Except Fault Unit) := do
  match FilePath.parent? path with
  | none => pure (.ok ())
  | some parent =>
    if parent = "" then pure (.ok ())
    else
      let reply ← Files.makeDirectories parent
      pure (FileError.within s!"Failed to create {parent}" reply)

/-- Writes a session to its file, and gives the path. -/
def save (store : SessionStore) (name : String) (session : Session) :
    FileProgram (Except Fault String) := do
  let path := store.resolve name
  match ← makeParent path with
  | .error fault => pure (.error fault)
  | .ok _ =>
    let reply ← Files.write path session.text
    pure ((FileError.within s!"Failed to save session to {path}" reply).map fun _ => path)

/-- The entry for a name in the directory, if it is that of a session file. -/
def entry? (store : SessionStore) (fileName : String) : FileProgram (Option SessionEntry) := do
  let path := FilePath.join store.directory fileName
  match FilePath.splitExtension fileName with
  | (name, some extension) =>
    if extension = ending then
      match ← Files.read path with
      | .error _ => pure none
      | .ok text =>
        match Session.ofText? text with
        | none => pure none
        | some session =>
          let modified ← Files.modified path
          pure (some { name, path, modified, commands := session.history.length,
                       cookies := session.cookies.length })
    else pure none
  | (_, none) => pure none

def entries (store : SessionStore) : List String → FileProgram (List SessionEntry)
  | [] => pure []
  | fileName :: rest => do
    let entry ← store.entry? fileName
    let entries ← store.entries rest
    pure (entry.toList ++ entries)

def list (store : SessionStore) : FileProgram (Except Fault (List SessionEntry)) := do
  if ← Files.isThere store.directory then
    match ← Files.list store.directory with
    | .error e => pure (.error e.fault)
    | .ok names =>
      let entries ← store.entries names
      pure (.ok (entries.mergeSort fun a b => a.name ≤ b.name))
  else pure (.ok [])

def missing (name : String) : Fault :=
  ⟨s!"Session '{name}' does not exist", []⟩

def delete (store : SessionStore) (name : String) : FileProgram (Except Fault Unit) := do
  let path := store.resolve name
  if ← Files.isThere path then
    let reply ← Files.remove path
    pure (reply.mapError FileError.fault)
  else pure (.error (missing name))

end SessionStore

end PageWalk
