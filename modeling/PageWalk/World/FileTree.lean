import PageWalk.Text.Utf8
import PageWalk.World.FilePath
import PageWalk.World.Files

/-!
# Trees of files

Files and directories kept in memory, by the names on the way from the root. A name leads from a
directory to what lies in it, so each name of a path but the last has to name a directory.
-/

namespace PageWalk

set_option autoImplicit false

/-- The names from the root to a file or a directory. -/
abbrev Location := List String

inductive FileContent where
  | text (text : String)
  | bytes (bytes : List UInt8)
  deriving DecidableEq, Repr

def FileContent.text? : FileContent → Option String
  | text s => some s
  | bytes b => (Text.Utf8.decode? b).map String.ofList

structure FileTree where
  files : List (Location × FileContent) := []
  /-- The directories but for the root. -/
  directories : List Location := []
  /-- Where paths begin that do not begin at the root. -/
  here : Location := []
  /-- When the files were last changed, in nanoseconds since the beginning of 1970. -/
  changed : Int := 0
  deriving DecidableEq, Repr

namespace FileTree

def content? (tree : FileTree) (place : Location) : Option FileContent :=
  (tree.files.find? (·.1 == place)).map (·.2)

def isFile (tree : FileTree) (place : Location) : Bool :=
  (tree.content? place).isSome

def isDirectory (tree : FileTree) (place : Location) : Bool :=
  place == [] || tree.directories.contains place

/-- What is wrong with a location that has to be a directory. -/
def enter (tree : FileTree) (place : Location) : Except FileError Unit :=
  if tree.isDirectory place then .ok ()
  else if tree.isFile place then .error .notADirectory
  else .error .notFound

/-- How many bytes a name and a path may have. -/
def maxName : Nat := 255

def maxPath : Nat := 4095

def follow (tree : FileTree) : Location → List (List Char) → Except FileError Location
  | place, [] => .ok place
  | place, part :: rest => do
    tree.enter place
    if part = [] ∨ part = ['.'] then tree.follow place rest
    else if part = ['.', '.'] then tree.follow place.dropLast rest
    else if maxName < (String.ofList part).utf8ByteSize then .error .nameTooLong
    else tree.follow (place ++ [String.ofList part]) rest

/-- Where a path leads; nothing need be there yet. -/
def locate (tree : FileTree) (path : String) : Except FileError Location :=
  if path = "" then .error .notFound
  else if '\x00' ∈ path.toList then .error .zeroInName
  else if maxPath < path.utf8ByteSize then .error .nameTooLong
  else
    let start := if path.toList.head? = some '/' then [] else tree.here
    tree.follow start (Text.pieces '/' path.toList)

def isThere (tree : FileTree) (path : String) : Bool :=
  match tree.locate path with
  | .ok place => tree.isFile place || tree.isDirectory place
  | .error _ => false

def read (tree : FileTree) (path : String) : Except FileError String := do
  let place ← tree.locate path
  match tree.content? place with
  | some content =>
    match content.text? with
    | some text => .ok text
    | none => .error .notText
  | none => .error (if tree.isDirectory place then .isADirectory else .notFound)

def put (tree : FileTree) (place : Location) (content : FileContent) : FileTree :=
  { tree with files := (place, content) :: tree.files.filter (·.1 != place) }

def write (tree : FileTree) (path : String) (content : FileContent) :
    Except FileError FileTree := do
  let place ← tree.locate path
  if tree.isDirectory place then .error .isADirectory
  else .ok (tree.put place content)

def remove (tree : FileTree) (path : String) : Except FileError FileTree := do
  let place ← tree.locate path
  if tree.isDirectory place then .error .isADirectory
  else if tree.isFile place then .ok { tree with files := tree.files.filter (·.1 != place) }
  else .error .notFound

/-- Follows the parts of a path and makes the directories that are missing. -/
def makeAlong (tree : FileTree) : Location → List (List Char) → Except FileError FileTree
  | _, [] => .ok tree
  | place, part :: rest =>
    if part = [] ∨ part = ['.'] then tree.makeAlong place rest
    else if part = ['.', '.'] then tree.makeAlong place.dropLast rest
    else
      let next := place ++ [String.ofList part]
      if maxName < (String.ofList part).utf8ByteSize then .error .nameTooLong
      else if tree.isDirectory next then tree.makeAlong next rest
      else if tree.isFile next then
        .error (if rest = [] then .alreadyThere else .notADirectory)
      else FileTree.makeAlong { tree with directories := next :: tree.directories } next rest

def makeDirectories (tree : FileTree) (path : String) : Except FileError FileTree :=
  if '\x00' ∈ path.toList then .error .zeroInName
  else if maxPath < path.utf8ByteSize then .error .nameTooLong
  else
    let start := if path.toList.head? = some '/' then [] else tree.here
    tree.makeAlong start (Text.pieces '/' path.toList)

/-- The last name of a location that lies in a directory. -/
def nameIn? (directory place : Location) : Option String :=
  if place ≠ [] ∧ place.dropLast = directory then place.getLast? else none

def list (tree : FileTree) (path : String) : Except FileError (List String) := do
  let place ← tree.locate path
  tree.enter place
  .ok (tree.files.filterMap (fun file => nameIn? place file.1) ++
    tree.directories.filterMap (nameIn? place))

/-- The tree after a change, if the change was possible. -/
def after (tree : FileTree) : Except FileError FileTree → Except FileError Unit × FileTree
  | .ok changed => (.ok (), changed)
  | .error e => (.error e, tree)

def respond : Responder fileSignature FileTree
  | .read path, tree => (tree.read path, tree)
  | .write path content, tree => tree.after (tree.write path (.text content))
  | .writeBytes path content, tree => tree.after (tree.write path (.bytes content))
  | .makeDirectories path, tree => tree.after (tree.makeDirectories path)
  | .remove path, tree => tree.after (tree.remove path)
  | .isThere path, tree => (tree.isThere path, tree)
  | .list path, tree => (tree.list path, tree)
  | .modified path, tree => (if tree.isThere path then some tree.changed else none, tree)

end FileTree

end PageWalk
