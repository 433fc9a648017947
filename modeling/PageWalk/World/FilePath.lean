import PageWalk.Text.Basic

/-!
# File paths

A path is a text with slashes between its parts. Empty parts and single dots do not count, but for a
dot at the beginning.
-/

namespace PageWalk.FilePath

set_option autoImplicit false

def join (directory name : String) : String :=
  if directory = "" ∨ directory.toList.getLast? = some '/' then directory ++ name
  else directory ++ "/" ++ name

/-- Parts without those at the end that do not count; the first part stays. -/
def trimmed : List (List Char) → List (List Char)
  | [] => []
  | first :: rest =>
    first :: (rest.reverse.dropWhile fun part => part = [] || part = ['.']).reverse

/-- The text of trimmed parts, of which an empty first one stands for the root. -/
def ofParts : List (List Char) → List Char
  | [[]] => ['/']
  | parts => List.intercalate ['/'] parts

/-- The path of the directory that a path lies in; the root and the empty path lie in none. -/
def parent? (path : String) : Option String :=
  match trimmed (Text.pieces '/' path.toList) with
  | [] | [[]] => none
  | [_] => some ""
  | parts => some (String.ofList (ofParts (trimmed parts.dropLast)))

/-- The part of a name before its last dot and the part after it; a dot that begins a name splits
nothing. -/
def splitExtension (name : String) : String × Option String :=
  match Text.splitFirst '.' name.toList.reverse with
  | some (extension, stem) =>
    if stem = [] ∨ name = ".." then (name, none)
    else (String.ofList stem.reverse, some (String.ofList extension.reverse))
  | none => (name, none)

end PageWalk.FilePath
