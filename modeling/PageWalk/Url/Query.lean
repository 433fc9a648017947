import PageWalk.Text.Basic
import PageWalk.Url.Percent

/-!
# Queries as pairs

A query is read as names and values: pairs stand between ampersands, an empty one does not count,
and the first equals sign of a pair ends its name. A plus sign is a space.
-/

namespace PageWalk.Url.Query

set_option autoImplicit false

def decodePart (s : List Char) : String :=
  String.ofList (Text.Utf8.decodeLossy (Percent.decode (s.map fun c => if c = '+' then ' ' else c)))

def pair (s : List Char) : String × String :=
  match Text.splitFirst '=' s with
  | some (name, value) => (decodePart name, decodePart value)
  | none => (decodePart s, "")

def pairs (query : String) : List (String × String) :=
  ((Text.pieces '&' query.toList).filter (· ≠ [])).map pair

/-- What stands for itself in a written pair. -/
def keeps (c : Char) : Bool :=
  c.isAlphanum || c = '*' || c = '-' || c = '.' || c = '_'

def encodePart (s : String) : List Char :=
  s.toList.flatMap fun c => if c = ' ' then ['+'] else Percent.encode keeps [c]

def write (pairs : List (String × String)) : String :=
  String.ofList (List.intercalate ['&']
    (pairs.map fun (name, value) => encodePart name ++ '=' :: encodePart value))

end PageWalk.Url.Query
