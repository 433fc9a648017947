import PageWalk.Url.Basic

/-!
# Reading URLs

The parts of a URL are split off from the outside: the fragment, the query, the scheme, the
authority and the path. Segments of one or two dots are resolved while the path is read.
-/

namespace PageWalk.Url

set_option autoImplicit false

/-- A text without control characters and spaces at its ends and without tabs and line breaks. -/
def cleaned (s : List Char) : List Char :=
  let atEnd (c : Char) : Bool := c.toNat ≤ 0x20
  let trimmed := ((s.dropWhile atEnd).reverse.dropWhile atEnd).reverse
  trimmed.filter fun c => !(c = '\t' || c = '\n' || c = '\r')

/-- A text before a mark, and what follows the first mark if there is one. -/
def cut (mark : Char) (s : List Char) : List Char × Option (List Char) :=
  match Text.splitFirst mark s with
  | some (before, after) => (before, some after)
  | none => (s, none)

/-- Which rules a scheme follows. -/
inductive Rules where
  | web
  | file
  | other
  deriving DecidableEq, Repr

def Rules.of (scheme : String) : Rules :=
  if (usualPort? scheme).isSome then .web else if scheme = "file" then .file else .other

def Rules.isSpecial (r : Rules) : Bool :=
  r != .other

/-- What separates segments: special schemes take a backslash for a slash. -/
def Rules.isSlash (r : Rules) (c : Char) : Bool :=
  c = '/' || (c = '\\' && r.isSpecial)

def isSchemeChar (c : Char) : Bool :=
  c.isAlphanum || c = '+' || c = '-' || c = '.'

/-- The scheme in lower case, and what follows its colon. -/
def scheme? (s : List Char) : Option (List Char × List Char) :=
  match Text.splitFirst ':' s with
  | some (c :: name, rest) =>
    if c.isAlpha ∧ name.all isSchemeChar then some ((c :: name).map Text.asciiLower, rest) else none
  | _ => none

/-! ## Paths -/

/-- A segment with the escapes of its dots undone. -/
def undotted : List Char → List Char
  | '%' :: '2' :: 'e' :: rest | '%' :: '2' :: 'E' :: rest => '.' :: undotted rest
  | c :: rest => c :: undotted rest
  | [] => []

def isDot (segment : List Char) : Bool :=
  undotted segment == ['.']

def isDoubleDot (segment : List Char) : Bool :=
  undotted segment == ['.', '.']

def isDrive : List Char → Bool
  | [letter, mark] => letter.isAlpha && (mark = ':' || mark = '|')
  | _ => false

/-- A segment as it is written; in a file path a drive letter is followed by a colon. -/
def written (r : Rules) (segment : List Char) : String :=
  let text := Percent.encode Percent.keepsInPath segment
  if r = .file ∧ isDrive segment then String.ofList (text.take 1 ++ [':'])
  else String.ofList text

/-- The path one level up; a drive letter stays. -/
def parent (path : List String) : List String :=
  if path.getLast?.any fun last => isDrive last.toList then path else path.dropLast

/-- Goes on from a path with raw segments; the last one decides whether a slash ends the path. -/
def resolve (r : Rules) : List String → List (List Char) → List String
  | path, [] => path
  | path, [last] =>
    if isDoubleDot last then parent path ++ [""]
    else if isDot last then path ++ [""]
    else path ++ [written r last]
  | path, segment :: rest =>
    if isDoubleDot segment then resolve r (parent path) rest
    else if isDot segment then resolve r path rest
    else resolve r (path ++ [written r segment]) rest

def rawSegments (r : Rules) (s : List Char) : List (List Char) :=
  Text.pieces '/' (s.map fun c => if r.isSlash c then '/' else c)

def pathAfter (r : Rules) (base : List String) (s : List Char) : Path :=
  let segments := resolve r base (rawSegments r s)
  .segments (match r with
    | .file =>
      match segments.dropWhile (· = "") with
      | [] => [""]
      | rest => rest
    | _ => segments)

/-- A path that begins with a slash or is empty. -/
def absolutePath (r : Rules) (s : List Char) : Path :=
  match s with
  | [] => if r.isSpecial then .segments [""] else .segments []
  | c :: rest => if r.isSlash c then pathAfter r [] rest else pathAfter r [] (c :: rest)

/-! ## Authorities -/

/-- The text before the last mark and the text after it. -/
def splitLast (mark : Char) (s : List Char) : Option (List Char × List Char) :=
  (Text.splitFirst mark s.reverse).map fun (after, before) => (before.reverse, after.reverse)

/-- The host with its brackets, and what follows the colon after it. -/
def splitPort (inBrackets : Bool) : List Char → List Char × Option (List Char)
  | [] => ([], none)
  | c :: rest =>
    if c = ':' ∧ !inBrackets then ([], some rest)
    else
      let inside := if c = '[' then true else if c = ']' then false else inBrackets
      let (host, port) := splitPort inside rest
      (c :: host, port)

/-- A port, unless it is the usual one of the scheme or has no digits. -/
def readPort (scheme : String) (s : List Char) : Except UrlError (Option UInt16) :=
  match Text.digits? 10 s with
  | none => .error .port
  | some n =>
    if UInt16.size ≤ n then .error .port
    else
      let p := UInt16.ofNat n
      .ok (if s = [] ∨ usualPort? scheme = some p then none else some p)

def userText (s : List Char) : String :=
  String.ofList (Percent.encode Percent.keepsInUserinfo s)

/-- A user name and a password; an empty password counts as none. -/
def credentials (s : List Char) : String × Option String :=
  match cut ':' s with
  | (user, some (c :: password)) => (userText user, some (userText (c :: password)))
  | (user, _) => (userText user, none)

def readHost (r : Rules) (s : List Char) : Except UrlError (Option Host) :=
  if r.isSpecial then
    if s = [] then .error .emptyHost else some <$> Host.parse s
  else if s = [] then .ok none
  else some <$> Host.parseOpaque s

/-- Reads what stands between the two slashes and the path. A backslash ends the port even where it
is no slash. -/
def readAuthority (scheme : String) (s : List Char) :
    Except UrlError (Authority × List Char) := do
  let split := splitLast '@' s
  let (user, password) := credentials ((split.map (·.1)).getD [])
  let (hostText, portText) := splitPort false ((split.map (·.2)).getD s)
  let host ← readHost (Rules.of scheme) hostText
  if host = none ∧ (portText.isSome ∨ split.any (·.1 = []) ∨ user ≠ "" ∨ password ≠ none) then
    throw .emptyHost
  let (digits, left) := (portText.getD []).span (· != '\\')
  let port ← readPort scheme digits
  return ({ user, password, host, port }, left)

def afterSlashes (scheme : String) (s : List Char) : Except UrlError (Option Authority × Path) := do
  let r := Rules.of scheme
  let isPart (c : Char) : Bool := !r.isSlash c
  let (authority, left) ← readAuthority scheme (s.takeWhile isPart)
  return (some authority, absolutePath r (left ++ s.dropWhile isPart))

/-! ## Schemes -/

/-- The host of a file, which is left out when it is this machine. -/
def fileHost (s : List Char) : Except UrlError (Option Host) := do
  if s = [] then return none
  let host ← Host.parse s
  return if host = .name "localhost" then none else some host

def Path.hasDrive : Path → Bool
  | segments list => list.any fun segment => isDrive segment.toList
  | plain _ => false

/-- The host of a file and its path; a path on a drive is on this machine. -/
def filePlace (host : Option Host) (path : Path) : Option Authority × Path :=
  (some { host := if path.hasDrive then none else host }, path)

def file (s : List Char) : Except UrlError (Option Authority × Path) := do
  match s with
  | a :: b :: rest =>
    if Rules.file.isSlash a ∧ Rules.file.isSlash b then
      let isPart (c : Char) : Bool := !Rules.file.isSlash c
      if isDrive (rest.takeWhile isPart) then
        return (some {}, pathAfter .file [] rest)
      else
        let host ← fileHost (rest.takeWhile isPart)
        return filePlace host (absolutePath .file (rest.dropWhile isPart))
    else return (some {}, absolutePath .file s)
  | _ => return (some {}, absolutePath .file s)

def web (scheme : String) (s : List Char) : Except UrlError (Option Authority × Path) :=
  afterSlashes scheme (s.dropWhile (Rules.isSlash .web))

def other (scheme : String) (s : List Char) : Except UrlError (Option Authority × Path) :=
  match s with
  | '/' :: '/' :: rest => afterSlashes scheme rest
  | '/' :: rest => .ok (none, pathAfter .other [] rest)
  | s => .ok (none, .plain (String.ofList (Percent.encode Percent.keepsInOpaque s)))

/-- What stands between the colon after the scheme and the query. -/
def hierarchy (scheme : String) (s : List Char) : Except UrlError (Option Authority × Path) :=
  match Rules.of scheme with
  | .web => web scheme s
  | .file => file s
  | .other => other scheme s

def queryText (r : Rules) (s : List Char) : String :=
  String.ofList
    (Percent.encode (if r.isSpecial then Percent.keepsInSpecialQuery else Percent.keepsInQuery) s)

def fragmentText (s : List Char) : String :=
  String.ofList (Percent.encode Percent.keepsInFragment s)

/-- A text with its query and its fragment split off. -/
structure Pieces where
  start : List Char
  query : Option (List Char)
  fragment : Option (List Char)

def Pieces.of (s : String) : Pieces :=
  let (beforeFragment, fragment) := cut '#' (cleaned s.toList)
  let (start, query) := cut '?' beforeFragment
  ⟨start, query, fragment⟩

/-- The URL of a scheme, an authority and a path, with the query and the fragment of a text. -/
def Pieces.complete (p : Pieces) (scheme : String) (place : Option Authority × Path) : Url :=
  { scheme
    authority := place.1
    path := place.2
    query := p.query.map (queryText (Rules.of scheme))
    fragment := p.fragment.map fragmentText }

/-- Reads a URL that does not lean on another one. -/
def parse (s : String) : Except UrlError Url :=
  let pieces := Pieces.of s
  match scheme? pieces.start with
  | none => .error .noScheme
  | some (name, rest) =>
    let scheme := String.ofList name
    (hierarchy scheme rest).map (pieces.complete scheme)

end PageWalk.Url
