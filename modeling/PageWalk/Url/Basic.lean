import PageWalk.Url.Host

/-!
# URLs

A URL in its parts, each in the form in which it is written. A path is a list of segments, but for
URLs such as `data:` and `mailto:`, whose path has no structure.
-/

namespace PageWalk

set_option autoImplicit false

namespace Url

structure Authority where
  user : String := ""
  password : Option String := none
  /-- The host, unless it is empty. -/
  host : Option Host := none
  port : Option UInt16 := none
  deriving DecidableEq, Repr

def Authority.text (a : Authority) : String :=
  let password := match a.password with
    | some p => ":" ++ p
    | none => ""
  let credentials := a.user ++ password
  let port := match a.port with
    | some p => ":" ++ toString p.toNat
    | none => ""
  (if credentials = "" then "" else credentials ++ "@") ++ (a.host.map Host.text).getD "" ++ port

inductive Path where
  /-- Segments, each after a slash. -/
  | segments (list : List String)
  | plain (text : String)
  deriving DecidableEq, Repr

def Path.text : Path → String
  | segments list => String.join (list.map ("/" ++ ·))
  | plain text => text

end Url

structure Url where
  /-- The scheme, in lower case. -/
  scheme : String
  authority : Option Url.Authority := none
  path : Url.Path
  query : Option String := none
  fragment : Option String := none
  deriving DecidableEq, Repr

namespace Url

/-- The special schemes that name a host, with their usual ports. -/
def usualPorts : List (String × UInt16) :=
  [("http", 80), ("https", 443), ("ws", 80), ("wss", 443), ("ftp", 21)]

def usualPort? (scheme : String) : Option UInt16 :=
  (usualPorts.find? (·.1 == scheme)).map (·.2)

/-- A path that begins with two slashes and stands without a host gets a dot before it. -/
def separator (authority : Option Authority) (path : Path) : String :=
  match authority, path with
  | some a, _ => "//" ++ a.text
  | none, .segments ("" :: _ :: _) => "/."
  | none, _ => ""

def marked (mark : String) (part : Option String) : String :=
  match part with
  | some text => mark ++ text
  | none => ""

def text (u : Url) : String :=
  u.scheme ++ ":" ++ separator u.authority u.path ++ u.path.text ++ marked "?" u.query ++
    marked "#" u.fragment

def host? (u : Url) : Option Host :=
  u.authority.bind (·.host)

/-- Scheme, host and port as one text: two pages of one origin share their storage. -/
def origin (u : Url) : String :=
  if (usualPort? u.scheme).isSome then
    u.scheme ++ "://" ++ (u.host?.map Host.text).getD "" ++
      (match u.authority.bind (·.port) with
      | some p => ":" ++ toString p.toNat
      | none => "")
  else "null"

end Url

end PageWalk
