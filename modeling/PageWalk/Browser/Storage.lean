import PageWalk.Browser.CookieScope
import PageWalk.Browser.Driving

/-!
# The storage of a browser

Cookies and the storage of the open page are taken out of a browser and put back. Only what belongs
to the page that is open is put back, since a driver takes no cookies for other domains.
-/

namespace PageWalk.Storage

set_option autoImplicit false

open Driving

def webPage : WireProgram (Except Fault (Option Url)) :=
  asking .currentUrl fun value => do
    let url ← Answer.asUrl value
    .ok (if url.scheme = "http" ∨ url.scheme = "https" then some url else none)

/-- The storage of the open page, as a list of at most one origin. -/
def entriesOf : Option Url → WireProgram (Except Fault (List OriginStorage))
  | none => pure (.ok [])
  | some url =>
    andThen (Wire.execute .readStorage []) fun value =>
      pure do
        let entries ← Answer.decoded (Json.asList StorageEntry.ofJson) value
        .ok (if entries.isEmpty then [] else [⟨url.origin, entries⟩])

/-- The cookies of the browser and the storage of the open page. -/
def capture : WireProgram (Except Fault (List Cookie × List OriginStorage)) :=
  andThen (inContext "Failed to read cookies" (asking .cookies Answer.asCookies)) fun cookies =>
  andThen webPage fun page =>
  andThen (entriesOf page) fun origins =>
    pure (.ok (cookies, origins))

/-- Whether a cookie may be set on a page. -/
def belongs (url : Url) (c : Cookie) : Bool :=
  CookieScope.applies c.domain ((url.host?.map Url.Host.text).getD "")

/-- Sets cookies and counts those that were accepted. -/
def addCookies : List Cookie → WireProgram Nat
  | [] => pure 0
  | cookie :: rest => do
    let reply ← Wire.send (.addCookie { cookie with extra := [] })
    let accepted ← addCookies rest
    pure (match reply with
      | .ok _ => accepted + 1
      | .error _ => accepted)

/-- Sets entries of the storage of the open page, up to the first that is refused. -/
def setEntries : List StorageEntry → WireProgram (Except Fault Unit)
  | [] => pure (.ok ())
  | entry :: rest =>
    andThen (inContext "Failed to restore localStorage"
      (Wire.execute .setStorage [.value (.str entry.name), .value (.str entry.value)])) fun _ =>
        setEntries rest

/-- The stored entries of the origin of a page. -/
def entriesFor (url : Url) (session : Session) : List StorageEntry :=
  (session.origins.filter (·.origin == url.origin)).flatMap (·.entries)

/-- Puts back what a session holds of a page, and reloads the page if anything was put back. -/
def restoreTo (url : Url) (session : Session) : WireProgram (Except Fault Unit) := do
  let accepted ← addCookies (session.cookies.filter (belongs url))
  let entries := entriesFor url session
  andThen (setEntries entries) fun _ =>
    if accepted = 0 ∧ entries.isEmpty then pure (.ok ())
    else plain (Wire.send .refresh)

def restore (session : Session) : WireProgram (Except Fault Unit) :=
  andThen webPage fun
    | none => pure (.ok ())
    | some url => restoreTo url session

end PageWalk.Storage
