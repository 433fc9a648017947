import PageWalk.Json.Reader
import PageWalk.Session.Record

/-!
# Sessions

What is kept of a browser between runs, its cookies and the storage of each origin, and the commands
that were recorded meanwhile.
-/

namespace PageWalk

set_option autoImplicit false

structure Cookie where
  name : String
  value : String
  domain : Option String := none
  path : Option String := none
  secure : Option Bool := none
  httpOnly : Option Bool := none
  /-- Any other fields, sorted by name. -/
  extra : List (String × Json) := []

namespace Cookie

def knownFields : List String :=
  ["name", "value", "domain", "path", "secure", "httpOnly"]

/-- How deep a value of an unknown field may be. -/
def maxDepth : Nat := 124

/-- The value of an unknown field. -/
def readExtra (member : String × Json) : Decoded (String × Json) :=
  if member.2.readable ∧ member.2.depth ≤ maxDepth then .ok (member.1, member.2.normal)
  else .error (.mismatch member.2 "any value")

/-- Reads a cookie, which is never a list of fields. -/
def ofJson : Json → Decoded Cookie
  | .obj members => do
    let fields := Json.Fields.named members
    let unknown := members.filter fun (key, _) => !knownFields.contains key
    let optional {α : Type} (name : String) (read : Json → Decoded α) :=
      fields.withDefault ⟨[name], 0⟩ none (Json.asOption read)
    return {
      name := ← fields.required ⟨["name"], 0⟩ Json.asString
      value := ← fields.required ⟨["value"], 0⟩ Json.asString
      domain := ← optional "domain" Json.asString
      path := ← optional "path" Json.asString
      secure := ← optional "secure" Json.asBool
      httpOnly := ← optional "httpOnly" Json.asBool
      extra := Json.sortMembers (← unknown.mapM readExtra) }
  | value => .error (.mismatch value "a cookie")

def flag (key : String) (b : Option Bool) : List (String × Json) :=
  (b.map fun b => (key, Json.bool b)).toList

def toJson (c : Cookie) : Json :=
  .obj ([("name", .str c.name), ("value", .str c.value)] ++
    Json.optional "domain" c.domain ++ Json.optional "path" c.path ++
    flag "secure" c.secure ++ flag "httpOnly" c.httpOnly ++ c.extra)

end Cookie

structure StorageEntry where
  name : String
  value : String
  deriving DecidableEq, Repr

namespace StorageEntry

def ofJson (j : Json) : Decoded StorageEntry := do
  let fields ← j.asFields "a storage entry" 2
  return {
    name := ← fields.required ⟨["name"], 0⟩ Json.asString
    value := ← fields.required ⟨["value"], 1⟩ Json.asString }

def toJson (e : StorageEntry) : Json :=
  .obj [("name", .str e.name), ("value", .str e.value)]

end StorageEntry

structure OriginStorage where
  origin : String
  entries : List StorageEntry
  deriving DecidableEq, Repr

namespace OriginStorage

def ofJson (j : Json) : Decoded OriginStorage := do
  let fields ← j.asFields "the storage of an origin" 2
  return {
    origin := ← fields.required ⟨["origin"], 0⟩ Json.asString
    entries := ← fields.withDefault ⟨["localStorage"], 1⟩ [] (Json.asList StorageEntry.ofJson) }

def toJson (s : OriginStorage) : Json :=
  .obj [("origin", .str s.origin), ("localStorage", .arr (s.entries.map StorageEntry.toJson))]

end OriginStorage

structure Session where
  cookies : List Cookie := []
  origins : List OriginStorage := []
  history : History := []

namespace Session

def ofJson (j : Json) : Decoded Session := do
  let fields ← j.asFields "a session" 3
  return {
    cookies := ← fields.withDefault ⟨["cookies"], 0⟩ [] (Json.asList Cookie.ofJson)
    origins := ← fields.withDefault ⟨["origins"], 1⟩ [] (Json.asList OriginStorage.ofJson)
    history := ← fields.withDefault ⟨["history"], 2⟩ [] (Json.asList Record.ofJson) }

def toJson (s : Session) : Json :=
  .obj [
    ("cookies", .arr (s.cookies.map Cookie.toJson)),
    ("origins", .arr (s.origins.map OriginStorage.toJson)),
    ("history", .arr (s.history.map Record.toJson))]

def text (s : Session) : String :=
  s.toJson.pretty

/-- The session of a file with this text, if it is one. -/
def ofText? (text : String) : Option Session :=
  match (Json.read? text).map ofJson with
  | some (.ok session) => some session
  | _ => none

end Session

end PageWalk
