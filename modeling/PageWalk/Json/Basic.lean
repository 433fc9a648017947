import PageWalk.Binary64.Basic

/-!
# JSON values

A value as it stands in a text: the members of an object keep their order, and a key may come twice.
`normal` sorts the members by key and keeps the last of each.
-/

namespace PageWalk

set_option autoImplicit false

inductive Json where
  | null
  | bool (b : Bool)
  /-- An integer from `-2 ^ 63` to `2 ^ 64 - 1`. -/
  | int (n : Int)
  | float (x : Binary64)
  | str (s : String)
  | arr (items : List Json)
  | obj (members : List (String × Json))
  /-- What is well written but has no value: a number out of range, half a surrogate pair, or an
  object with such a key. -/
  | unreadable

namespace Json

/-- Sets a member of an object that is sorted by key. -/
def setMember {α : Type} (key : String) (value : α) : List (String × α) → List (String × α)
  | [] => [(key, value)]
  | (k, v) :: rest =>
    if key = k then (key, value) :: rest
    else if key < k then (key, value) :: (k, v) :: rest
    else (k, v) :: setMember key value rest

/-- Members sorted by key, the last of each key. -/
def sortMembers {α : Type} (members : List (String × α)) : List (String × α) :=
  members.foldl (fun sorted (key, value) => setMember key value sorted) []

mutual

def normal : Json → Json
  | arr items => arr (normalItems items)
  | obj members => obj (sortMembers (normalMembers members))
  | value => value

def normalItems : List Json → List Json
  | [] => []
  | item :: rest => item.normal :: normalItems rest

def normalMembers : List (String × Json) → List (String × Json)
  | [] => []
  | (key, value) :: rest => (key, value.normal) :: normalMembers rest

end

mutual

def depth : Json → Nat
  | arr items => depthItems items + 1
  | obj members => depthMembers members + 1
  | _ => 0

def depthItems : List Json → Nat
  | [] => 0
  | item :: rest => max item.depth (depthItems rest)

def depthMembers : List (String × Json) → Nat
  | [] => 0
  | (_, value) :: rest => max value.depth (depthMembers rest)

end

mutual

/-- Whether every part has a value. -/
def readable : Json → Bool
  | unreadable => false
  | arr items => readableItems items
  | obj members => readableMembers members
  | _ => true

def readableItems : List Json → Bool
  | [] => true
  | item :: rest => item.readable && readableItems rest

def readableMembers : List (String × Json) → Bool
  | [] => true
  | (_, value) :: rest => value.readable && readableMembers rest

end

def ofOption (s : Option String) : Json :=
  match s with
  | some s => str s
  | none => null

/-- A member that is left out when there is no text. -/
def optional (key : String) (s : Option String) : List (String × Json) :=
  match s with
  | some s => [(key, str s)]
  | none => []

end Json

end PageWalk
