import PageWalk.Json.Printer
import PageWalk.Text.Basic

/-!
# Taking JSON values apart

Readers of texts, numbers, lists and records. A record is an object, whose unknown members do not
count, or a list of its fields in order. A field may go by several names, but only once.
-/

namespace PageWalk

set_option autoImplicit false

inductive DecodeError where
  | mismatch (found : Json) (expected : String)
  | outOfRange (found : Int) (expected : String)
  | missing (field : String)
  | duplicate (field : String)
  | wrongLength (length : Nat) (expected : String)
  | unknownVariant (found : String) (known : List String)

namespace DecodeError

def ticked (s : String) : String :=
  "`" ++ s ++ "`"

def describe : Json → String
  | .null => "null"
  | .bool b => "boolean " ++ ticked (if b then "true" else "false")
  | .int n => "integer " ++ ticked (toString n)
  | .float x => "floating point " ++ ticked (String.ofList x.text)
  | .str s => "string " ++ (Json.str s).compact
  | .arr _ => "sequence"
  | .obj _ => "map"
  | .unreadable => "unreadable value"

def message : DecodeError → String
  | mismatch found expected => s!"invalid type: {describe found}, expected {expected}"
  | outOfRange found expected =>
    "invalid value: integer " ++ ticked (toString found) ++ ", expected " ++ expected
  | missing field => "missing field " ++ ticked field
  | duplicate field => "duplicate field " ++ ticked field
  | wrongLength length expected => s!"invalid length {length}, expected {expected}"
  | unknownVariant found known =>
    "unknown variant " ++ ticked found ++ ", expected " ++ joined " or " (known.map ticked)

end DecodeError

/-- What reading a value as an `α` gives. -/
abbrev Decoded (α : Type) := Except DecodeError α

namespace Json

def asString : Json → Decoded String
  | str s => .ok s
  | value => .error (.mismatch value "a string")

def asBool : Json → Decoded Bool
  | bool b => .ok b
  | value => .error (.mismatch value "a boolean")

/-- An integer between two bounds, which `type` names in messages. -/
def asInt (type : String) (low high : Int) : Json → Decoded Int
  | int n => if low ≤ n ∧ n ≤ high then .ok n else .error (.outOfRange n type)
  | value => .error (.mismatch value type)

def asInt64 : Json → Decoded Int :=
  asInt "i64" (-0x8000000000000000) 0x7FFFFFFFFFFFFFFF

def asUInt16 (value : Json) : Decoded Nat :=
  Int.toNat <$> asInt "u16" 0 0xFFFF value

def asUInt64 (value : Json) : Decoded Nat :=
  Int.toNat <$> asInt "u64" 0 0xFFFFFFFFFFFFFFFF value

def asBinary64 : Json → Decoded Binary64
  | float x => .ok x
  | int n => .ok (Binary64.ofInt n)
  | value => .error (.mismatch value "f64")

def asOption {α : Type} (read : Json → Decoded α) : Json → Decoded (Option α)
  | null => .ok none
  | value => some <$> read value

def asList {α : Type} (read : Json → Decoded α) : Json → Decoded (List α)
  | arr items => items.mapM read
  | value => .error (.mismatch value "a sequence")

/-- Texts by key, sorted, the last of each key. -/
def asStrings : Json → Decoded (List (String × String))
  | obj members => do
    let texts ← members.mapM fun (key, value) => do .ok (key, ← value.asString)
    .ok (sortMembers texts)
  | value => .error (.mismatch value "a map")

/-- One of several words; the word may also be the only key of an object, with `null` after it. -/
def asWord {α : Type} (words : List (String × α)) : Json → Decoded α
  | str s => find s
  | obj [(s, null)] => find s
  | value => .error (.mismatch value "string or map")
where
  find (s : String) : Decoded α :=
    match words.find? (·.1 == s) with
    | some (_, a) => .ok a
    | none => .error (.unknownVariant s (words.map (·.1)))

/-- The fields of a record, by name or in order. -/
inductive Fields where
  | named (members : List (String × Json))
  | listed (items : List Json)

/-- The fields of a record of so many fields. -/
def asFields (what : String) (width : Nat) : Json → Decoded Fields
  | obj members => .ok (.named members)
  | arr items =>
    if width < items.length then .error (.wrongLength items.length what)
    else .ok (.listed items)
  | value => .error (.mismatch value what)

/-- How a field of a record is found: its names, the first being its own, and its place in the
order. -/
structure Slot where
  names : List String
  place : Nat

def Slot.name (slot : Slot) : String :=
  slot.names.headD ""

def Fields.get? (fields : Fields) (slot : Slot) : Decoded (Option Json) :=
  match fields with
  | .named members =>
    match members.filter fun (key, _) => slot.names.contains key with
    | [] => .ok none
    | [(_, value)] => .ok (some value)
    | _ => .error (.duplicate slot.name)
  | .listed items => .ok items[slot.place]?

def Fields.required {α : Type} (fields : Fields) (slot : Slot) (read : Json → Decoded α) :
    Decoded α := do
  match ← fields.get? slot with
  | some value => read value
  | none => .error (.missing slot.name)

/-- A field that has a value of its own when it is not there. -/
def Fields.withDefault {α : Type} (fields : Fields) (slot : Slot) (default : α)
    (read : Json → Decoded α) : Decoded α := do
  match ← fields.get? slot with
  | some value => read value
  | none => .ok default

/-- A field that may be missing by name, but not in a list of fields. -/
def Fields.optional {α : Type} (fields : Fields) (slot : Slot) (read : Json → Decoded α) :
    Decoded (Option α) := do
  match ← fields.get? slot, fields with
  | some value, _ => asOption read value
  | none, .named _ => .ok none
  | none, .listed _ => .error (.missing slot.name)

end Json

end PageWalk
