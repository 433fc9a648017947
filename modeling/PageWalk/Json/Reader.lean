import PageWalk.Json.Token

/-!
# Reading JSON

Tokens are taken one by one. The stack holds the arrays and objects that are open, each with the
parts that are complete, the latest first.
-/

namespace PageWalk.Json

set_option autoImplicit false

inductive Frame where
  | array (items : List Json)
  /-- An object in which the value of `key` is being read. -/
  | object (members : List (Option String × Json)) (key : Option String)

/-- What the next token may be. -/
inductive State where
  | value (stack : List Frame)
  | itemOrEnd (stack : List Frame)
  | keyOrEnd (stack : List Frame)
  | key (members : List (Option String × Json)) (stack : List Frame)
  | colon (members : List (Option String × Json)) (key : Option String) (stack : List Frame)
  /-- A value is complete. -/
  | after (value : Json) (stack : List Frame)

/-- The key that a token is; a broken one has no name. -/
def Token.key? : Token → Option (Option String)
  | scalar (str k) => some (some k)
  | broken => some none
  | _ => none

/-- The object with these members, the latest first; it has no value if a key has no name. -/
def ofMembers (members : List (Option String × Json)) : Json :=
  match members.reverse.mapM fun (key, value) => key.map (·, value) with
  | some members => obj members
  | none => unreadable

def startValue (stack : List Frame) : Token → Option State
  | .scalar value => some (.after value stack)
  | .broken => some (.after unreadable stack)
  | .arrayStart => some (.itemOrEnd stack)
  | .objectStart => some (.keyOrEnd stack)
  | _ => none

def State.step : State → Token → Option State
  | .value stack, token => startValue stack token
  | .itemOrEnd stack, .arrayEnd => some (.after (arr []) stack)
  | .itemOrEnd stack, token => startValue (.array [] :: stack) token
  | .keyOrEnd stack, .objectEnd => some (.after (obj []) stack)
  | .keyOrEnd stack, token => token.key?.map fun k => .colon [] k stack
  | .key members stack, token => token.key?.map fun k => .colon members k stack
  | .colon members k stack, .colon => some (.value (.object members k :: stack))
  | .after v (.array items :: stack), .comma => some (.value (.array (v :: items) :: stack))
  | .after v (.array items :: stack), .arrayEnd =>
    some (.after (arr (v :: items).reverse) stack)
  | .after v (.object members k :: stack), .comma => some (.key ((k, v) :: members) stack)
  | .after v (.object members k :: stack), .objectEnd =>
    some (.after (ofMembers ((k, v) :: members)) stack)
  | _, _ => none

def State.result? : State → Option Json
  | .after v [] => some v
  | _ => none

def readChars (s : List Char) : Option Json := do
  let tokens ← tokens s
  let state ← tokens.foldlM State.step (.value [])
  state.result?

/-- The value of a JSON text, as it is written. -/
def read? (s : String) : Option Json :=
  readChars s.toList

end PageWalk.Json
