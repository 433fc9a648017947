import PageWalk.Json.Basic
import PageWalk.Json.Quoted
import PageWalk.Binary64.Shortest

/-!
# Writing JSON

`compact` writes a value on one line without blanks; `pretty` puts each item and member on a line of
its own, two columns deeper than what holds it.
-/

namespace PageWalk.Json

set_option autoImplicit false

def intChars (n : Int) : List Char :=
  (if n < 0 then ['-'] else []) ++ Nat.toDigits 10 n.natAbs

def floatChars (x : Binary64) : List Char :=
  if x.isFinite then x.text else "null".toList

/-- Values without parts. -/
def scalarChars : Json → List Char
  | bool true => "true".toList
  | bool false => "false".toList
  | int n => intChars n
  | float x => floatChars x
  | str s => Quoted.encode s.toList
  | _ => "null".toList

mutual

def compactChars : Json → List Char
  | arr items => '[' :: (compactItems items ++ [']'])
  | obj members => '{' :: (compactMembers members ++ ['}'])
  | value => value.scalarChars

def compactItems : List Json → List Char
  | [] => []
  | [item] => item.compactChars
  | item :: rest => item.compactChars ++ ',' :: compactItems rest

def compactMembers : List (String × Json) → List Char
  | [] => []
  | [(key, value)] => Quoted.encode key.toList ++ ':' :: value.compactChars
  | (key, value) :: rest =>
    Quoted.encode key.toList ++ ':' :: (value.compactChars ++ ',' :: compactMembers rest)

end

/-- A line break and the blanks before a line at a depth. -/
def newLine (depth : Nat) : List Char :=
  '\n' :: List.replicate (2 * depth) ' '

mutual

def prettyChars (depth : Nat) : Json → List Char
  | arr [] => ['[', ']']
  | arr items => '[' :: (prettyItems (depth + 1) items ++ newLine depth ++ [']'])
  | obj [] => ['{', '}']
  | obj members => '{' :: (prettyMembers (depth + 1) members ++ newLine depth ++ ['}'])
  | value => value.scalarChars

def prettyItems (depth : Nat) : List Json → List Char
  | [] => []
  | [item] => newLine depth ++ item.prettyChars depth
  | item :: rest => newLine depth ++ item.prettyChars depth ++ ',' :: prettyItems depth rest

def prettyMembers (depth : Nat) : List (String × Json) → List Char
  | [] => []
  | [(key, value)] =>
    newLine depth ++ Quoted.encode key.toList ++ ':' :: ' ' :: value.prettyChars depth
  | (key, value) :: rest =>
    newLine depth ++ Quoted.encode key.toList ++ ':' :: ' ' ::
      (value.prettyChars depth ++ ',' :: prettyMembers depth rest)

end

def compact (value : Json) : String :=
  String.ofList value.compactChars

def pretty (value : Json) : String :=
  String.ofList (value.prettyChars 0)

end PageWalk.Json
