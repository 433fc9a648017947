import PageWalk.Text.Basic
import PageWalk.Text.Character

/-!
# Addresses

Internet addresses as they may stand in a URL: version 4 in up to four decimal, octal or hexadecimal
parts, version 6 between brackets.
-/

namespace PageWalk.Url

set_option autoImplicit false

namespace Ipv4

/-- The value of one part, the base of which its first characters tell. -/
def part? (s : List Char) : Option Nat :=
  match s with
  | [] => none
  | '0' :: 'x' :: digits | '0' :: 'X' :: digits => Text.digits? 16 digits
  | '0' :: d :: digits => Text.digits? 8 (d :: digits)
  | digits => Text.digits? 10 digits

/-- The parts of a name, without an empty one after a dot at the end. -/
def parts (s : List Char) : List (List Char) :=
  let all := Text.pieces '.' s
  if 1 < all.length ∧ all.getLast? = some [] then all.dropLast else all

/-- Whether a name has to be read as an address: its last part is a number. -/
def endsInNumber (s : List Char) : Bool :=
  match (parts s).getLast? with
  | some last => (last ≠ [] && last.all Char.isDigit) || (part? last).isSome
  | none => false

/-- The number that the parts stand for, the last of which fills what the others leave. -/
def ofParts? (numbers : List Nat) : Option Nat :=
  match numbers.reverse with
  | [] => none
  | last :: before =>
    if 4 < numbers.length ∨ before.any (255 < ·) ∨ Nat.pow 256 (4 - before.length) ≤ last then none
    else some (numbers.dropLast.zipIdx.foldl (fun sum (n, i) => sum + n * Nat.pow 256 (3 - i)) last)

def read? (s : List Char) : Option Nat := do
  ofParts? (← (parts s).mapM part?)

/-- Four decimal numbers between dots. -/
def text (address : Nat) : String :=
  joined "." ([3, 2, 1, 0].map fun i => toString (address / Nat.pow 256 i % 256))

end Ipv4

namespace Ipv6

def piece? (s : List Char) : Option Nat :=
  if s = [] ∨ 4 < s.length then none else Text.digits? 16 s

/-- A decimal number up to 255 without leading zeros. -/
def byte? (s : List Char) : Option Nat :=
  if s = [] ∨ 3 < s.length ∨ (1 < s.length ∧ s.head? = some '0') then none
  else (Text.digits? 10 s).filter (· ≤ 255)

def embedded? (s : List Char) : Option (List Nat) := do
  match ← (Text.pieces '.' s).mapM byte? with
  | [a, b, c, d] => some [256 * a + b, 256 * c + d]
  | _ => none

/-- Pieces between colons, the last of which may be an address of version 4. -/
def pieces? (s : List Char) (mayEmbed : Bool) : Option (List Nat) :=
  if s = [] then some []
  else
    let parts := Text.pieces ':' s
    match parts.getLast? with
    | some last =>
      if mayEmbed ∧ '.' ∈ last then do
        some ((← parts.dropLast.mapM piece?) ++ (← embedded? last))
      else parts.mapM piece?
    | none => none

/-- The text before the first pair of colons and the text after it. -/
def splitGap : List Char → Option (List Char × List Char)
  | ':' :: ':' :: rest => some ([], rest)
  | c :: rest => (splitGap rest).map fun (before, after) => (c :: before, after)
  | [] => none

/-- Reads eight pieces; one pair of colons stands for as many zeros as are missing. -/
def read? (s : List Char) : Option (List Nat) :=
  match splitGap s with
  | none => (pieces? s true).filter (·.length = 8)
  | some (before, after) => do
    let before ← pieces? before false
    let after ← pieces? after true
    if before.length + after.length < 8 then
      some (before ++ List.replicate (8 - before.length - after.length) 0 ++ after)
    else none

def zeros (pieces : List Nat) : Nat :=
  (pieces.takeWhile (· = 0)).length

/-- Where the first of the longest runs of zeros begins, and its length. -/
def longestRun : List Nat → Nat × Nat
  | [] => (0, 0)
  | n :: rest =>
    let (start, length) := longestRun rest
    if length ≤ zeros (n :: rest) then (0, zeros (n :: rest)) else (start + 1, length)

def hexText (n : Nat) : String :=
  String.ofList (Nat.toDigits 16 n)

/-- The pieces between colons and brackets, with a gap for the longest run of two or more zeros. -/
def text (pieces : List Nat) : String :=
  let (start, length) := longestRun pieces
  let written (l : List Nat) := joined ":" (l.map hexText)
  if length < 2 then "[" ++ written pieces ++ "]"
  else "[" ++ written (pieces.take start) ++ "::" ++ written (pieces.drop (start + length)) ++ "]"

end Ipv6

end PageWalk.Url
