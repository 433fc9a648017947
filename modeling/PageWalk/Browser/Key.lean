import PageWalk.Text.Basic
import PageWalk.Text.Numeral

/-!
# Keys

Keys are sent to a browser as characters. Named keys have characters of their own, any other name is
typed as it stands, and a combination such as `Control+a` ends with the character that releases what
is held down. A plus sign at the end is the plus key itself.
-/

namespace PageWalk.Key

set_option autoImplicit false

def named : List (String × Char) :=
  [("Backspace", '\uE003'), ("Tab", '\uE004'), ("Enter", '\uE007'), ("Shift", '\uE008'),
    ("Control", '\uE009'), ("Alt", '\uE00A'), ("Escape", '\uE00C'), ("Space", '\uE00D'),
    ("PageUp", '\uE00E'), ("PageDown", '\uE00F'), ("End", '\uE010'), ("Home", '\uE011'),
    ("ArrowLeft", '\uE012'), ("ArrowUp", '\uE013'), ("ArrowRight", '\uE014'),
    ("ArrowDown", '\uE015'), ("Insert", '\uE016'), ("Delete", '\uE017'), ("Meta", '\uE03D')]

def release : Char := '\uE000'

def functionKey? : List Char → Option Char
  | 'F' :: digits => do
    let n ← Text.Numeral.below? UInt32.size digits
    if 1 ≤ n ∧ n ≤ 12 then some (Char.ofNat (0xE030 + n)) else none
  | _ => none

/-- What a single key sends. -/
def code (name : List Char) : List Char :=
  match named.find? fun (known, _) => known.toList == name with
  | some (_, c) => [c]
  | none =>
    match functionKey? name with
    | some c => [c]
    | none => name

/-- What a key or a combination of keys sends. -/
def sequence (key : List Char) : List Char :=
  if key.length ≤ 1 ∨ '+' ∉ key then code key
  else
    let plus := key.getLast? = some '+'
    let held := if plus then key.dropLast else key
    ((Text.pieces '+' held).filter (· ≠ [])).flatMap code ++
      (if plus then ['+'] else []) ++ [release]

end PageWalk.Key
