/-!
# Base 64

Every four characters stand for three bytes; one or two equals signs fill up the last four.
-/

namespace PageWalk.Text.Base64

set_option autoImplicit false

def value? (c : Char) : Option Nat :=
  if 'A' ≤ c ∧ c ≤ 'Z' then some (c.toNat - 65)
  else if 'a' ≤ c ∧ c ≤ 'z' then some (c.toNat - 71)
  else if '0' ≤ c ∧ c ≤ '9' then some (c.toNat + 4)
  else if c = '+' then some 62
  else if c = '/' then some 63
  else none

/-- The first bytes of a number of three bytes. -/
def bytes (count n : Nat) : List UInt8 :=
  ([n / 65536, n / 256, n].map UInt8.ofNat).take count

/-- Reads whole groups; what is left over at the end of the last one has to be zero. -/
def decode? : List Char → Option (List UInt8)
  | [] => some []
  | [a, b, '=', '='] => do
    let n := 262144 * (← value? a) + 4096 * (← value? b)
    if n % 65536 = 0 then some (bytes 1 n) else none
  | [a, b, c, '='] => do
    let n := 262144 * (← value? a) + 4096 * (← value? b) + 64 * (← value? c)
    if n % 256 = 0 then some (bytes 2 n) else none
  | a :: b :: c :: d :: rest => do
    let n := 262144 * (← value? a) + 4096 * (← value? b) + 64 * (← value? c) + (← value? d)
    some (bytes 3 n ++ (← decode? rest))
  | _ => none

end PageWalk.Text.Base64
