/-!
# Binary floating-point numbers

A number of 64 bits stands for `m * 2 ^ q` with a sign. Rounding goes to the nearest number, and a
tie to the one with the even `m`. Everything is computed in natural numbers.
-/

namespace PageWalk

set_option autoImplicit false

structure Binary64 where
  bits : UInt64
  deriving DecidableEq, Repr

namespace Binary64

/-- The least exponent, that of the smallest numbers. -/
def minExponent : Int := -1074

/-- The greatest exponent of a finite number. -/
def maxExponent : Int := 971

def zero : Binary64 := ⟨0⟩

def signBit : UInt64 := 0x8000000000000000

def isNegative (x : Binary64) : Bool :=
  x.bits &&& signBit != 0

def neg (x : Binary64) : Binary64 :=
  ⟨x.bits ^^^ signBit⟩

def exponentField (x : Binary64) : Nat :=
  x.bits.toNat / Nat.pow 2 52 % Nat.pow 2 11

def isFinite (x : Binary64) : Bool :=
  x.exponentField < 2047

def fraction (x : Binary64) : Nat :=
  x.bits.toNat % Nat.pow 2 52

/-- The `m` of `m * 2 ^ q`. -/
def mantissa (x : Binary64) : Nat :=
  if x.exponentField = 0 then x.fraction else x.fraction + Nat.pow 2 52

/-- The `q` of `m * 2 ^ q`. -/
def exponent (x : Binary64) : Int :=
  if x.exponentField = 0 then minExponent else (x.exponentField : Int) - 1075

def isZero (x : Binary64) : Bool :=
  x.mantissa == 0 && x.isFinite

/-- The number `m * 2 ^ q`, for an `m` below `2 ^ 53` that is below `2 ^ 52` only at the least
exponent. -/
def ofParts (m : Nat) (q : Int) : Binary64 :=
  ⟨UInt64.ofNat ((q - minExponent).toNat * Nat.pow 2 52 + m)⟩

/-- The quotient rounded to the nearest natural number, a tie to the even one. -/
def roundQuotient (num den : Nat) : Nat :=
  let m := num / den
  let r := num % den
  if den < 2 * r ∨ (2 * r = den ∧ m % 2 = 1) then m + 1 else m

/-- `num / den / 2 ^ q` as a pair of natural numbers. -/
def scaled (num den : Nat) (q : Int) : Nat × Nat :=
  if 0 ≤ q then (num, den * Nat.pow 2 q.toNat) else (num * Nat.pow 2 (-q).toNat, den)

/-- The number nearest to `num / den`, or nothing if that lies beyond the greatest number. -/
def nearest? (num den : Nat) : Option Binary64 :=
  if num = 0 then some zero
  else
    let low : Int := (num.log2 : Int) - (den.log2 : Int) - 53
    let (n, d) := scaled num den low
    let q := max minExponent (if Nat.pow 2 53 ≤ n / d then low + 1 else low)
    let (n, d) := scaled num den q
    let m := roundQuotient n d
    let (m, q) := if m = Nat.pow 2 53 then (Nat.pow 2 52, q + 1) else (m, q)
    if maxExponent < q then none else some (ofParts m q)

/-- The magnitude as a fraction. -/
def magnitude (x : Binary64) : Nat × Nat :=
  if 0 ≤ x.exponent then (x.mantissa * Nat.pow 2 x.exponent.toNat, 1)
  else (x.mantissa, Nat.pow 2 (-x.exponent).toNat)

def times? (x y : Binary64) : Option Binary64 :=
  let (a, b) := x.magnitude
  let (c, d) := y.magnitude
  nearest? (a * c) (b * d)

def over? (x y : Binary64) : Option Binary64 :=
  let (a, b) := x.magnitude
  let (c, d) := y.magnitude
  nearest? (a * d) (b * c)

def ofInt (n : Int) : Binary64 :=
  let x := (nearest? n.natAbs 1).getD zero
  if n < 0 then x.neg else x

def power (n : Nat) : Binary64 :=
  (nearest? (Nat.pow 10 n) 1).getD zero

/-- The greatest power of ten that a scaling step uses. -/
def maxPower : Nat := 308

/-- Divides by the greatest power so many times, rounding each time. -/
def shrink : Nat → Binary64 → Binary64
  | 0, x => x
  | n + 1, x => shrink n ((x.over? (power maxPower)).getD x)

/-- A number times a power of ten, by one rounded product or quotient where the power is in range. -/
def scale? (x : Binary64) (e : Int) : Option Binary64 :=
  if e.natAbs ≤ maxPower then
    if 0 ≤ e then x.times? (power e.natAbs) else x.over? (power e.natAbs)
  else if x.isZero then some x
  else if 0 ≤ e then none
  else
    -- three quotients leave nothing of any number
    let steps := (e.natAbs - 1) / maxPower
    (x.shrink (min steps 3)).over? (power (e.natAbs - steps * maxPower))

end Binary64

end PageWalk
