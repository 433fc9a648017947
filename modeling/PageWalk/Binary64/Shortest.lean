import PageWalk.Binary64.Basic

/-!
# Shortest decimals

The decimal with the fewest digits that reads back as a given number, and of those the nearest one.
A number reads back from everything between the midpoints to its two neighbours.
-/

namespace PageWalk.Binary64

set_option autoImplicit false

/-- `digits * 10 ^ power`. -/
structure Decimal where
  digits : Nat
  power : Int

/-- The number of decimal digits less one. -/
def decimalLog (n : Nat) : Nat :=
  (Nat.toDigits 10 n).length - 1

/-- The `e` with `10 ^ e ≤ num / den < 10 ^ (e + 1)`. -/
def decimalExponent (num den : Nat) : Int :=
  if den ≤ num then decimalLog (num / den)
  else
    let j := decimalLog (den / num)
    if den ≤ num * Nat.pow 10 j then -(j : Int) else -(j + 1 : Int)

/-- Quarters of the distance to the neighbours: the interval that reads back, in these units. -/
structure Interval where
  low : Nat
  mid : Nat
  high : Nat
  closed : Bool

def interval (x : Binary64) : Interval :=
  let m := x.mantissa
  let narrow := m = Nat.pow 2 52 ∧ minExponent < x.exponent
  { low := if narrow then 4 * m - 1 else 4 * m - 2
    mid := 4 * m
    high := 4 * m + 2
    closed := m % 2 = 0 }

def Interval.holds (i : Interval) (scale value : Nat) : Bool :=
  if i.closed then i.low * scale ≤ value && value ≤ i.high * scale
  else i.low * scale < value && value < i.high * scale

def powerOf (base : Nat) (e : Int) : Nat × Nat :=
  if 0 ≤ e then (Nat.pow base e.toNat, 1) else (1, Nat.pow base (-e).toNat)

/-- The decimal of the grid `10 ^ power` that reads back, if there is one. -/
def onGrid? (x : Binary64) (power : Int) : Option Decimal :=
  let i := x.interval
  let (unitNum, unitDen) := powerOf 2 (x.exponent - 2)
  let (gridNum, gridDen) := powerOf 10 power
  let scale := unitNum * gridDen
  let step := gridNum * unitDen
  let below := i.mid * scale / step
  let fits (d : Nat) : Bool := i.holds scale (d * step)
  let down := i.mid * scale - below * step
  let up := (below + 1) * step - i.mid * scale
  match fits below, fits (below + 1) with
  | true, true =>
    if down < up ∨ (down = up ∧ below % 2 = 0) then some ⟨below, power⟩
    else some ⟨below + 1, power⟩
  | true, false => some ⟨below, power⟩
  | false, true => some ⟨below + 1, power⟩
  | false, false => none

def maxDigits : Nat := 17

/-- The shortest decimal of a number that is neither zero nor infinite. -/
def shortest (x : Binary64) : Decimal :=
  let (num, den) := x.magnitude
  let e := decimalExponent num den
  let grids := (List.range maxDigits).map fun (n : Nat) => e - n
  (grids.findSome? x.onGrid?).getD ⟨0, 0⟩

def Decimal.trimmed (d : Decimal) : List Char × Int :=
  let digits := Nat.toDigits 10 d.digits
  let zeros := (digits.reverse.takeWhile (· = '0')).length
  (digits.take (digits.length - zeros), d.power + zeros)

/-- The text of a finite number: positional where the point is near the first digit, with at least one
digit after it; else with an exponent. -/
def text (x : Binary64) : List Char :=
  let sign := if x.isNegative then ['-'] else []
  if x.isZero then sign ++ ['0', '.', '0']
  else
    let (digits, power) := x.shortest.trimmed
    let point : Int := digits.length + power
    sign ++
      if 0 ≤ power ∧ point ≤ 16 then
        digits ++ List.replicate power.toNat '0' ++ ['.', '0']
      else if 0 < point ∧ point ≤ 16 then
        digits.take point.toNat ++ '.' :: digits.drop point.toNat
      else if -5 < point ∧ point ≤ 0 then
        ['0', '.'] ++ List.replicate (-point).toNat '0' ++ digits
      else
        digits.take 1 ++ (if digits.length = 1 then [] else '.' :: digits.drop 1) ++
          'e' :: (toString (point - 1)).toList

end PageWalk.Binary64
