import PageWalk.Json.Basic

/-!
# Numbers in JSON texts

A numeral without point and exponent is an integer as far as 64 bits reach; every other numeral is a
floating-point number. Its digits are gathered into a significand of 64 bits, digits that no longer
fit are passed over, and the significand is scaled by a power of ten.
-/

namespace PageWalk.Json

set_option autoImplicit false

/-- A numeral in its parts: the digits before and after the point, and the exponent. -/
structure Numeral where
  negative : Bool
  whole : List Char
  fraction : List Char
  exponent : Option (Bool × List Char)

def pastDigits (s : List Char) : List Char :=
  s.dropWhile Char.isDigit

theorem length_pastDigits_le (s : List Char) : (pastDigits s).length ≤ s.length :=
  (List.dropWhile_sublist _).length_le

/-- The digits after a point, if there is a point. -/
def readFraction : List Char → Option (List Char × List Char)
  | '.' :: rest =>
    match rest.takeWhile Char.isDigit with
    | [] => none
    | digits => some (digits, pastDigits rest)
  | s => some ([], s)

/-- Whether a text starts with a minus sign, and what follows the sign. -/
def readMinus : List Char → Bool × List Char
  | '-' :: rest => (true, rest)
  | s => (false, s)

def pastPlus : List Char → List Char
  | '+' :: rest => rest
  | s => s

def readSign (s : List Char) : Bool × List Char :=
  match readMinus s with
  | (true, rest) => (true, rest)
  | (false, rest) => (false, pastPlus rest)

def readPower (s : List Char) : Option ((Bool × List Char) × List Char) :=
  match (readSign s).2.takeWhile Char.isDigit with
  | [] => none
  | digits => some (((readSign s).1, digits), pastDigits (readSign s).2)

def readExponent : List Char → Option (Option (Bool × List Char) × List Char)
  | 'e' :: rest => (readPower rest).map fun (power, after) => (some power, after)
  | 'E' :: rest => (readPower rest).map fun (power, after) => (some power, after)
  | s => some (none, s)

/-- The digits before the point; a zero stands alone. -/
def readWhole : List Char → Option (List Char × List Char)
  | [] => none
  | c :: rest =>
    if c = '0' then
      match rest with
      | [] => some (['0'], [])
      | d :: more => if d.isDigit then none else some (['0'], d :: more)
    else if c.isDigit then some ((c :: rest).takeWhile Char.isDigit, pastDigits rest)
    else none

def readNumeral (s : List Char) : Option (Numeral × List Char) := do
  let (whole, rest) ← readWhole (readMinus s).2
  let (fraction, rest) ← readFraction rest
  let (exponent, rest) ← readExponent rest
  some (⟨(readMinus s).1, whole, fraction, exponent⟩, rest)

def maxSignificand : Nat := 0xFFFFFFFFFFFFFFFF

/-- Appends digits to a significand while they fit: the significand and how many did not. -/
def gather : Nat → List Char → Nat × Nat
  | n, [] => (n, 0)
  | n, c :: rest =>
    let next := n * 10 + (c.toNat - 48)
    if next ≤ maxSignificand then gather next rest else (n, rest.length + 1)

/-- The largest exponent that is told apart from an endless one. -/
def maxExponent : Nat := 0x7FFFFFFF

def signed (negative : Bool) (x : Binary64) : Binary64 :=
  if negative then x.neg else x

def Numeral.value (n : Numeral) : Json :=
  let (significand, skipped) := gather 0 n.whole
  if n.fraction = [] ∧ n.exponent = none ∧ skipped = 0 then
    if !n.negative then int significand
    else if 0 < significand ∧ significand ≤ 0x8000000000000000 then int (-(significand : Int))
    else float (Binary64.ofInt significand).neg
  else
    let (significand, left) := gather significand n.fraction
    let shift : Int := (skipped : Int) - ((n.fraction.length - left : Nat) : Int)
    match n.exponent with
    | none => scaled significand shift
    | some (negativePower, digits) =>
      let power := Nat.ofDigitChars 10 digits 0
      if maxExponent < power then
        if significand ≠ 0 ∧ !negativePower then unreadable
        else float (signed n.negative Binary64.zero)
      else scaled significand (if negativePower then shift - power else shift + power)
where
  scaled (significand : Nat) (shift : Int) : Json :=
    match (Binary64.ofInt significand).scale? shift with
    | some x => float (signed n.negative x)
    | none => unreadable

theorem length_of_readWhole {s digits rest : List Char} (h : readWhole s = some (digits, rest)) :
    rest.length < s.length := by
  unfold readWhole at h
  split at h
  · simp at h
  · rename_i c r
    split at h
    · split at h
      · simp only [Option.some.injEq, Prod.mk.injEq] at h
        simp [← h.2]
      · split at h
        · simp at h
        · simp only [Option.some.injEq, Prod.mk.injEq] at h
          obtain ⟨-, rfl⟩ := h
          simp
    · split at h
      · simp only [Option.some.injEq, Prod.mk.injEq] at h
        obtain ⟨-, rfl⟩ := h
        have := length_pastDigits_le r
        simp only [List.length_cons]
        omega
      · simp at h

theorem length_of_readFraction {s digits rest : List Char}
    (h : readFraction s = some (digits, rest)) : rest.length ≤ s.length := by
  unfold readFraction at h
  split at h
  · rename_i r
    split at h
    · simp at h
    · simp only [Option.some.injEq, Prod.mk.injEq] at h
      obtain ⟨-, rfl⟩ := h
      have := length_pastDigits_le r
      simp only [List.length_cons]
      omega
  · simp_all

theorem length_readMinus_le (s : List Char) : (readMinus s).2.length ≤ s.length := by
  unfold readMinus
  split <;> simp

theorem length_pastPlus_le (s : List Char) : (pastPlus s).length ≤ s.length := by
  unfold pastPlus
  split <;> simp

theorem length_readSign_le (s : List Char) : (readSign s).2.length ≤ s.length := by
  have minus := length_readMinus_le s
  unfold readSign
  split
  · rename_i h
    simpa [h] using minus
  · rename_i rest h
    rw [h] at minus
    exact Nat.le_trans (length_pastPlus_le rest) minus

theorem length_of_readPower {s rest : List Char} {power : Bool × List Char}
    (h : readPower s = some (power, rest)) : rest.length ≤ s.length := by
  unfold readPower at h
  split at h
  · simp at h
  · simp only [Option.some.injEq, Prod.mk.injEq] at h
    obtain ⟨-, rfl⟩ := h
    exact Nat.le_trans (length_pastDigits_le _) (length_readSign_le s)

theorem length_of_readExponent {s rest : List Char} {exponent : Option (Bool × List Char)}
    (h : readExponent s = some (exponent, rest)) : rest.length ≤ s.length := by
  unfold readExponent at h
  split at h
  case h_3 => simp_all
  all_goals
    simp only [Option.map_eq_some_iff, Prod.exists, Prod.mk.injEq] at h
    obtain ⟨_, _, _, power, -, rfl⟩ := h
    have := length_of_readPower power
    simp only [List.length_cons]
    omega

theorem length_of_readNumeral {s rest : List Char} {n : Numeral}
    (h : readNumeral s = some (n, rest)) : rest.length < s.length := by
  simp only [readNumeral, Option.bind_eq_bind, Option.bind_eq_some_iff, Prod.exists,
    Option.some.injEq, Prod.mk.injEq] at h
  obtain ⟨_, _, whole, _, _, fraction, _, _, exponent, -, rfl⟩ := h
  have := length_readMinus_le s
  have := length_of_readWhole whole
  have := length_of_readFraction fraction
  have := length_of_readExponent exponent
  omega

end PageWalk.Json
