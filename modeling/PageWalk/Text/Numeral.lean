/-!
# Numerals

A numeral is an optional plus sign and one or more ASCII digits; leading zeros are allowed and no
length is too great. `value?` reads one, and a bound is checked on the value, never on the digits.
-/

namespace PageWalk.Text.Numeral

set_option autoImplicit false

def digitsValue (digits : List Char) : Nat :=
  Nat.ofDigitChars 10 digits 0

def ofDigits? (s : List Char) : Option Nat :=
  if s ≠ [] ∧ s.all Char.isDigit then some (digitsValue s) else none

def value? : List Char → Option Nat
  | '+' :: digits => ofDigits? digits
  | s => ofDigits? s

/-- The value of a numeral if it is below the limit. -/
def below? (limit : Nat) (s : List Char) : Option Nat :=
  (value? s).filter (· < limit)

/-- The decimal digits of a number, without a sign or leading zeros. -/
def write (n : Nat) : List Char :=
  Nat.toDigits 10 n

theorem ofDigits?_write (n : Nat) : ofDigits? (write n) = some n := by
  have digits : (write n).all Char.isDigit = true :=
    List.all_eq_true.2 fun _ h => Nat.isDigit_of_mem_toDigits (by decide) (by decide) h
  rw [ofDigits?, if_pos ⟨Nat.toDigits_ne_nil, digits⟩, digitsValue, write,
    Nat.ofDigitChars_toDigits (by decide) (by decide)]

theorem value?_write (n : Nat) : value? (write n) = some n := by
  unfold value?
  split
  · rename_i digits h
    have plus : ('+' : Char) ∈ Nat.toDigits 10 n := by
      simp [show Nat.toDigits 10 n = '+' :: digits from h]
    exact absurd (Nat.isDigit_of_mem_toDigits (by decide) (by decide) plus) (by decide)
  · exact ofDigits?_write n

end PageWalk.Text.Numeral
