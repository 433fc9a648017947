/-!
# Characters

Tables of characters, the blanks that are trimmed from commands and texts, and the digits of bases up to
sixteen. A property of characters is a list of ranges of code points, a map of characters a list of runs
in which all characters move by one distance.
-/

namespace PageWalk.Text

set_option autoImplicit false

/-! ## Tables -/

def inRanges (ranges : List (Nat × Nat)) (code : Nat) : Bool :=
  ranges.any fun (first, last) => first ≤ code && code ≤ last

/-- Characters whose image lies at a fixed distance: every `step`-th one from `first` to `last`. -/
structure Shift where
  first : Nat
  last : Nat
  step : Nat
  distance : Int

def Shift.covers (s : Shift) (code : Nat) : Bool :=
  s.first ≤ code && code ≤ s.last && (code - s.first) % s.step == 0

def Shift.image (s : Shift) (code : Nat) : Char :=
  Char.ofNat (code + s.distance).toNat

/-! ## Blanks -/

/-- The characters with the Unicode property `White_Space`. -/
def blankRanges : List (Nat × Nat) :=
  [(0x9, 0xD), (0x20, 0x20), (0x85, 0x85), (0xA0, 0xA0), (0x1680, 0x1680), (0x2000, 0x200A),
    (0x2028, 0x2029), (0x202F, 0x202F), (0x205F, 0x205F), (0x3000, 0x3000)]

def isBlank (c : Char) : Bool :=
  inRanges blankRanges c.toNat

def trimStart (s : List Char) : List Char :=
  s.dropWhile isBlank

def trimEnd (s : List Char) : List Char :=
  (s.reverse.dropWhile isBlank).reverse

def trim (s : List Char) : List Char :=
  trimEnd (trimStart s)

theorem trim_eq_self_of_ends {s : List Char} (first : ∀ c ∈ s.head?, isBlank c = false)
    (last : ∀ c ∈ s.getLast?, isBlank c = false) : trim s = s := by
  have start : trimStart s = s := by
    cases s with
    | nil => rfl
    | cons c rest => simp [trimStart, List.dropWhile, first c (by simp)]
  rw [trim, start, trimEnd]
  cases h : s.reverse with
  | nil => simpa using h.symm
  | cons c rest =>
    have hc : isBlank c = false := last c (by
      rw [← List.head?_reverse, h]; simp)
    rw [List.dropWhile_cons, hc]
    simp [← h]

/-! ## Digits -/

def hexValue (c : Char) : Option Nat :=
  if '0' ≤ c ∧ c ≤ '9' then some (c.toNat - 48)
  else if 'a' ≤ c ∧ c ≤ 'f' then some (c.toNat - 87)
  else if 'A' ≤ c ∧ c ≤ 'F' then some (c.toNat - 55)
  else none

/-- The value of a digit of a base. -/
def digit? (base : Nat) (c : Char) : Option Nat :=
  (hexValue c).filter (· < base)

/-- The value of a run of digits of a base; an empty run is zero. -/
def digits? (base : Nat) (s : List Char) : Option Nat :=
  (s.mapM (digit? base)).map fun digits => digits.foldl (fun value d => base * value + d) 0

def upperHexDigit (n : Nat) : Char :=
  if n < 10 then Char.ofNat (48 + n) else Char.ofNat (55 + n)

theorem hexValue_upperHexDigit : ∀ n < 16, hexValue (upperHexDigit n) = some n := by
  decide

end PageWalk.Text
