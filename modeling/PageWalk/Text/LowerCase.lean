import PageWalk.Text.CaseTable

/-!
# Lower case

The lower-case form of a text. Each character is mapped by itself, but for two: a dotted capital I
becomes an i and a combining dot, and a capital sigma takes its final form at the end of a word.
-/

namespace PageWalk.Text

set_option autoImplicit false

open CaseTable

/-- What is true of each code below 128 is true of each character of ASCII. -/
@[elab_as_elim]
theorem forall_ascii {P : Char → Prop} (all : ∀ n < 0x80, P (Char.ofNat n)) (c : Char)
    (h : c.toNat < 0x80) : P c := by
  have here := all c.toNat h
  rwa [Char.ofNat_toNat] at here

theorem bounds_of_isAlphanum {c : Char} (h : c.isAlphanum = true) :
    0x30 ≤ c.toNat ∧ c.toNat < 0x7B := by
  delta Char.isAlphanum Char.isAlpha Char.isUpper Char.isLower Char.isDigit at h
  simp only [Bool.or_eq_true, Bool.and_eq_true, decide_eq_true_iff, ge_iff_le,
    UInt32.le_iff_toNat_le, Char.reduceVal, UInt32.reduceToNat] at h
  show 0x30 ≤ c.val.toNat ∧ c.val.toNat < 0x7B
  omega

/-- Changes the twenty-six capital letters of ASCII and nothing else. -/
def asciiLower (c : Char) : Char :=
  if 'A' ≤ c ∧ c ≤ 'Z' then Char.ofNat (c.toNat + 32) else c

def lowerChar (c : Char) : List Char :=
  if c.toNat < 0x80 then [asciiLower c]
  else if c = '\u0130' then ['i', '\u0307']
  else
    match shifts.find? (·.covers c.toNat) with
    | some shift => [shift.image c.toNat]
    | none => [c]

/-- Whether the first character that is not passed over is a cased one. -/
def reachesCased : List Char → Bool
  | [] => false
  | c :: rest =>
    if inRanges ignorableRanges c.toNat then reachesCased rest
    else inRanges casedRanges c.toNat

/-- Lower-cases a text, given the characters before it with the nearest first. -/
def lowerFrom : List Char → List Char → List Char
  | _, [] => []
  | before, c :: rest =>
    if c = 'Σ' then
      (if reachesCased before && !reachesCased rest then 'ς' else 'σ') ::
        lowerFrom (c :: before) rest
    else lowerChar c ++ lowerFrom (c :: before) rest

def lower (s : List Char) : List Char :=
  lowerFrom [] s

end PageWalk.Text
