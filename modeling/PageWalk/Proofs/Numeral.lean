import PageWalk.Text.Numeral
import PageWalk.Text.Character

/-!
# What a numeral denotes

`Denotes` says which texts are a numeral of a number: a plus sign or none, and at least one digit.
The reader finds exactly these, and what is written for a number denotes it.
-/

namespace PageWalk.Text.Numeral

set_option autoImplicit false

/-- A text is a numeral of a number; leading zeros are allowed and no length is too great. -/
def Denotes (s : List Char) (n : Nat) : Prop :=
  ∃ digits, (s = digits ∨ s = '+' :: digits) ∧ digits ≠ [] ∧ (∀ c ∈ digits, c.isDigit = true) ∧
    Nat.ofDigitChars 10 digits 0 = n

theorem ofDigits?_eq_some_iff {s : List Char} {n : Nat} :
    ofDigits? s = some n ↔
      s ≠ [] ∧ (∀ c ∈ s, c.isDigit = true) ∧ Nat.ofDigitChars 10 s 0 = n := by
  rw [ofDigits?, Option.ite_none_right_eq_some, List.all_eq_true, Option.some.injEq, and_assoc]
  rfl

/-- The reader accepts exactly the numerals. -/
theorem value?_eq_some_iff {s : List Char} {n : Nat} : value? s = some n ↔ Denotes s n := by
  unfold value?
  split
  · next digits =>
    rw [ofDigits?_eq_some_iff]
    constructor
    · intro h
      exact ⟨digits, .inr rfl, h⟩
    · rintro ⟨_, rfl | same, some_digit, all, value⟩
      · exact absurd (all '+' List.mem_cons_self) (by decide)
      · obtain rfl := (List.cons.inj same).2
        exact ⟨some_digit, all, value⟩
  · next unsigned =>
    rw [ofDigits?_eq_some_iff]
    constructor
    · intro h
      exact ⟨s, .inl rfl, h⟩
    · rintro ⟨digits, rfl | rfl, h⟩
      · exact h
      · exact absurd rfl (unsigned digits)

theorem below?_eq_some_iff {limit n : Nat} {s : List Char} :
    below? limit s = some n ↔ Denotes s n ∧ n < limit := by
  rw [below?, Option.filter_eq_some_iff, value?_eq_some_iff, decide_eq_true_eq]

theorem denotes_write (n : Nat) : Denotes (write n) n :=
  value?_eq_some_iff.mp (value?_write n)

theorem write_injective : Function.Injective write := by
  intro n m same
  have read := value?_write n
  rw [same, value?_write] at read
  exact (Option.some.inj read).symm

theorem isDigit_of_mem_write {n : Nat} {c : Char} (h : c ∈ write n) : c.isDigit = true :=
  Nat.isDigit_of_mem_toDigits (by decide) (by decide) h

theorem isBlank_of_isDigit {c : Char} (h : c.isDigit = true) : isBlank c = false := by
  simp only [Char.isDigit, Bool.and_eq_true, decide_eq_true_eq, UInt32.le_iff_toNat_le] at h
  have low : 48 ≤ c.toNat := h.1
  have high : c.toNat ≤ 57 := h.2
  simp only [isBlank, inRanges, blankRanges, List.any_cons, List.any_nil, Bool.or_eq_false_iff,
    Bool.and_eq_false_iff, decide_eq_false_iff_not, and_true]
  omega

theorem trim_write (n : Nat) : trim (write n) = write n := by
  apply trim_eq_self_of_ends
  · intro c first
    exact isBlank_of_isDigit (isDigit_of_mem_write (List.mem_of_mem_head? first))
  · intro c last
    exact isBlank_of_isDigit (isDigit_of_mem_write (List.mem_of_mem_getLast? last))

theorem denotes_trim_write (n : Nat) : Denotes (trim (write n)) n := by
  rw [trim_write]
  exact denotes_write n

theorem not_mem_write {n : Nat} {c : Char} (h : c.isDigit = false) : c ∉ write n := by
  intro mem
  rw [isDigit_of_mem_write mem] at h
  cases h

end PageWalk.Text.Numeral
