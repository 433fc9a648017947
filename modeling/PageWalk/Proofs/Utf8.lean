import PageWalk.Text.Utf8
import Mathlib.Tactic.IntervalCases
import Mathlib.Tactic.SplitIfs

/-!
# UTF-8 read back

The bytes of a character are read as that character whatever follows them, so a text is read back
from its bytes. Texts are in the order of their bytes.
-/

namespace PageWalk.Text.Utf8

set_option autoImplicit false

theorem toNat_ofNat {n : Nat} (h : n < 256) : (UInt8.ofNat n).toNat = n := by
  rw [UInt8.toNat_ofNat']
  exact Nat.mod_eq_of_lt h

theorem followers_succ {b : Nat} (h : b < 64) (n value : Nat) (rest : List UInt8) :
    followers (n + 1) value (UInt8.ofNat (b + 128) :: rest) = followers n (64 * value + b) rest := by
  rw [followers, toNat_ofNat (by omega), if_pos (by omega), Nat.add_sub_cancel]

theorem next_of_lead {n b : Nat} {lead : Lead} (long : 0x80 ≤ n) (byte : n < 256)
    (known : lead? n = some lead) (h : b < 64) (low : lead.low ≤ b + 128)
    (high : b + 128 ≤ lead.high) (more : List UInt8) :
    next (UInt8.ofNat n) (UInt8.ofNat (b + 128) :: more) =
      ((followers lead.more (64 * lead.bits + b) more).1.map Char.ofNat,
        (followers lead.more (64 * lead.bits + b) more).2) := by
  have second : (UInt8.ofNat (b + 128)).toNat = b + 128 := toNat_ofNat (by omega)
  simp only [next, toNat_ofNat byte, if_neg (Nat.not_lt.mpr long), known, second, low, high,
    and_self, if_true, Nat.add_sub_cancel]

theorem next_two {a b : Nat} (low : 2 ≤ a) (high : a < 32) (hb : b < 64) (rest : List UInt8) :
    next (UInt8.ofNat (a + 192)) (UInt8.ofNat (b + 128) :: rest) =
      (some (Char.ofNat (64 * a + b)), rest) := by
  have known : lead? (a + 192) = some ⟨a, 0x80, 0xBF, 0⟩ := by
    rw [lead?, if_pos (by omega), Nat.add_sub_cancel]
  rw [next_of_lead (by omega) (by omega) known hb (by simp) (by simp; omega)]
  rfl

theorem next_three {a b c : Nat} (ha : a < 16) (hb : b < 64) (hc : c < 64)
    (long : a = 0 → 32 ≤ b) (scalar : a = 13 → b < 32) (rest : List UInt8) :
    next (UInt8.ofNat (a + 224)) (UInt8.ofNat (b + 128) :: UInt8.ofNat (c + 128) :: rest) =
      (some (Char.ofNat (64 * (64 * a + b) + c)), rest) := by
  have known : ∃ low high, lead? (a + 224) = some ⟨a, low, high, 1⟩ ∧ low ≤ b + 128 ∧
      b + 128 ≤ high := by
    interval_cases a <;> refine ⟨_, _, rfl, ?_⟩ <;> omega
  obtain ⟨low, high, known, least, greatest⟩ := known
  rw [next_of_lead (by omega) (by omega) known hb least greatest, followers_succ hc]
  rfl

theorem next_four {a b c d : Nat} (ha : a < 5) (hb : b < 64) (hc : c < 64) (hd : d < 64)
    (long : a = 0 → 16 ≤ b) (scalar : a = 4 → b < 16) (rest : List UInt8) :
    next (UInt8.ofNat (a + 240))
        (UInt8.ofNat (b + 128) :: UInt8.ofNat (c + 128) :: UInt8.ofNat (d + 128) :: rest) =
      (some (Char.ofNat (64 * (64 * (64 * a + b) + c) + d)), rest) := by
  have known : ∃ low high, lead? (a + 240) = some ⟨a, low, high, 2⟩ ∧ low ≤ b + 128 ∧
      b + 128 ≤ high := by
    interval_cases a <;> refine ⟨_, _, rfl, ?_⟩ <;> omega
  obtain ⟨low, high, known, least, greatest⟩ := known
  rw [next_of_lead (by omega) (by omega) known hb least greatest, followers_succ hc,
    followers_succ hd]
  rfl

/-- The bytes of a character are read as that character, whatever follows them. -/
theorem exists_next_encodeChar (c : Char) (rest : List UInt8) :
    ∃ first more, String.utf8EncodeChar c = first :: more ∧
      next first (more ++ rest) = (some c, rest) := by
  have valid : c.val.toNat < 0xD800 ∨ 0xDFFF < c.val.toNat ∧ c.val.toNat < 0x110000 := c.valid
  have back : Char.ofNat c.val.toNat = c := Char.ofNat_toNat c
  unfold String.utf8EncodeChar
  generalize c.val.toNat = v at valid back ⊢
  dsimp only
  split_ifs with one two three
  · refine ⟨_, [], rfl, ?_⟩
    simp only [next, toNat_ofNat (show v < 256 by omega), show v < 0x80 by omega, if_true, back,
      List.nil_append]
  · refine ⟨_, _, rfl, ?_⟩
    rw [show v / 64 % 32 = v / 64 by omega, List.cons_append, List.nil_append,
      next_two (by omega) (by omega) (by omega), Nat.div_add_mod, back]
  · refine ⟨_, _, rfl, ?_⟩
    rw [show v / 4096 % 16 = v / 4096 by omega]
    simp only [List.cons_append, List.nil_append]
    rw [next_three (by omega) (by omega) (by omega) (by omega) (by omega),
      show 64 * (64 * (v / 4096) + v / 64 % 64) + v % 64 = v by omega, back]
  · refine ⟨_, _, rfl, ?_⟩
    rw [show v / 262144 % 8 = v / 262144 by omega]
    simp only [List.cons_append, List.nil_append]
    rw [next_four (by omega) (by omega) (by omega) (by omega) (by omega) (by omega),
      show 64 * (64 * (64 * (v / 262144) + v / 4096 % 64) + v / 64 % 64) + v % 64 = v by omega,
      back]

theorem encode_cons (c : Char) (s : List Char) :
    encode (c :: s) = String.utf8EncodeChar c ++ encode s :=
  List.flatMap_cons

theorem encode_append (s t : List Char) : encode (s ++ t) = encode s ++ encode t :=
  List.flatMap_append

theorem units_encode (s : List Char) : units (encode s) = s.map some := by
  induction s with
  | nil => rw [encode, List.flatMap_nil, units, List.map_nil]
  | cons c s ih =>
    obtain ⟨first, more, bytes, read⟩ := exists_next_encodeChar c (encode s)
    rw [encode_cons, bytes, List.cons_append, units, read, ih, List.map_cons]

theorem decode?_encode (s : List Char) : decode? (encode s) = some s := by
  rw [decode?, units_encode, List.mapM_map]
  induction s with
  | nil => rfl
  | cons c s ih =>
    rw [List.mapM_cons, ih]
    rfl

theorem decodeLossy_encode (s : List Char) : decodeLossy (encode s) = s := by
  rw [decodeLossy, units_encode, List.map_map]
  exact List.map_id s

theorem length_le_encode (s : List Char) : s.length ≤ (encode s).length := by
  induction s with
  | nil => exact Nat.le_refl _
  | cons c s ih =>
    have more : 0 < (String.utf8EncodeChar c).length :=
      List.length_pos_iff.mpr String.utf8EncodeChar_ne_nil
    rw [encode_cons, List.length_append, List.length_cons]
    omega

/-- A byte of ASCII only encodes the character that it is. -/
theorem encodeChar_of_mem {c : Char} {b : UInt8} (h : b ∈ String.utf8EncodeChar c)
    (ascii : b.toNat < 0x80) : c.toNat = b.toNat ∧ String.utf8EncodeChar c = [b] := by
  revert h
  show b ∈ String.utf8EncodeChar c → c.val.toNat = _ ∧ _
  unfold String.utf8EncodeChar
  have high {n : Nat} (low : 0x80 ≤ n) (byte : n < 256) : b ≠ UInt8.ofNat n := by
    rintro rfl
    rw [toNat_ofNat byte] at ascii
    omega
  generalize c.val.toNat = v
  dsimp only
  split_ifs with one two three
  · intro h
    obtain rfl := List.mem_singleton.mp h
    rw [toNat_ofNat (by omega)]
    exact ⟨rfl, rfl⟩
  all_goals
    intro h
    simp only [List.mem_cons, List.not_mem_nil, or_false] at h
    exfalso
  · rcases h with h | h
    · exact high (by omega) (by omega) h
    · exact high (by omega) (by omega) h
  · rcases h with h | h | h
    · exact high (by omega) (by omega) h
    · exact high (by omega) (by omega) h
    · exact high (by omega) (by omega) h
  · rcases h with h | h | h | h
    · exact high (by omega) (by omega) h
    · exact high (by omega) (by omega) h
    · exact high (by omega) (by omega) h
    · exact high (by omega) (by omega) h

/-! ## Order -/

theorem ofNat_lt_iff {n m : Nat} (hn : n < 256) (hm : m < 256) :
    UInt8.ofNat n < UInt8.ofNat m ↔ n < m := by
  rw [UInt8.lt_iff_toNat_lt, toNat_ofNat hn, toNat_ofNat hm]

theorem ofNat_eq_iff {n m : Nat} (hn : n < 256) (hm : m < 256) :
    UInt8.ofNat n = UInt8.ofNat m ↔ n = m := by
  rw [← UInt8.toNat_inj, toNat_ofNat hn, toNat_ofNat hm]

/-- Characters are in the order of their bytes, whatever follows them. -/
theorem encodeChar_lt {c d : Char} (h : c < d) (s t : List UInt8) :
    String.utf8EncodeChar c ++ s < String.utf8EncodeChar d ++ t := by
  have less : c.val.toNat < d.val.toNat := h
  have valid : d.val.toNat < 0x110000 := by
    have valid := d.valid
    rcases valid with low | ⟨-, high⟩
    · exact Nat.lt_trans low (by decide)
    · exact high
  unfold String.utf8EncodeChar
  generalize c.val.toNat = v at less
  generalize d.val.toNat = w at less valid
  dsimp only
  -- the first bytes tell apart characters of as many bytes or not
  have first : v / 262144 < w / 262144 ∨ v / 262144 = w / 262144 ∧ v % 262144 < w % 262144 := by
    omega
  split_ifs
  all_goals
    simp (disch := omega) only [List.cons_append, List.nil_append, List.cons_lt_cons_iff,
      ofNat_lt_iff, ofNat_eq_iff]
  all_goals try omega
  rcases first with lead | ⟨lead, later⟩
  · omega
  · right
    omega

theorem encode_lt {s t : List Char} (h : s < t) : encode s < encode t := by
  induction s generalizing t with
  | nil =>
    cases t with
    | nil => exact absurd h (List.lt_irrefl _)
    | cons d t =>
      rw [encode_cons]
      obtain ⟨b, bytes, some_byte⟩ := List.exists_cons_of_ne_nil (String.utf8EncodeChar_ne_nil (c := d))
      rw [some_byte]
      exact List.nil_lt_cons b (bytes ++ encode t)
  | cons c s ih =>
    cases t with
    | nil => exact absurd h (List.not_lt_nil _)
    | cons d t =>
      rw [encode_cons, encode_cons]
      rcases List.cons_lt_cons_iff.mp h with less | ⟨rfl, rest⟩
      · exact encodeChar_lt less _ _
      · exact List.append_left_lt (ih rest)

end PageWalk.Text.Utf8
