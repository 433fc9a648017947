/-!
# UTF-8

The bytes of a text and back. A malformed sequence is cut off where it stops being the beginning of
a character: `decodeLossy` puts one replacement character in its place, `decode?` refuses the whole.
-/

namespace PageWalk.Text.Utf8

set_option autoImplicit false

def encode (s : List Char) : List UInt8 :=
  s.flatMap String.utf8EncodeChar

/-- What the first byte of a longer character fixes. -/
structure Lead where
  /-- The highest bits of the character. -/
  bits : Nat
  /-- The least and the greatest second byte. -/
  low : Nat
  high : Nat
  /-- How many bytes follow the second. -/
  more : Nat

def lead? (b : Nat) : Option Lead :=
  if 0xC2 ≤ b ∧ b ≤ 0xDF then some ⟨b - 0xC0, 0x80, 0xBF, 0⟩
  else if b = 0xE0 then some ⟨0, 0xA0, 0xBF, 1⟩
  else if b = 0xED then some ⟨0xD, 0x80, 0x9F, 1⟩
  else if 0xE1 ≤ b ∧ b ≤ 0xEF then some ⟨b - 0xE0, 0x80, 0xBF, 1⟩
  else if b = 0xF0 then some ⟨0, 0x90, 0xBF, 2⟩
  else if b = 0xF4 then some ⟨4, 0x80, 0x8F, 2⟩
  else if 0xF1 ≤ b ∧ b ≤ 0xF3 then some ⟨b - 0xF0, 0x80, 0xBF, 2⟩
  else none

/-- Takes so many bytes that follow a first one, and adds their bits. -/
def followers : Nat → Nat → List UInt8 → Option Nat × List UInt8
  | 0, value, rest => (some value, rest)
  | _ + 1, _, [] => (none, [])
  | n + 1, value, b :: rest =>
    if 0x80 ≤ b.toNat ∧ b.toNat ≤ 0xBF then followers n (64 * value + (b.toNat - 0x80)) rest
    else (none, b :: rest)

theorem length_followers (n value : Nat) (bytes : List UInt8) :
    (followers n value bytes).2.length ≤ bytes.length := by
  fun_induction followers n value bytes with
  | case1 => simp
  | case2 => simp
  | case3 n value b rest _ ih => simp only [List.length_cons]; omega
  | case4 => simp

/-- The first character and the bytes after it, or after what is malformed. -/
def next (first : UInt8) (rest : List UInt8) : Option Char × List UInt8 :=
  if first.toNat < 0x80 then (some (Char.ofNat first.toNat), rest)
  else
    match lead? first.toNat, rest with
    | some lead, second :: more =>
      if lead.low ≤ second.toNat ∧ second.toNat ≤ lead.high then
        match followers lead.more (64 * lead.bits + (second.toNat - 0x80)) more with
        | (value, after) => (value.map Char.ofNat, after)
      else (none, rest)
    | _, _ => (none, rest)

theorem length_next (first : UInt8) (rest : List UInt8) :
    (next first rest).2.length ≤ rest.length := by
  unfold next
  split
  · simp
  · split
    · split
      · exact Nat.le_trans (length_followers _ _ _) (Nat.le_succ _)
      · simp
    · simp

/-- The characters in order; `none` stands for a malformed sequence. -/
def units : List UInt8 → List (Option Char)
  | [] => []
  | first :: rest => (next first rest).1 :: units (next first rest).2
termination_by bytes => bytes.length
decreasing_by
  have := length_next first rest
  simp only [List.length_cons]
  omega

def decodeLossy (bytes : List UInt8) : List Char :=
  (units bytes).map (·.getD '\uFFFD')

def decode? (bytes : List UInt8) : Option (List Char) :=
  (units bytes).mapM id

end PageWalk.Text.Utf8
