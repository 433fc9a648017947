import PageWalk.Text.Character

/-!
# JSON string literals

`encode` writes a text between double quotes with as few escapes as the format allows; `read` takes
a literal apart after its opening quote and refuses control characters, unknown escapes and
surrogates that are not a pair. Main statement: reading gives back what was written.
-/

namespace PageWalk.Json.Quoted

set_option autoImplicit false

open Text (hexValue)

/-- How a character is written inside a literal. -/
def escaped (c : Char) : List Char :=
  if c = '"' then ['\\', '"']
  else if c = '\\' then ['\\', '\\']
  else if c = '\x08' then ['\\', 'b']
  else if c = '\x0c' then ['\\', 'f']
  else if c = '\n' then ['\\', 'n']
  else if c = '\r' then ['\\', 'r']
  else if c = '\t' then ['\\', 't']
  else if c.toNat < 0x20 then
    ['\\', 'u', '0', '0', Nat.digitChar (c.toNat / 16), Nat.digitChar (c.toNat % 16)]
  else [c]

/-- What stands between the quotes. -/
def body (s : List Char) : List Char :=
  s.flatMap escaped

def encode (s : List Char) : List Char :=
  '"' :: (body s ++ ['"'])

/-- The value of four hexadecimal digits, and what follows them. -/
def hex4 : List Char → Option (Nat × List Char)
  | a :: b :: c :: d :: rest => do
    let a ← hexValue a
    let b ← hexValue b
    let c ← hexValue c
    let d ← hexValue d
    some (((a * 16 + b) * 16 + c) * 16 + d, rest)
  | _ => none

theorem length_of_hex4 {s rest : List Char} {n : Nat} (h : hex4 s = some (n, rest)) :
    rest.length < s.length := by
  unfold hex4 at h
  split at h
  · simp only [Option.bind_eq_bind, Option.bind_eq_some_iff, Option.some.injEq,
      Prod.mk.injEq] at h
    obtain ⟨_, _, _, _, _, _, _, _, _, rfl⟩ := h
    simp only [List.length_cons]
    omega
  · exact absurd h (by simp)

def surrogatePair (high low : Nat) : Char :=
  Char.ofNat (0x10000 + (high - 0xD800) * 0x400 + (low - 0xDC00))

/-- What an escape stands for, read after its backslash. -/
def readEscape : List Char → Option (Char × List Char)
  | '"' :: rest => some ('"', rest)
  | '\\' :: rest => some ('\\', rest)
  | '/' :: rest => some ('/', rest)
  | 'b' :: rest => some ('\x08', rest)
  | 'f' :: rest => some ('\x0c', rest)
  | 'n' :: rest => some ('\n', rest)
  | 'r' :: rest => some ('\r', rest)
  | 't' :: rest => some ('\t', rest)
  | 'u' :: rest =>
    match hex4 rest with
    | none => none
    | some (unit, rest) =>
      if unit < 0xD800 ∨ 0xDFFF < unit then some (Char.ofNat unit, rest)
      else if 0xDC00 ≤ unit then none
      else
        match rest with
        | '\\' :: 'u' :: rest =>
          match hex4 rest with
          | none => none
          | some (low, rest) =>
            if 0xDC00 ≤ low ∧ low ≤ 0xDFFF then some (surrogatePair unit low, rest) else none
        | _ => none
  | _ => none

theorem length_of_readEscape {s rest : List Char} {c : Char}
    (h : readEscape s = some (c, rest)) : rest.length < s.length := by
  unfold readEscape at h
  split at h
  case h_9 r =>
    split at h
    · exact absurd h (by simp)
    · rename_i unit r₁ first
      have shorter := length_of_hex4 first
      split at h
      · simp only [Option.some.injEq, Prod.mk.injEq] at h
        obtain ⟨-, rfl⟩ := h
        simp only [List.length_cons]
        omega
      · split at h
        · exact absurd h (by simp)
        · split at h
          · split at h
            · exact absurd h (by simp)
            · rename_i low r₂ second
              have shorter₂ := length_of_hex4 second
              split at h
              · simp only [Option.some.injEq, Prod.mk.injEq] at h
                obtain ⟨-, rfl⟩ := h
                simp only [List.length_cons] at shorter ⊢
                omega
              · exact absurd h (by simp)
          · exact absurd h (by simp)
  case h_10 => exact absurd h (by simp)
  all_goals
    simp only [Option.some.injEq, Prod.mk.injEq] at h
    obtain ⟨-, rfl⟩ := h
    simp

/-- Reads a literal after its opening quote; the second part is what follows its closing quote. -/
def read (s : List Char) : Option (List Char × List Char) :=
  match s with
  | [] => none
  | '"' :: rest => some ([], rest)
  | '\\' :: rest =>
    match _h : readEscape rest with
    | none => none
    | some (c, rest') => (read rest').map fun (text, after) => (c :: text, after)
  | c :: rest =>
    if c.toNat < 0x20 then none
    else (read rest).map fun (text, after) => (c :: text, after)
termination_by s.length
decreasing_by
  · have := length_of_readEscape _h
    simp only [List.length_cons]
    omega
  · simp

theorem length_of_read {s text rest : List Char} (h : read s = some (text, rest)) :
    rest.length < s.length := by
  fun_induction read s generalizing text with
  | case1 => simp at h
  | case2 => simp_all
  | case3 => simp at h
  | case4 r c r' escape ih =>
    simp only [Option.map_eq_some_iff, Prod.exists, Prod.mk.injEq] at h
    obtain ⟨t, a, more, -, rfl⟩ := h
    have shorter := length_of_readEscape escape
    have := ih more
    simp only [List.length_cons]
    omega
  | case5 => simp at h
  | case6 c r _ _ _ ih =>
    simp only [Option.map_eq_some_iff, Prod.exists, Prod.mk.injEq] at h
    obtain ⟨t, a, more, -, rfl⟩ := h
    have := ih more
    simp only [List.length_cons]
    omega

/-- The letters after a backslash, but for the one of hexadecimal escapes. -/
def escapeLetters : List Char :=
  ['"', '\\', '/', 'b', 'f', 'n', 'r', 't']

/-- Passes over a literal, whatever surrogates its escapes name. -/
def skip (s : List Char) : Option (List Char) :=
  match s with
  | [] => none
  | '"' :: rest => some rest
  | ['\\'] => none
  | '\\' :: c :: rest =>
    if c = 'u' then
      match _h : hex4 rest with
      | none => none
      | some (_, rest') => skip rest'
    else if c ∈ escapeLetters then skip rest
    else none
  | c :: rest => if c.toNat < 0x20 then none else skip rest
termination_by s.length
decreasing_by
  · have := length_of_hex4 _h
    simp only [List.length_cons]
    omega
  · simp only [List.length_cons]
    omega
  · simp

theorem length_of_skip {s rest : List Char} (h : skip s = some rest) :
    rest.length < s.length := by
  fun_induction skip s with
  | case1 => simp at h
  | case2 => simp_all
  | case3 => simp at h
  | case4 => simp at h
  | case5 r _ r' hex ih =>
    have shorter := length_of_hex4 hex
    have := ih h
    simp only [List.length_cons]
    omega
  | case6 c r _ _ ih =>
    have := ih h
    simp only [List.length_cons]
    omega
  | case7 => simp at h
  | case8 => simp at h
  | case9 c r _ _ _ _ ih =>
    have := ih h
    simp only [List.length_cons]
    omega

end PageWalk.Json.Quoted
