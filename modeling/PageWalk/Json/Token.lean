import PageWalk.Text.Basic
import PageWalk.Json.Number
import PageWalk.Json.Quoted

/-!
# JSON tokens

A text in brackets, commas, colons and values without parts. Blanks between tokens are dropped.
-/

namespace PageWalk.Json

set_option autoImplicit false

inductive Token where
  | arrayStart
  | arrayEnd
  | objectStart
  | objectEnd
  | comma
  | colon
  | scalar (value : Json)
  /-- A string that holds half a surrogate pair. -/
  | broken

/-- A blank between tokens. -/
def isGap (c : Char) : Bool :=
  c = ' ' || c = '\n' || c = '\r' || c = '\t'

def readString (s : List Char) : Option (Token × List Char) :=
  match Quoted.read s with
  | some (text, rest) => some (.scalar (str (String.ofList text)), rest)
  | none => (Quoted.skip s).map fun rest => (.broken, rest)

def readScalar (c : Char) (rest : List Char) : Option (Token × List Char) :=
  if c = '"' then readString rest
  else if c = 't' then (Text.after? "rue".toList rest).map fun rest => (.scalar (bool true), rest)
  else if c = 'f' then (Text.after? "alse".toList rest).map fun rest => (.scalar (bool false), rest)
  else if c = 'n' then (Text.after? "ull".toList rest).map fun rest => (.scalar null, rest)
  else (readNumeral (c :: rest)).map fun (n, rest) => (.scalar n.value, rest)

def mark? (c : Char) : Option Token :=
  if c = '[' then some .arrayStart
  else if c = ']' then some .arrayEnd
  else if c = '{' then some .objectStart
  else if c = '}' then some .objectEnd
  else if c = ',' then some .comma
  else if c = ':' then some .colon
  else none

theorem length_of_after? {lead s rest : List Char} (h : Text.after? lead s = some rest) :
    rest.length ≤ s.length := by
  simp only [Text.after?, Option.ite_none_right_eq_some, Option.some.injEq] at h
  rw [← h.2, List.length_drop]
  omega

theorem length_of_readScalar {c : Char} {s rest : List Char} {token : Token}
    (h : readScalar c s = some (token, rest)) : rest.length < s.length + 1 := by
  unfold readScalar at h
  split at h
  · unfold readString at h
    split at h
    · rename_i read
      simp only [Option.some.injEq, Prod.mk.injEq] at h
      obtain ⟨-, rfl⟩ := h
      have := Quoted.length_of_read read
      omega
    · simp only [Option.map_eq_some_iff, Prod.mk.injEq] at h
      obtain ⟨_, skip, -, rfl⟩ := h
      have := Quoted.length_of_skip skip
      omega
  · repeat' split at h
    case isFalse.isFalse.isFalse =>
      simp only [Option.map_eq_some_iff, Prod.exists, Prod.mk.injEq] at h
      obtain ⟨_, _, numeral, -, rfl⟩ := h
      simpa using length_of_readNumeral numeral
    all_goals
      simp only [Option.map_eq_some_iff, Prod.mk.injEq] at h
      obtain ⟨_, literal, -, rfl⟩ := h
      have := length_of_after? literal
      omega

/-- The tokens of a text, or nothing if some part is none. -/
def tokens (s : List Char) : Option (List Token) :=
  match s with
  | [] => some []
  | c :: rest =>
    if isGap c then tokens rest
    else
      match mark? c with
      | some mark => (tokens rest).map (mark :: ·)
      | none =>
        match _h : readScalar c rest with
        | none => none
        | some (token, rest') => (tokens rest').map (token :: ·)
termination_by s.length
decreasing_by
  · simp
  · simp
  · exact length_of_readScalar _h

end PageWalk.Json
