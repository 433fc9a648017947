/-!
# Punycode

A label with characters beyond ASCII is written as its ASCII characters, a hyphen, and the other
characters in increasing order, each as its distance from the one before in a variable-length number
of base 36.
-/

namespace PageWalk.Url.Punycode

set_option autoImplicit false

/-- The digits `a` to `z` and `0` to `9`. -/
def digit (d : Nat) : Char :=
  if d < 26 then Char.ofNat (97 + d) else Char.ofNat (22 + d)

/-- The least value of a digit at position `k` that is followed by another one. -/
def threshold (bias k : Nat) : Nat :=
  min 26 (max 1 (k - bias))

theorem threshold_pos (bias k : Nat) : 1 ≤ threshold bias k := by
  unfold threshold
  omega

/-- A distance as digits, from position `k` on. -/
def number (bias k n : Nat) : List Char :=
  if n < threshold bias k then [digit n]
  else
    let t := threshold bias k
    digit (t + (n - t) % (36 - t)) :: number bias (k + 36) ((n - t) / (36 - t))
termination_by n
decreasing_by
  have := threshold_pos bias k
  have := Nat.div_le_self (n - threshold bias k) (36 - threshold bias k)
  omega

/-- Scales a distance down; the second part is what this adds to the bias. -/
def shrink (n : Nat) : Nat × Nat :=
  if 455 < n then
    let (rest, added) := shrink (n / 35)
    (rest, added + 36)
  else (n, 0)
termination_by n
decreasing_by exact Nat.div_lt_self (by omega) (by decide)

/-- The bias after a distance, when so many characters have been written. -/
def adapt (distance written : Nat) (first : Bool) : Nat :=
  let halved := if first then distance / 700 else distance / 2
  let (rest, added) := shrink (halved + halved / written)
  added + 36 * rest / (rest + 38)

structure State where
  output : List Char
  distance : Nat
  bias : Nat
  written : Nat

/-- Looks at one character of the label while the characters `next` are being written. -/
def look (basic next : Nat) (s : State) (c : Char) : State :=
  if c.toNat < next then { s with distance := s.distance + 1 }
  else if c.toNat = next then
    { output := s.output ++ number s.bias 36 s.distance
      distance := 0
      bias := adapt s.distance (s.written + 1) (s.written = basic)
      written := s.written + 1 }
  else s

/-- Writes the listed characters of a label in order; all of them are `start` or above. -/
def encodeFrom (label : List Char) (basic : Nat) : List Nat → Nat → State → State
  | [], _, s => s
  | next :: rest, start, s =>
    let ahead := { s with distance := s.distance + (next - start) * (s.written + 1) }
    let after := label.foldl (look basic next) ahead
    encodeFrom label basic rest (next + 1) { after with distance := after.distance + 1 }

def encode (label : List Char) : List Char :=
  let basic := label.filter (·.toNat < 0x80)
  let others := ((label.map Char.toNat).filter (0x80 ≤ ·)).mergeSort.eraseReps
  let lead := if basic = [] then [] else basic ++ ['-']
  (encodeFrom label basic.length others 0x80 ⟨lead, 0, 72, basic.length⟩).output

/-- The value of a digit. -/
def digit? (c : Char) : Option Nat :=
  if 'a' ≤ c ∧ c ≤ 'z' then some (c.toNat - 97)
  else if '0' ≤ c ∧ c ≤ '9' then some (c.toNat - 22)
  else none

/-- Distances and the weights of their digits stay below this. -/
def limit : Nat := 0x100000000

/-- Adds to `sum` a distance in digits from position `k` on, the first of them with this weight;
also gives what follows the digits. -/
def readNumber (bias : Nat) : Nat → Nat → Nat → List Char → Option (Nat × List Char)
  | _, _, _, [] => none
  | k, weight, sum, c :: rest =>
    match digit? c with
    | none => none
    | some d =>
      let total := sum + d * weight
      let t := threshold bias k
      if limit ≤ total then none
      else if d < t then some (total, rest)
      else if limit ≤ weight * (36 - t) then none
      else readNumber bias (k + 36) (weight * (36 - t)) total rest

theorem length_of_readNumber {bias k weight sum total : Nat} {s rest : List Char}
    (h : readNumber bias k weight sum s = some (total, rest)) : rest.length < s.length := by
  induction s generalizing k weight sum with
  | nil => simp [readNumber] at h
  | cons c tail ih =>
    rw [readNumber] at h
    split at h
    · cases h
    · dsimp only at h
      split at h
      · cases h
      · split at h
        · obtain ⟨-, rfl⟩ := Prod.mk.inj (Option.some.inj h)
          exact Nat.lt_succ_self _
        · split at h
          · cases h
          · exact Nat.lt_succ_of_lt (ih h)

/-- Puts characters into a text, given the place and the code that the next distance counts from. -/
def decodeFrom (text : List Char) (bias code place : Nat) (s : List Char) : Option (List Char) :=
  if s = [] then some text
  else
    match h : readNumber bias 36 1 place s with
    | none => none
    | some (total, rest) =>
      let size := text.length + 1
      let next := code + total / size
      if next.isValidChar then
        decodeFrom (text.insertIdx (total % size) (Char.ofNat next))
          (adapt (total - place) size (place = 0)) next (total % size + 1) rest
      else none
termination_by s.length
decreasing_by exact length_of_readNumber h

/-- The characters before the last hyphen and those after it. A hyphen in front is a digit, and none
at that. -/
def splitBasic (s : List Char) : List Char × List Char :=
  let after := (s.reverse.takeWhile (· != '-')).reverse
  let before := s.take (s.length - after.length - 1)
  if before = [] then ([], s) else (before, after)

def decode? (s : List Char) : Option (List Char) :=
  let (basic, coded) := splitBasic s
  if basic.all (·.toNat < 0x80) then decodeFrom basic 72 0x80 0 coded else none

end PageWalk.Url.Punycode
