import PageWalk.Text.Composition
import PageWalk.Text.Mark

/-!
# Normal form

One text can be spelt in many ways: with composed characters or with marks, and with the marks in
any order. The normal form joins as much as can be joined and puts the other marks in order.
-/

namespace PageWalk.Text

set_option autoImplicit false

/-- A character taken apart in so many steps. -/
def takenApart : Nat → Char → List Char
  | 0, c => [c]
  | steps + 1, c =>
    match parts? c with
    | some (first, second) => takenApart steps first ++ [second]
    | none => [c]

/-- No character is put together in more than three steps. -/
def decomposed (s : List Char) : List Char :=
  s.flatMap (takenApart 3)

/-- Puts a mark behind those marks of a lower class that follow it. -/
def place (c : Char) : List Char → List Char
  | [] => [c]
  | d :: rest =>
    if 0 < combiningClass d ∧ combiningClass d < combiningClass c then d :: place c rest
    else c :: d :: rest

/-- The text with each run of marks sorted by class; marks of one class keep their order. -/
def ordered (s : List Char) : List Char :=
  s.foldr place []

/-- Whether the marks since the last letter keep a character from that letter. -/
def blocks (marks : List Char) (c : Char) : Bool :=
  marks.getLast?.any fun mark => combiningClass c ≤ combiningClass mark

/-- Joins to the character `base` what can be joined to it; `marks` are those since, that could
not. -/
def joinFrom (base : Char) (marks : List Char) : List Char → List Char
  | [] => base :: marks
  | c :: rest =>
    match if blocks marks c then none else compose? base c with
    | some joined => joinFrom joined marks rest
    | none =>
      if combiningClass c = 0 then base :: (marks ++ joinFrom c [] rest)
      else joinFrom base (marks ++ [c]) rest

def normal (s : List Char) : List Char :=
  match ordered (decomposed s) with
  | [] => []
  | c :: rest => joinFrom c [] rest

end PageWalk.Text
