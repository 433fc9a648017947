import PageWalk.Text.LowerCase
import PageWalk.Text.Normal
import PageWalk.Url.Domain.Allowed
import PageWalk.Url.Domain.Spelling

/-!
# Folding of names

Two names are the same if they have the same folded form: each character as what it counts as, and
the whole in normal form.
-/

namespace PageWalk.Url.Domain

set_option autoImplicit false

/-- What a character counts as in a name, or none if no name may hold it. -/
def foldChar? (c : Char) : Option (List Char) :=
  if c.toNat < 0x80 then some [Text.asciiLower c]
  else if isIgnored c then some []
  else
    match spelling? c.toNat with
    | some letters => some letters
    | none => if isAllowed c then some [c] else none

def fold? (s : List Char) : Option (List Char) :=
  (s.mapM foldChar?).map fun letters => Text.normal letters.flatten

end PageWalk.Url.Domain
