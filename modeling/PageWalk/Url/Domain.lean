import PageWalk.Url.Domain.Label

/-!
# Domains

The name of a host on the network, in any script. It has one form in ASCII, which is the form of its
addresses.
-/

namespace PageWalk.Url.Domain

set_option autoImplicit false

/-- Characters that no name may hold. -/
def forbidden (c : Char) : Bool :=
  c.toNat ≤ 0x20 || c.toNat = 0x7F || "%#/:<>?@[\\]^|".toList.contains c

/-- Where one label is written from right to left, all labels must keep their direction. -/
def directionsFit (labels : List Label) : Bool :=
  !labels.any Label.hasRightToLeft || labels.all Label.isDirected

/-- A domain in lower case and in ASCII. -/
def ascii? (s : List Char) : Option (List Char) := do
  let folded ← fold? s
  if folded.any forbidden then none
  else
    let labels ← (Text.pieces '.' folded).mapM Label.ofFolded?
    if directionsFit labels then
      some (List.intercalate ['.'] (labels.map (·.ascii)))
    else none

end PageWalk.Url.Domain
