import PageWalk.Url.Parser

/-!
# Relative references

A text that is no URL of its own is read from where another URL leads.
-/

namespace PageWalk.Url

set_option autoImplicit false

/-- The segments of a path without the last one; in a file path a drive letter stays. -/
def Path.above (r : Rules) : Path → List String
  | segments list => if r = .file then parent list else list.dropLast
  | plain _ => []

/-- Reads a text without a scheme on a base that has a path with structure. -/
def follow (base : Url) (pieces : Pieces) : Except UrlError Url :=
  let r := Rules.of base.scheme
  match pieces.start with
  | [] =>
    let next := pieces.complete base.scheme (base.authority, base.path)
    .ok (if pieces.query.isNone then { next with query := base.query } else next)
  | a :: rest =>
    if r.isSlash a then
      match rest with
      | b :: more =>
        if r.isSlash b then (afterSlashes base.scheme more).map (pieces.complete base.scheme)
        else .ok (pieces.complete base.scheme (base.authority, pathAfter r [] rest))
      | [] => .ok (pieces.complete base.scheme (base.authority, pathAfter r [] rest))
    else
      .ok (pieces.complete base.scheme
        (base.authority, pathAfter r (base.path.above r) (a :: rest)))

/-- Reads a text without a scheme; on a path without structure only a fragment can be put. -/
def onBase (base : Url) (pieces : Pieces) : Except UrlError Url :=
  match base.path with
  | .plain _ =>
    if pieces.start = [] ∧ pieces.query.isNone ∧ pieces.fragment.isSome then
      .ok { base with fragment := pieces.fragment.map fragmentText }
    else .error .noBase
  | .segments _ => follow base pieces

/-- Whether what follows the scheme of a text is meant from the base: one of the same special scheme
without two slashes. -/
def isContinued (base : Url) (scheme : String) (rest : List Char) : Bool :=
  scheme == base.scheme && Rules.of scheme == .web &&
    (rest.takeWhile (Rules.isSlash .web)).length < 2

/-- Where a text leads from a URL. -/
def join (base : Url) (s : String) : Except UrlError Url :=
  let pieces := Pieces.of s
  match scheme? pieces.start with
  | none => onBase base pieces
  | some (name, rest) =>
    if isContinued base (String.ofList name) rest then follow base { pieces with start := rest }
    else parse s

end PageWalk.Url
