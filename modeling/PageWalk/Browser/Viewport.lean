import PageWalk.Text.Basic
import PageWalk.Text.Numeral

/-!
# Window sizes

A size is written as width, `x` and height, without blanks.
-/

namespace PageWalk

set_option autoImplicit false

structure Viewport where
  width : UInt32
  height : UInt32
  deriving DecidableEq, Repr

inductive ViewportError where
  | format
  | width
  | height
  deriving DecidableEq, Repr

def ViewportError.message : ViewportError → String
  | format => "Invalid viewport format. Use WIDTHxHEIGHT (e.g., 1920x1080)"
  | width => "Invalid width in viewport size"
  | height => "Invalid height in viewport size"

def Viewport.parseChars (s : List Char) : Except ViewportError Viewport :=
  match Text.pieces 'x' s with
  | [w, h] =>
    match Text.Numeral.below? UInt32.size w with
    | none => .error .width
    | some width =>
      match Text.Numeral.below? UInt32.size h with
      | none => .error .height
      | some height => .ok ⟨UInt32.ofNat width, UInt32.ofNat height⟩
  | _ => .error .format

def Viewport.parse (text : String) : Except ViewportError Viewport :=
  parseChars text.toList

end PageWalk
