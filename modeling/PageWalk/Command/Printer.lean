import PageWalk.Command.Field
import PageWalk.Command.Basic

/-!
# The canonical form of a command

`Action.command` writes an action so that it reads back; parameters are quoted only where they have
to be.
-/

namespace PageWalk

set_option autoImplicit false

/-- What a loop or a condition writes before the command inside it. -/
def Wrapper.lead : Wrapper → List Char
  | loop count => "loop:".toList ++ Text.Numeral.write count.toNat ++ [':']
  | when selector => "if:".toList ++ Field.written selector.toList ++ [':']

namespace Action

def chars : Action → List Char
  | click selector => "click:".toList ++ Field.writtenLast selector.toList
  | fill selector value =>
    "fill:".toList ++ Field.written selector.toList ++ ':' :: Field.writtenLast value.toList
  | wait ms => "wait:".toList ++ Text.Numeral.write ms.toNat
  | goto url => "goto:".toList ++ Field.writtenLast url.toList
  | press key => "press:".toList ++ Field.writtenLast key.toList
  | scroll .top => "scroll:top".toList
  | scroll .bottom => "scroll:bottom".toList
  | scroll (.element selector) => "scroll:".toList ++ Field.writtenLast selector.toList
  | expect aspect value =>
    "expect:".toList ++ aspect.name.toList ++ ':' :: Field.writtenLast value.toList
  | loop count body => (Wrapper.loop count).lead ++ body.chars
  | when selector body => (Wrapper.when selector).lead ++ body.chars

def command (a : Action) : String :=
  String.ofList a.chars

end Action

end PageWalk
