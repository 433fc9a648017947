import PageWalk.Text.Character
import PageWalk.Command.Basic
import PageWalk.Command.Field

/-!
# Reading commands

A command is a word, a colon and the parameters of that kind. `readOne` reads all but the command
inside a loop or a condition, and `parse` goes on with that one, which is shorter.
-/

namespace PageWalk.Command

set_option autoImplicit false

/-- A command that is read as far as its own parameters go. -/
inductive Reading where
  | leaf (action : Action)
  | nested (wrapper : Wrapper) (inner : List Char)

def missing {α : Type} (kind : Kind) (params : List Char) : Except CommandError α :=
  .error (.missingParameter kind (String.ofList params))

/-- The one parameter of a click, goto, press or scroll. -/
def single (kind : Kind) (params : List Char) : Except CommandError String :=
  match Field.unquote params with
  | [] => missing kind params
  | text => .ok (String.ofList text)

/-- A number in a field, with blanks around it allowed. -/
def number (kind : Kind) (limit : Nat) (field : List Char) : Except CommandError Nat :=
  match Text.Numeral.below? limit (Text.trim (Field.unquote field)) with
  | some n => .ok n
  | none => .error (.invalidNumber kind (String.ofList (Field.unquote field)))

def readFill (params : List Char) : Except CommandError Reading :=
  match Field.split params with
  | (field, some value) =>
    match Field.unquote field with
    | [] => missing .fill params
    | selector =>
      .ok (.leaf (.fill (String.ofList selector) (String.ofList (Field.unquote value))))
  | (_, none) => missing .fill params

def readExpect (params : List Char) : Except CommandError Reading :=
  match Field.split params with
  | (field, some (c :: value)) =>
    let word := String.ofList (Field.unquote field)
    match Aspect.ofName? word with
    | some aspect => .ok (.leaf (.expect aspect (String.ofList (Field.unquote (c :: value)))))
    | none => .error (.unknownExpectation word)
  | _ => missing .expect params

def readLoop (params : List Char) : Except CommandError Reading :=
  match Field.split params with
  | (field, some (c :: inner)) => do
    let count ← number .loop UInt32.size field
    .ok (.nested (.loop (UInt32.ofNat count)) (c :: inner))
  | _ => missing .loop params

def readWhen (params : List Char) : Except CommandError Reading :=
  match Field.split params with
  | (field, some (c :: inner)) =>
    match Field.unquote field with
    | [] => missing .when params
    | selector => .ok (.nested (.when (String.ofList selector)) (c :: inner))
  | _ => missing .when params

def readParams (kind : Kind) (params : List Char) : Except CommandError Reading :=
  match kind with
  | .click => do .ok (.leaf (.click (← single .click params)))
  | .fill => readFill params
  | .wait => do .ok (.leaf (.wait (UInt64.ofNat (← number .wait UInt64.size params))))
  | .goto => do .ok (.leaf (.goto (← single .goto params)))
  | .press => do .ok (.leaf (.press (← single .press params)))
  | .scroll => do .ok (.leaf (.scroll (Goal.ofText (← single .scroll params))))
  | .expect => readExpect params
  | .loop => readLoop params
  | .when => readWhen params

def readOne (s : List Char) : Except CommandError Reading :=
  match Text.splitFirst ':' s with
  | none => .error (.missingDelimiter (String.ofList s))
  | some (word, params) =>
    match Kind.ofName? (String.ofList word) with
    | none => .error (.unknownType (String.ofList word))
    | some kind => readParams kind params

theorem length_of_readLoop {params inner : List Char} {w : Wrapper}
    (h : readLoop params = .ok (.nested w inner)) : inner.length < params.length := by
  unfold readLoop at h
  split at h
  · rename_i field c rest hs
    cases hn : number .loop UInt32.size field with
    | error e => simp [hn, bind, Except.bind] at h
    | ok n =>
      simp only [hn, bind, Except.bind, Except.ok.injEq, Reading.nested.injEq] at h
      obtain ⟨-, rfl⟩ := h
      exact Field.length_of_split hs
  · simp [missing] at h

theorem length_of_readWhen {params inner : List Char} {w : Wrapper}
    (h : readWhen params = .ok (.nested w inner)) : inner.length < params.length := by
  unfold readWhen at h
  split at h
  · rename_i field c rest hs
    split at h
    · simp [missing] at h
    · simp only [Except.ok.injEq, Reading.nested.injEq] at h
      obtain ⟨-, rfl⟩ := h
      exact Field.length_of_split hs
  · simp [missing] at h

theorem length_of_readParams {kind : Kind} {params inner : List Char} {w : Wrapper}
    (h : readParams kind params = .ok (.nested w inner)) : inner.length < params.length := by
  cases kind with
  | loop => exact length_of_readLoop h
  | when => exact length_of_readWhen h
  | fill =>
    simp only [readParams, readFill] at h
    split at h
    · split at h <;> simp [missing] at h
    · simp [missing] at h
  | expect =>
    simp only [readParams, readExpect] at h
    split at h
    · split at h <;> simp at h
    · simp [missing] at h
  | wait =>
    simp only [readParams] at h
    cases hn : number .wait UInt64.size params <;> simp [hn, bind, Except.bind] at h
  | click | goto | press | scroll =>
    simp only [readParams, bind, Except.bind] at h
    split at h <;> simp at h

theorem length_of_readOne {s inner : List Char} {w : Wrapper}
    (h : readOne s = .ok (.nested w inner)) : inner.length < s.length := by
  unfold readOne at h
  split at h
  · simp at h
  · rename_i word params hs
    split at h
    · simp at h
    · exact Nat.lt_trans (length_of_readParams h) (Text.length_of_splitFirst hs)

/-- Reads a command and every command inside it. -/
def parseChars (s : List Char) : Except CommandError Action :=
  match _h : readOne s with
  | .error e => .error e
  | .ok (.leaf action) => .ok action
  | .ok (.nested wrapper inner) =>
    match parseChars inner with
    | .error e => .error e
    | .ok body => .ok (wrapper.wrap body)
termination_by s.length
decreasing_by exact length_of_readOne _h

def parse (command : String) : Except CommandError Action :=
  parseChars command.toList

end PageWalk.Command
