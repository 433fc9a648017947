import PageWalk.Text.Basic
import PageWalk.Json.Quoted

/-!
# Fields of a command

Parameters are separated by colons. A parameter may be wrapped in double quotes, and then colons in
it do not separate; inside the quotes a backslash protects the next character. `split` takes the
first field off, `unquote` gives what a field says, and `written` and `writtenLast` spell a text so
that it reads back.
-/

namespace PageWalk.Field

set_option autoImplicit false

/-- Where a scan from left to right stands. -/
inductive Scan where
  | outside
  | inside
  /-- Inside quotes, right after a backslash. -/
  | shielded
  deriving DecidableEq, Repr

def Scan.step : Scan → Char → Scan
  | outside, c => if c = '"' then inside else outside
  | inside, c => if c = '\\' then .shielded else if c = '"' then outside else inside
  | .shielded, _ => inside

/-- The state after a whole text. -/
def Scan.after (state : Scan) (s : List Char) : Scan :=
  s.foldl step state

def splitFrom : Scan → List Char → List Char × Option (List Char)
  | _, [] => ([], none)
  | state, c :: rest =>
    if state = .outside ∧ c = ':' then ([], some rest)
    else
      let (field, more) := splitFrom (state.step c) rest
      (c :: field, more)

/-- The text up to the first colon outside quotes, and what follows it if there is such a colon. -/
def split (s : List Char) : List Char × Option (List Char) :=
  splitFrom .outside s

theorem append_of_splitFrom {state : Scan} {s field rest : List Char}
    (h : splitFrom state s = (field, some rest)) : s = field ++ ':' :: rest := by
  induction s generalizing state field with
  | nil => simp [splitFrom] at h
  | cons c s ih =>
    rw [splitFrom] at h
    split at h
    · rename_i colon
      simp only [Prod.mk.injEq, Option.some.injEq] at h
      obtain ⟨rfl, rfl⟩ := h
      rw [colon.2, List.nil_append]
    · simp only [Prod.mk.injEq] at h
      obtain ⟨rfl, more⟩ := h
      exact congrArg (c :: ·) (ih (Prod.ext rfl more))

theorem append_of_split {s field rest : List Char} (h : split s = (field, some rest)) :
    s = field ++ ':' :: rest :=
  append_of_splitFrom h

theorem length_of_split {s field rest : List Char} (h : split s = (field, some rest)) :
    rest.length < s.length := by
  rw [append_of_split h, List.length_append, List.length_cons]
  omega

/-- Drops the protecting backslashes of a quoted text; one at the very end stands for itself. -/
def unprotect : List Char → List Char
  | '\\' :: c :: rest => c :: unprotect rest
  | c :: rest => c :: unprotect rest
  | [] => []

/-- What a field says: between double quotes a JSON string literal, or else a text with protected
characters; any other field says itself. -/
def unquote (s : List Char) : List Char :=
  if Text.isQuoted s then
    match Json.Quoted.read s.tail with
    | some (text, []) => text
    | _ => unprotect s.tail.dropLast
  else s

/-- A text between double quotes, with quotes and backslashes protected. -/
def quote (s : List Char) : List Char :=
  '"' :: (Text.backslashed ['"', '\\'] s ++ ['"'])

/-- Spells a text that more fields follow. -/
def written (s : List Char) : List Char :=
  if ':' ∈ s ∨ '"' ∈ s then quote s else s

/-- Spells the last text of a command: only one that looks quoted has to be quoted. -/
def writtenLast (s : List Char) : List Char :=
  if Text.isQuoted s then quote s else s

end PageWalk.Field
