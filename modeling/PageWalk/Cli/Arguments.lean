import PageWalk.Text.Basic

/-!
# Arguments

Options and words on a command line. An option has a long name and may have a short one; its value
is the next argument, unless that looks like an option, or is attached. After two dashes all is
words.
-/

namespace PageWalk

set_option autoImplicit false

structure Parameter where
  name : String
  short : Option Char := none
  takesValue : Bool := true
  mayRepeat : Bool := false
  mayBeEmpty : Bool := true
  deriving DecidableEq, Repr

structure Arguments where
  /-- Options in order, each with its value. -/
  options : List (String × String) := []
  words : List String := []
  deriving DecidableEq, Repr

namespace Arguments

/-- Whether an argument is no value: it begins with a dash that does not stand alone. -/
def isDashed (arg : String) : Bool :=
  arg.toList.head? = some '-' && arg ≠ "-"

def nextValue : List String → Option (String × List String)
  | [] => none
  | arg :: rest => if isDashed arg then none else some (arg, rest)

/-- The option of a long name, whose attached value follows an equals sign. -/
def long (known : List Parameter) (body : List Char) (rest : List String) :
    Option ((String × String) × List String) := do
  let (name, attached) := match Text.splitFirst '=' body with
    | some (name, value) => (name, some (String.ofList value))
    | none => (body, none)
  let p ← known.find? fun p => p.name.toList == name
  match p.takesValue, attached with
  | true, some value => some ((p.name, value), rest)
  | true, none =>
    let (value, rest) ← nextValue rest
    some ((p.name, value), rest)
  | false, none => some ((p.name, ""), rest)
  | false, some _ => none

/-- The options of a run of short names; what follows one that takes a value is that value. -/
def short (known : List Parameter) : List Char → List String →
    Option (List (String × String) × List String)
  | [], rest => some ([], rest)
  | c :: more, rest => do
    let p ← known.find? fun p => p.short == some c
    if p.takesValue then
      match more with
      | [] =>
        let (value, rest) ← nextValue rest
        some ([(p.name, value)], rest)
      | '=' :: value => some ([(p.name, String.ofList value)], rest)
      | value => some ([(p.name, String.ofList value)], rest)
    else
      let (options, rest) ← short known more rest
      some ((p.name, "") :: options, rest)

/-- What one argument is. -/
inductive Shape where
  | escape
  | long (body : List Char)
  | short (names : List Char)
  | word

def Shape.of (arg : String) : Shape :=
  match arg.toList with
  | ['-', '-'] => escape
  | '-' :: '-' :: body => long body
  | '-' :: c :: names => short (c :: names)
  | _ => word

def add (options : List (String × String)) (words : List String) (a : Arguments) : Arguments :=
  ⟨options ++ a.options, words ++ a.words⟩

/-- Reads up to so many arguments. -/
def scanFrom (known : List Parameter) : Nat → List String → Option Arguments
  | _, [] => some {}
  | 0, _ => none
  | n + 1, arg :: rest =>
    match Shape.of arg with
    | .escape => some ⟨[], rest⟩
    | .word => (scanFrom known n rest).map (add [] [arg])
    | .long body => do
      let (option, rest) ← long known body rest
      (scanFrom known n rest).map (add [option] [])
    | .short names => do
      let (options, rest) ← short known names rest
      (scanFrom known n rest).map (add options [])

def scan (known : List Parameter) (args : List String) : Option Arguments :=
  scanFrom known args.length args

/-- Reads options up to the first word, which is then given with what follows it. -/
def scanToWordFrom (known : List Parameter) :
    Nat → List String → Option (List (String × String) × String × List String)
  | _, [] => none
  | 0, _ => none
  | n + 1, arg :: rest =>
    match Shape.of arg with
    | .escape => none
    | .word => some ([], arg, rest)
    | .long body => do
      let (option, rest) ← long known body rest
      let (options, word, rest) ← scanToWordFrom known n rest
      some (option :: options, word, rest)
    | .short names => do
      let (options₁, rest) ← short known names rest
      let (options₂, word, rest) ← scanToWordFrom known n rest
      some (options₁ ++ options₂, word, rest)

/-- Reads the options before the name of a command. -/
def scanToWord (known : List Parameter) (args : List String) :
    Option (List (String × String) × String × List String) :=
  scanToWordFrom known args.length args

/-- Whether the options that were given may stand together. -/
def accepted (known : List Parameter) (options : List (String × String)) : Bool :=
  known.all fun p =>
    let given := options.filter (·.1 == p.name)
    (p.mayRepeat || given.length ≤ 1) && (p.mayBeEmpty || given.all (·.2 ≠ ""))

def value? (options : List (String × String)) (p : Parameter) : Option String :=
  (options.find? (·.1 == p.name)).map (·.2)

def values (options : List (String × String)) (p : Parameter) : List String :=
  (options.filter (·.1 == p.name)).map (·.2)

def isGiven (options : List (String × String)) (p : Parameter) : Bool :=
  options.any (·.1 == p.name)

end Arguments

end PageWalk
