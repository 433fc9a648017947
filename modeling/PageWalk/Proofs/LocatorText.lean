import PageWalk.Locator.Semantic
import PageWalk.Proofs.TestLiteral
import PageWalk.TestSource.Statement

/-!
# Locators in a test

A locator is written as a call of one of five functions. Here the call is read again, with its literals:
main statement is where the text of a locator comes from, and that its call, and the statement of a click
on it, can be read just if this text is within one line.
-/

namespace PageWalk

set_option autoImplicit false

open TestSource (readLiteral)

namespace Locator

/-- The text that a locator looks for. -/
def name : Locator → String
  | role _ name => name
  | placeholder s => s
  | label s => s
  | testId s => s
  | text s => s

/-- A locator that takes one text, by the function that is called. -/
def ofCallee? (callee : List Char) : Option (String → Locator) :=
  if callee = "getByPlaceholder".toList then some placeholder
  else if callee = "getByLabel".toList then some label
  else if callee = "getByTestId".toList then some testId
  else if callee = "getByText".toList then some text
  else none

/-- The locator whose call a text begins with, and what follows the call. -/
def read (s : List Char) : Option (Locator × List Char) := do
  let (callee, rest) ← Text.splitFirst '(' s
  let (first, rest) ← readLiteral rest
  if callee = "getByRole".toList then do
    let rest ← Text.after? ", \x7b name: ".toList rest
    let (name, rest) ← readLiteral rest
    let rest ← Text.after? " \x7d)".toList rest
    some (role (String.ofList first) (String.ofList name), rest)
  else do
    let locator ← ofCallee? callee
    let rest ← Text.after? [')'] rest
    some (locator (String.ofList first), rest)

/-- The locator on which a statement clicks. -/
def clicked? (s : List Char) : Option Locator := do
  let call ← Text.after? "await page.".toList s
  let (locator, rest) ← read call
  if rest = ".click();".toList then some locator else none

section Reading

variable {callee : List Char}

theorem toList_quoted (s : String) :
    (quoted s).toList = '\'' :: (Text.backslashed ['\\', '\''] s.toList ++ ['\'']) := by
  have inner : (String.ofList (Text.backslashed ['\\', '\''] s.toList)).toList =
      Text.backslashed ['\\', '\''] s.toList := String.toList_ofList
  rw [quoted, String.toList_append, String.toList_append, inner]
  rfl

theorem readLiteral_quoted (s : String) (rest : List Char) :
    readLiteral ((quoted s).toList ++ rest) =
      if Text.Unbroken s.toList then some (s.toList, rest) else none := by
  rw [toList_quoted, List.cons_append, List.append_assoc]
  exact TestSource.readQuoted_backslashed s.toList rest

/-- A call with one argument is read if the argument is. -/
theorem read_call {opening : String} (apart : '(' ∉ callee) (other : callee ≠ "getByRole".toList)
    {locator : String → Locator} (known : ofCallee? callee = some locator)
    (opens : opening.toList = callee ++ ['(']) (s : String) (rest : List Char) :
    read ((opening ++ quoted s ++ ")").toList ++ rest) =
      if Text.Unbroken s.toList then some (locator s, rest) else none := by
  have call : (opening ++ quoted s ++ ")").toList ++ rest =
      callee ++ '(' :: ((quoted s).toList ++ (")".toList ++ rest)) := by
    simp only [String.toList_append, opens, List.append_assoc, List.cons_append, List.nil_append]
  have closes : Text.after? [')'] (")".toList ++ rest) = some rest := Text.after?_append [')'] rest
  rw [call, read, Text.splitFirst_append apart]
  simp only [Option.bind_eq_bind, Option.bind_some, readLiteral_quoted, if_neg other, known]
  by_cases unbroken : Text.Unbroken s.toList
  · simp only [if_pos unbroken, Option.bind_some, closes, String.ofList_toList]
  · simp only [if_neg unbroken, Option.bind_none]

/-- A role is a word, which is written as it is. -/
theorem readLiteral_role {r : String} (h : r ∈ explicitRoles) (rest : List Char) :
    readLiteral ('\'' :: (r.toList ++ '\'' :: rest)) = some (r.toList, rest) := by
  have words : ∀ r ∈ explicitRoles,
      Text.backslashed ['\\', '\''] r.toList = r.toList ∧ Text.Unbroken r.toList := by decide
  have reads := TestSource.readQuoted_backslashed r.toList rest
  rw [(words r h).1, if_pos (words r h).2] at reads
  exact reads

theorem read_role {r : String} (plain : r ∈ explicitRoles) (apart : '(' ∉ callee)
    (same : callee = "getByRole".toList) (s : String) (rest : List Char) :
    read (callee ++ '(' :: ('\'' :: (r.toList ++ '\'' ::
        (", \x7b name: ".toList ++ ((quoted s).toList ++ (" \x7d)".toList ++ rest)))))) =
      if Text.Unbroken s.toList then some (.role r s, rest) else none := by
  rw [read, Text.splitFirst_append apart]
  simp only [Option.bind_eq_bind, Option.bind_some, readLiteral_role plain, if_pos same,
    Text.after?_append, readLiteral_quoted]
  by_cases unbroken : Text.Unbroken s.toList
  · simp only [if_pos unbroken, Option.bind_some, Text.after?_append, String.ofList_toList]
  · simp only [if_neg unbroken, Option.bind_none]

theorem toList_role (r s : String) (rest : List Char) :
    (expression (.role r s)).toList ++ rest = "getByRole".toList ++ '(' :: ('\'' :: (r.toList ++ '\'' ::
      (", \x7b name: ".toList ++ ((quoted s).toList ++ (" \x7d)".toList ++ rest))))) := by
  have opens : "getByRole('".toList = "getByRole".toList ++ ['(', '\''] := rfl
  have between : "', \x7b name: ".toList = '\'' :: ", \x7b name: ".toList := rfl
  change ("getByRole('" ++ r ++ "', \x7b name: " ++ quoted s ++ " \x7d)").toList ++ rest = _
  simp only [String.toList_append, opens, between, List.append_assoc, List.cons_append,
    List.nil_append]

theorem read_expression {l : Locator} (plain : ∀ r s, l = .role r s → r ∈ explicitRoles)
    (rest : List Char) :
    read (l.expression.toList ++ rest) =
      if Text.Unbroken l.name.toList then some (l, rest) else none := by
  -- the name of a role is written as it stands, which only the listed roles allow
  cases l with
  | role r s =>
    rw [toList_role]
    exact read_role (plain r s rfl) (by decide) rfl s rest
  | placeholder s =>
    have apart : '(' ∉ "getByPlaceholder".toList := by decide
    exact read_call apart (by decide) rfl rfl s rest
  | label s =>
    have apart : '(' ∉ "getByLabel".toList := by decide
    exact read_call apart (by decide) rfl rfl s rest
  | testId s =>
    have apart : '(' ∉ "getByTestId".toList := by decide
    exact read_call apart (by decide) rfl rfl s rest
  | text s =>
    have apart : '(' ∉ "getByText".toList := by decide
    exact read_call apart (by decide) rfl rfl s rest

theorem toList_click (selector : String) (l : Locator) :
    ((Action.click selector).statement (some l.expression)).toList =
      "await page.".toList ++ (l.expression.toList ++ ".click();".toList) := by
  change ("await page." ++ l.expression ++ ".click();").toList = _
  rw [String.toList_append, String.toList_append, List.append_assoc]

theorem clicked?_click {l : Locator} (plain : ∀ r s, l = .role r s → r ∈ explicitRoles)
    (selector : String) :
    clicked? ((Action.click selector).statement (some l.expression)).toList =
      if Text.Unbroken l.name.toList then some l else none := by
  rw [toList_click, clicked?, Text.after?_append]
  simp only [Option.bind_eq_bind, Option.bind_some, read_expression plain]
  by_cases unbroken : Text.Unbroken l.name.toList
  · rw [if_pos unbroken, if_pos unbroken, Option.bind_some]
    exact if_pos rfl
  · rw [if_neg unbroken, if_neg unbroken]
    rfl

end Reading

/-- Where the text of a locator comes from, and that its role is one of the roles worth naming. -/
def IsFrom (e : Element) : Locator → Prop
  | role r s => r ∈ explicitRoles ∧ (e.attribute? "aria-label" = some s ∨
      line? e = some s.toList ∨ (e.tag = "input" ∧ r = "button" ∧ e.value = some s))
  | placeholder s => e.attribute? "placeholder" = some s
  | label s => e.attribute? "aria-label" = some s ∨ ∃ l, e.label = some l ∧ Text.trim l.toList = s.toList
  | testId s => e.attribute? "data-testid" = some s
  | text s => line? e = some s.toList

section Sources

variable {e : Element} {l : Locator}

theorem of_shortLine {limit : Nat} {s : String} (h : shortLine? limit e = some s) :
    line? e = some s.toList := by
  obtain ⟨line, short, rfl⟩ := Option.map_eq_some_iff.mp h
  rw [String.toList_ofList]
  exact (Option.filter_eq_some_iff.mp short).1

theorem eq_of_orElse {α : Type} {first second : Option α} {a : α}
    (h : (first <|> second) = some a) : first = some a ∨ second = some a := by
  cases first with
  | none => exact .inr h
  | some b => exact .inl h

theorem isFrom_statedRole (h : statedRole? e = some l) : l.IsFrom e := by
  obtain ⟨r, stated, named⟩ := Option.bind_eq_some_iff.mp h
  obtain ⟨s, source, made⟩ := Option.bind_eq_some_iff.mp named
  obtain rfl := Option.some.inj made
  have listed : r ∈ explicitRoles := by
    have contained := (Option.filter_eq_some_iff.mp stated).2
    simpa using contained
  rcases eq_of_orElse source with aria | line
  · exact ⟨listed, .inl aria⟩
  · exact ⟨listed, .inr (.inl (of_shortLine line))⟩

theorem isFrom_named {r : String} (listed : r ∈ explicitRoles)
    (h : ((ariaLabel? e <|> (line? e).map String.ofList).bind fun s => some (role r s)) = some l) :
    l.IsFrom e := by
  obtain ⟨s, source, made⟩ := Option.bind_eq_some_iff.mp h
  obtain rfl := Option.some.inj made
  refine ⟨listed, ?_⟩
  rcases eq_of_orElse source with aria | line
  · exact .inl aria
  · obtain ⟨chars, there, rfl⟩ := Option.map_eq_some_iff.mp line
    rw [String.toList_ofList]
    exact .inr (.inl there)

theorem isFrom_impliedRole (h : impliedRole? e = some l) : l.IsFrom e := by
  unfold impliedRole? at h
  split at h
  · exact isFrom_named (r := "button") (by decide) h
  split at h
  · exact isFrom_named (r := "link") (by decide) h
  · cases h

theorem isFrom_placeholder (h : placeholder? e = some l) : l.IsFrom e := by
  obtain ⟨s, there, rfl⟩ := Option.map_eq_some_iff.mp h
  exact there

theorem isFrom_ariaLabel (h : (ariaLabel? e).map label = some l) : l.IsFrom e := by
  obtain ⟨s, there, rfl⟩ := Option.map_eq_some_iff.mp h
  exact .inl there

theorem isFrom_input (h : input? e = some l) : l.IsFrom e := by
  unfold input? at h
  split at h
  · next input =>
    rcases eq_of_orElse h with button | h
    · split at button
      · obtain ⟨s, held, rfl⟩ := Option.map_eq_some_iff.mp button
        exact ⟨by decide, .inr (.inr ⟨input, rfl, (Option.filter_eq_some_iff.mp held).1⟩)⟩
      · cases button
    rcases eq_of_orElse h with held | h
    · exact isFrom_placeholder held
    rcases eq_of_orElse h with aria | h
    · exact isFrom_ariaLabel aria
    · obtain ⟨chars, trimmed, rfl⟩ := Option.map_eq_some_iff.mp h
      obtain ⟨text, there, same⟩ := Option.map_eq_some_iff.mp (Option.filter_eq_some_iff.mp trimmed).1
      exact .inr ⟨text, there, by rw [same, String.toList_ofList]⟩
  · cases h

theorem isFrom_textArea (h : textArea? e = some l) : l.IsFrom e := by
  unfold textArea? at h
  split at h
  · rcases eq_of_orElse h with held | aria
    · exact isFrom_placeholder held
    · exact isFrom_ariaLabel aria
  · cases h

theorem isFrom_of (h : of? e = some l) : l.IsFrom e := by
  rcases eq_of_orElse h with stated | h
  · exact isFrom_statedRole stated
  rcases eq_of_orElse h with implied | h
  · exact isFrom_impliedRole implied
  rcases eq_of_orElse h with input | h
  · exact isFrom_input input
  rcases eq_of_orElse h with area | h
  · exact isFrom_textArea area
  rcases eq_of_orElse h with test | h
  · obtain ⟨s, there, rfl⟩ := Option.map_eq_some_iff.mp test
    exact there
  · obtain ⟨s, short, rfl⟩ := Option.map_eq_some_iff.mp h
    exact of_shortLine short

theorem IsFrom.mem_roles (h : l.IsFrom e) (r s : String) (same : l = .role r s) : r ∈ explicitRoles := by
  subst same
  exact h.1

/-- The call that is written for a locator reads back as the locator just if its text is within one
line. -/
theorem read_expression_iff (h : of? e = some l) :
    l.IsFrom e ∧
    (∀ rest, read (l.expression.toList ++ rest) =
      if Text.Unbroken l.name.toList then some (l, rest) else none) ∧
    ∀ selector, clicked? ((Action.click selector).statement (some l.expression)).toList =
      if Text.Unbroken l.name.toList then some l else none :=
  ⟨isFrom_of h, read_expression (isFrom_of h).mem_roles, clicked?_click (isFrom_of h).mem_roles⟩

/-- A line of a text, with a quote and a backslash in it. -/
theorem read_expression_quoted :
    let e : Element := { tag := "button", text := "Don't \\ panic\nat all" }
    let l : Locator := .role "button" "Don't \\ panic"
    of? e = some l ∧ l.expression = "getByRole('button', \x7b name: 'Don\\'t \\\\ panic' \x7d)" ∧
      clicked? ((Action.click "#go").statement (some l.expression)).toList = some l := by
  intro e l
  have found : of? e = some l := by decide +kernel
  refine ⟨found, by decide +kernel, ?_⟩
  rw [(read_expression_iff found).2.2, if_pos (by decide)]

/-- A line break in a label ends the literal before its quote. -/
theorem read_expression_broken :
    let e : Element := { tag := "button", text := "Save", attributes := [("aria-label", "Save\nall")] }
    let l : Locator := .role "button" "Save\nall"
    of? e = some l ∧ read l.expression.toList = none ∧
      clicked? ((Action.click "#go").statement (some l.expression)).toList = none := by
  decide +kernel

end Sources

end Locator

end PageWalk
