import PageWalk.Proofs.TestLines
import PageWalk.Proofs.TestLiteral
import PageWalk.Run.Execution

/-!
# Statements say what they do

The statement of a leaf is read again by the function that it calls first. So no two leaves have the same
statement, and no two actions have the same lines. The regular expression of an expectation looks for just
the text for which its execution looks.
-/

namespace PageWalk

set_option autoImplicit false

namespace TestSource

open Text (after? splitFirst)

/-- The text that is the last argument of a call. -/
def lastArgument? (tail : String) (s : List Char) : Option String := do
  let (text, rest) ← readLiteral s
  if rest = tail.toList then some (String.ofList text) else none

def readFill (s : List Char) : Option Action := do
  let (selector, rest) ← readLiteral s
  let rest ← after? ", ".toList rest
  (lastArgument? ");" rest).map fun value => .fill (String.ofList selector) value

def readWait (s : List Char) : Option Action := do
  let (digits, rest) ← splitFirst ')' s
  let ms ← Text.Numeral.value? digits
  if rest = [';'] then some (.wait (UInt64.ofNat ms)) else none

def readEvaluate (s : List Char) : Option Action :=
  if s = "() => window.scrollTo(0, 0));".toList then some (.scroll .top)
  else if s = "() => window.scrollTo(0, document.body.scrollHeight));".toList then
    some (.scroll .bottom)
  else none

/-- An expectation about the address, or about a place in the page. -/
def readExpect (s : List Char) : Option Action :=
  match after? "page).toHaveURL(new RegExp(".toList s with
  | some rest => do
    let quoted ← lastArgument? "));" rest
    let value ← readPattern quoted.toList
    some (.expect .url (String.ofList value))
  | none => do
    let rest ← after? "page.locator(".toList s
    let (place, rest) ← readLiteral rest
    match after? ")).toContainText(".toList rest with
    | some value => (lastArgument? ");" value).map (.expect .text)
    | none =>
      if rest = ")).toBeVisible();".toList then some (.expect .selector (String.ofList place)) else none

/-- How the arguments of a call are read, by what stands in front of its first parenthesis. -/
def readers : List (String × (List Char → Option Action)) :=
  [("await page.click", fun s => (lastArgument? ");" s).map .click),
    ("await page.fill", readFill),
    ("await page.waitForTimeout", readWait),
    ("await page.goto", fun s => (lastArgument? ");" s).map .goto),
    ("await page.keyboard.press", fun s => (lastArgument? ");" s).map .press),
    ("await page.evaluate", readEvaluate),
    ("await page.locator",
      fun s => (lastArgument? ").scrollIntoViewIfNeeded();" s).map fun t => .scroll (.element t)),
    ("await expect", readExpect)]

/-- The source of the regular expression with which a statement compares the address. -/
def regExp? (s : List Char) : Option (List Char) := do
  let rest ← after? "await expect(page).toHaveURL(new RegExp(".toList s
  (lastArgument? "));" rest).map String.toList

/-- Single characters, plain or escaped, are found where they stand one after the other. -/
def Finds (source s : List Char) : Prop :=
  ∃ text, readPattern source = some text ∧ text <:+: s

/-- The action without a loop or a condition that a statement carries out. -/
def readStatement (s : List Char) : Option Action := do
  let (callee, rest) ← splitFirst '(' s
  let (_, read) ← readers.find? fun reader => reader.1.toList = callee
  read rest

section Reading

theorem readLiteral_literal (s : String) (rest : List Char) :
    readLiteral ((literal s).toList ++ rest) = some (s.toList, rest) := by
  rw [toList_literal]
  exact readLiteral_literalChars s.toList rest

theorem literal_injective : Function.Injective literal := by
  intro s t same
  have read := readLiteral_literal s []
  rw [same, readLiteral_literal] at read
  exact String.toList_inj.mp (Prod.mk.inj (Option.some.inj read)).1.symm

theorem lastArgument?_literal (s tail : String) :
    lastArgument? tail ((literal s).toList ++ tail.toList) = some s := by
  rw [lastArgument?, readLiteral_literal]
  exact (if_pos rfl).trans (congrArg some String.ofList_toList)

theorem toList_pattern (v : String) : (pattern v).toList = patternChars v.toList :=
  String.toList_ofList

theorem readPattern_pattern (v : String) : readPattern (pattern v).toList = some v.toList := by
  rw [toList_pattern]
  exact readPattern_patternChars v.toList

theorem toList_between (before inner after : String) :
    (before ++ inner ++ after).toList = before.toList ++ (inner.toList ++ after.toList) := by
  rw [String.toList_append, String.toList_append, List.append_assoc]

theorem readStatement_call {lead : String} {read : List Char → Option Action} (callee : String)
    (opens : lead.toList = callee.toList ++ ['(']) (apart : '(' ∉ callee.toList)
    (known : readers.find? (fun reader => reader.1.toList = callee.toList) = some (callee, read))
    (rest : List Char) : readStatement (lead.toList ++ rest) = read rest := by
  rw [readStatement, opens, List.append_assoc, List.singleton_append, Text.splitFirst_append apart]
  simp only [Option.bind_eq_bind, Option.bind_some, known]

/-- A call with one literal is read as what is made of the literal. -/
theorem readStatement_single {lead tail : String} {make : String → Action} (callee : String)
    (opens : lead.toList = callee.toList ++ ['(']) (apart : '(' ∉ callee.toList)
    (known : readers.find? (fun reader => reader.1.toList = callee.toList) =
      some (callee, fun s => (lastArgument? tail s).map make))
    (text : String) : readStatement (lead ++ literal text ++ tail).toList = some (make text) := by
  rw [toList_between, readStatement_call callee opens apart known, lastArgument?_literal]
  rfl

theorem readFill_arguments (selector value : String) :
    readFill ((literal selector).toList ++ (", ".toList ++ ((literal value).toList ++ ");".toList))) =
      some (.fill selector value) := by
  rw [readFill, readLiteral_literal]
  simp only [Option.bind_eq_bind, Option.bind_some, Text.after?_append, lastArgument?_literal,
    Option.map_some, String.ofList_toList]

theorem readWait_argument (ms : UInt64) :
    readWait ((toString ms.toNat).toList ++ ");".toList) = some (.wait ms) := by
  have digits : (toString ms.toNat).toList = Text.Numeral.write ms.toNat := Nat.toList_repr
  have apart : ')' ∉ Text.Numeral.write ms.toNat := Text.Numeral.not_mem_write rfl
  have tail : ");".toList = ')' :: [';'] := rfl
  rw [readWait, digits, tail, Text.splitFirst_append apart]
  simp only [Option.bind_eq_bind, Option.bind_some, Text.Numeral.value?_write, if_true,
    UInt64.ofNat_toNat]

theorem readExpect_url (v : String) :
    readExpect ("page).toHaveURL(new RegExp(".toList ++ ((literal (pattern v)).toList ++ "));".toList)) =
      some (.expect .url v) := by
  rw [readExpect, Text.after?_append]
  simp only [Option.bind_eq_bind, Option.bind_some, lastArgument?_literal, readPattern_pattern,
    String.ofList_toList]

theorem readExpect_place (v : String) (rest : List Char) :
    readExpect ("page.locator(".toList ++ ((literal v).toList ++ rest)) =
      match after? ")).toContainText(".toList rest with
      | some value => (lastArgument? ");" value).map (.expect .text)
      | none => if rest = ")).toBeVisible();".toList then some (.expect .selector v) else none := by
  have other : after? "page).toHaveURL(new RegExp(".toList
      ("page.locator(".toList ++ ((literal v).toList ++ rest)) = none := rfl
  rw [readExpect, other]
  simp only [Option.bind_eq_bind, Option.bind_some, Text.after?_append, readLiteral_literal,
    String.ofList_toList]

theorem readExpect_selector (v : String) :
    readExpect ("page.locator(".toList ++ ((literal v).toList ++ ")).toBeVisible();".toList)) =
      some (.expect .selector v) := by
  have other : after? ")).toContainText(".toList ")).toBeVisible();".toList = none := rfl
  rw [readExpect_place, other]
  exact if_pos rfl

theorem readExpect_text (v : String) :
    readExpect ("page.locator(".toList ++ ((literal "body").toList ++
      (")).toContainText(".toList ++ ((literal v).toList ++ ");".toList)))) =
        some (.expect .text v) := by
  rw [readExpect_place, Text.after?_append]
  simp only [lastArgument?_literal, Option.map_some]

end Reading

end TestSource

open TestSource

theorem Action.readStatement_expect (aspect : Aspect) (value : String) :
    readStatement ((expect aspect value).statement none).toList = some (expect aspect value) := by
  cases aspect with
  | text =>
    have opens : "await expect(page.locator('body')).toContainText(".toList = "await expect(".toList ++
        ("page.locator(".toList ++ ((literal "body").toList ++ ")).toContainText(".toList)) := by
      decide +kernel
    change readStatement
      ("await expect(page.locator('body')).toContainText(" ++ literal value ++ ");").toList = _
    rw [toList_between, opens, List.append_assoc, List.append_assoc, List.append_assoc,
      readStatement_call "await expect" rfl (by decide) rfl]
    exact readExpect_text value
  | selector =>
    have opens : "await expect(page.locator(".toList =
        "await expect(".toList ++ "page.locator(".toList := rfl
    change readStatement
      ("await expect(page.locator(" ++ literal value ++ ")).toBeVisible();").toList = _
    rw [toList_between, opens, List.append_assoc,
      readStatement_call "await expect" rfl (by decide) rfl]
    exact readExpect_selector value
  | url =>
    have opens : "await expect(page).toHaveURL(new RegExp(".toList =
        "await expect(".toList ++ "page).toHaveURL(new RegExp(".toList := rfl
    change readStatement
      ("await expect(page).toHaveURL(new RegExp(" ++ literal (pattern value) ++ "));").toList = _
    rw [toList_between, opens, List.append_assoc,
      readStatement_call "await expect" rfl (by decide) rfl]
    exact readExpect_url value

theorem Action.readStatement_statement {a : Action} (bare : a.wrappers = []) :
    readStatement (a.statement none).toList = some a := by
  cases a with
  | click selector => exact readStatement_single "await page.click" rfl (by decide) rfl selector
  | fill selector value =>
    change readStatement
      ("await page.fill(" ++ literal selector ++ ", " ++ literal value ++ ");").toList = _
    rw [toList_between, toList_between, List.append_assoc, List.append_assoc,
      readStatement_call "await page.fill" rfl (by decide) rfl]
    exact readFill_arguments selector value
  | wait ms =>
    change readStatement ("await page.waitForTimeout(" ++ toString ms.toNat ++ ");").toList = _
    rw [toList_between, readStatement_call "await page.waitForTimeout" rfl (by decide) rfl]
    exact readWait_argument ms
  | goto url => exact readStatement_single "await page.goto" rfl (by decide) rfl url
  | press key => exact readStatement_single "await page.keyboard.press" rfl (by decide) rfl key
  | scroll goal =>
    cases goal with
    | top => decide +kernel
    | bottom => decide +kernel
    | element selector => exact readStatement_single "await page.locator" rfl (by decide) rfl selector
  | expect aspect value => exact readStatement_expect aspect value
  | loop | when => cases bare

section Injectivity

theorem Wrapper.opening_loop (count : UInt32) : (Wrapper.loop count).opening.toList =
    "for (let i = 0; i < ".toList ++
      (Text.Numeral.write count.toNat ++ "; i++) \x7b".toList) := by
  have digits : (toString count.toNat).toList = Text.Numeral.write count.toNat := Nat.toList_repr
  change ("for (let i = 0; i < " ++ toString count.toNat ++ "; i++) \x7b").toList = _
  rw [toList_between, digits]

theorem Wrapper.opening_when (selector : String) : (Wrapper.when selector).opening.toList =
    "if (await page.$(".toList ++ ((literal selector).toList ++ ")) \x7b".toList) :=
  toList_between _ _ _

theorem Wrapper.opening_injective : Function.Injective Wrapper.opening := by
  intro w w' same
  have chars := congrArg String.toList same
  cases w with
  | loop count =>
    cases w' with
    | loop count' =>
      rw [opening_loop, opening_loop] at chars
      have digits := List.append_cancel_right (List.append_cancel_left chars)
      exact congrArg loop (UInt32.toNat_inj.mp (Text.Numeral.write_injective digits))
    | when selector =>
      rw [opening_loop, opening_when] at chars
      cases (List.cons.inj chars).1
  | when selector =>
    cases w' with
    | loop count =>
      rw [opening_loop, opening_when] at chars
      cases (List.cons.inj chars).1
    | when selector' =>
      rw [opening_when, opening_when] at chars
      have quoted := List.append_cancel_right (List.append_cancel_left chars)
      exact congrArg when (literal_injective (String.toList_inj.mp quoted))

theorem indented_injective (columns : Nat) : Function.Injective (indented columns) := by
  intro s t same
  have chars := congrArg String.toList same
  rw [toList_indented, toList_indented] at chars
  exact String.toList_inj.mp (List.append_cancel_left chars)

/-- A leaf is one line, and a loop or a condition is more. -/
theorem Action.linesFrom_ne {a : Action} (bare : a.wrappers = []) (w : Wrapper) (body : Action)
    (columns : Nat) : a.linesFrom columns none ≠ (w.wrap body).linesFrom columns none := by
  intro same
  have counted := congrArg List.length same
  rw [length_linesFrom, length_linesFrom, bare, wrappers_wrap, List.length_nil, List.length_cons]
    at counted
  omega

/-- From the lines of an action, the action can be told. -/
theorem Action.linesFrom_injective {a b : Action} {columns : Nat}
    (h : a.linesFrom columns none = b.linesFrom columns none) : a = b := by
  -- the lines of a body stand further to the right, so the columns vary in the induction
  induction a using wrapInduction generalizing b columns with
  | leaf a bare own =>
    cases b using wrapInduction with
    | leaf b bare' own' =>
      rw [linesFrom_of_leaf bare own, linesFrom_of_leaf bare' own'] at h
      have statements := indented_injective columns (List.cons.inj h).1
      have read := readStatement_statement bare
      rw [statements, readStatement_statement bare'] at read
      exact (Option.some.inj read).symm
    | wrap w body => exact absurd h (linesFrom_ne bare w body columns)
  | wrap w body ih =>
    cases b using wrapInduction with
    | leaf b bare' own' => exact absurd h.symm (linesFrom_ne bare' w body columns)
    | wrap w' body' =>
      rw [linesFrom_wrap, linesFrom_wrap] at h
      obtain ⟨first, later⟩ := List.cons.inj h
      rw [Wrapper.opening_injective (indented_injective columns first),
        ih (List.append_cancel_right later)]

theorem Action.statement_injective : Function.Injective (Action.statement none) := by
  intro a b same
  have lines (a : Action) : Text.lines (a.statement none).toList =
      (a.linesFrom 0 none).map String.toList := by
    rw [a.toList_statement, Text.lines_intercalate]
    intro line there
    obtain ⟨text, one, rfl⟩ := List.mem_map.mp there
    exact Action.isLine_of_mem_linesFrom unbroken_of_mem_none one
  have one : (a.linesFrom 0 none).map String.toList = (b.linesFrom 0 none).map String.toList := by
    rw [← lines, ← lines, same]
  exact linesFrom_injective ((List.map_inj_right fun _ _ => String.toList_inj.mp).mp one)

end Injectivity

section Addresses

theorem regExp?_statement (v : String) :
    regExp? ((Action.expect .url v).statement none).toList = some (pattern v).toList := by
  change regExp?
    ("await expect(page).toHaveURL(new RegExp(" ++ literal (pattern v) ++ "));").toList = _
  rw [toList_between, regExp?, Text.after?_append]
  simp only [Option.bind_eq_bind, Option.bind_some, lastArgument?_literal, Option.map_some]

theorem finds_pattern_iff (v : String) (s : List Char) :
    Finds (pattern v).toList s ↔ v.toList <:+: s := by
  rw [Finds, readPattern_pattern]
  constructor
  · rintro ⟨text, read, found⟩
    exact Option.some.inj read ▸ found
  · exact fun found => ⟨v.toList, rfl, found⟩

theorem isSuccess_expect_url {σ : Type} (page : Page σ) (v : String) (s : σ) :
    ((Action.expect .url v).execute.run page s).1.isSuccess = true ↔
      ∃ url, (page .currentUrl s).1 = .ok url ∧ v.toList <:+: url.toList := by
  have result : ((Action.expect .url v).execute.run page s).1 =
      .ofCheck "Expectation failed"
        ((page .currentUrl s).1.map fun url => Text.occursIn v.toList url.toList) := rfl
  rw [result]
  rcases (page .currentUrl s).1 with fault | url
  · refine iff_of_false nofun ?_
    rintro ⟨url, reply, -⟩
    cases reply
  · have answer (yes : Bool) : (Result.ofCheck "Expectation failed" (.ok yes)).isSuccess = yes := by
      cases yes <;> rfl
    refine (Bool.eq_iff_iff.mp (answer _)).trans (Text.occursIn_iff.trans ?_)
    constructor
    · exact fun found => ⟨url, rfl, found⟩
    · rintro ⟨other, reply, found⟩
      obtain rfl := Except.ok.inj reply
      exact found

end Addresses

/-- Literals and patterns give back the texts for which they were written, and what a pattern finds is what
an expectation looks for. -/
theorem statement_faithful :
    (∀ s rest, readLiteral ((literal s).toList ++ rest) = some (s.toList, rest)) ∧
    (∀ v, (pattern v).toList =
      v.toList.flatMap fun c => if c ∈ syntaxCharacters then ['\\', c] else [c]) ∧
    (∀ v, readPattern (pattern v).toList = some v.toList) ∧
    (∀ (v : String) {σ : Type} (page : Page σ) (s : σ),
      ((Action.expect .url v).execute.run page s).1.isSuccess = true ↔
        ∃ url source, (page .currentUrl s).1 = .ok url ∧
          regExp? ((Action.expect .url v).statement none).toList = some source ∧
          Finds source url.toList) ∧
    Function.Injective (Action.statement none) := by
  refine ⟨readLiteral_literal, fun v => ?_, readPattern_pattern, fun v σ page s => ?_,
    Action.statement_injective⟩
  · rw [toList_pattern, patternChars_eq_flatMap]
  · rw [isSuccess_expect_url, regExp?_statement]
    constructor
    · rintro ⟨url, reply, found⟩
      exact ⟨url, _, reply, rfl, (finds_pattern_iff v url.toList).mpr found⟩
    · rintro ⟨url, source, reply, read, found⟩
      obtain rfl := Option.some.inj read
      exact ⟨url, reply, (finds_pattern_iff v url.toList).mp found⟩

end PageWalk
