import PageWalk.Proofs.Lines
import PageWalk.Proofs.Numeral
import PageWalk.Proofs.Replay

/-!
# The lines of a test

A test has three lines at its head, then the lines of each step, and one line at its end. A step
that is no command is one line; any other step is a line for its leaf, with a line before it and one
after it for each loop and each condition around it. No text of a command can change that, since a
literal has no line break in it.
-/

namespace PageWalk

set_option autoImplicit false

namespace Action

/-- The loops and conditions around the leaf, the outermost first. -/
def wrappers : Action → List Wrapper
  | loop count body => .loop count :: body.wrappers
  | when selector body => .when selector :: body.wrappers
  | _ => []

/-- What stands inside all loops and conditions. -/
def leaf : Action → Action
  | loop _ body => body.leaf
  | when _ body => body.leaf
  | a => a

@[simp] theorem wrappers_wrap (w : Wrapper) (body : Action) :
    (w.wrap body).wrappers = w :: body.wrappers := by
  cases w <;> rfl

@[simp] theorem leaf_wrap (w : Wrapper) (body : Action) : (w.wrap body).leaf = body.leaf := by
  cases w <;> rfl

theorem statement_wrap (locator : Option String) (w : Wrapper) (body : Action) :
    (w.wrap body).statement locator = w.block (body.statement none) := by
  cases w <;> rfl

@[elab_as_elim]
theorem wrapInduction {motive : Action → Prop}
    (leaf : ∀ a, a.wrappers = [] → a.leaf = a → motive a)
    (wrap : ∀ w body, motive body → motive (Wrapper.wrap w body)) : ∀ a, motive a
  | loop count body => wrap (.loop count) body (wrapInduction leaf wrap body)
  | when selector body => wrap (.when selector) body (wrapInduction leaf wrap body)
  | click _ | fill _ _ | wait _ | goto _ | press _ | scroll _ | expect _ _ => leaf _ rfl rfl

theorem foldr_wrap_leaf (a : Action) : a.wrappers.foldr Wrapper.wrap a.leaf = a := by
  induction a using wrapInduction with
  | leaf a bare own => rw [bare, own, List.foldr_nil]
  | wrap w body ih => rw [wrappers_wrap, leaf_wrap, List.foldr_cons, ih]

end Action

section Unbroken

open Text (Unbroken)

variable {s t : String}

theorem unbroken_append (hs : Unbroken s.toList) (ht : Unbroken t.toList) :
    Unbroken (s ++ t).toList := by
  rw [String.toList_append]
  exact hs.append ht

theorem unbroken_between {before after : String} (hb : Unbroken before.toList)
    (hs : Unbroken s.toList) (ha : Unbroken after.toList) :
    Unbroken (before ++ s ++ after).toList :=
  unbroken_append (unbroken_append hb hs) ha

theorem unbroken_toString (n : Nat) : Unbroken (toString n).toList := by
  have digits : (toString n).toList = Text.Numeral.write n := Nat.toList_repr
  rw [digits]
  exact ⟨Text.Numeral.not_mem_write rfl, Text.Numeral.not_mem_write rfl⟩

namespace TestSource

theorem unbroken_escaped (c : Char) : Unbroken (escaped c) := by
  unfold escaped
  split
  · decide
  split
  · decide
  split
  · decide
  · next feed =>
    split
    · decide
    · next ret =>
      rw [Unbroken, List.mem_singleton, List.mem_singleton]
      exact ⟨Ne.symm feed, Ne.symm ret⟩

theorem unbroken_literal (s : String) : Unbroken (literal s).toList := by
  have inner : Unbroken (s.toList.flatMap escaped) := by
    refine ⟨?_, ?_⟩
    · rw [List.mem_flatMap]
      rintro ⟨c, -, here⟩
      exact (unbroken_escaped c).1 here
    · rw [List.mem_flatMap]
      rintro ⟨c, -, here⟩
      exact (unbroken_escaped c).2 here
  have quote : Unbroken ['\''] := by decide
  rw [literal, String.toList_ofList]
  exact quote.append (inner.append quote)

theorem unbroken_oneLine (s : String) : Unbroken (oneLine s).toList := by
  rw [oneLine, String.toList_ofList]
  refine ⟨?_, ?_⟩ <;>
  · rw [List.mem_map]
    rintro ⟨c, -, same⟩
    split at same
    · cases same
    · next other =>
      subst same
      exact other (by decide)

theorem isLine_comment (command : String) (e : CommandError) :
    Text.IsLine (comment command e).toList := by
  have slash : Begins '/' "// Failed to parse command '" := rfl
  have lead : Unbroken "// Failed to parse command '".toList := by decide
  have between : Unbroken "': ".toList := by decide
  unfold comment
  refine ⟨(((slash.append _).append _).append _).ne_nil, ?_⟩
  exact unbroken_append (unbroken_between lead (unbroken_oneLine _) between) (unbroken_oneLine _)

end TestSource

variable {locator : Option String}

theorem unbroken_of_mem_none : ∀ l ∈ (none : Option String), Unbroken l.toList := by
  intro l absent
  cases absent

theorem Wrapper.unbroken_opening (w : Wrapper) : Unbroken w.opening.toList := by
  cases w with
  | loop count => exact unbroken_between (by decide) (unbroken_toString _) (by decide)
  | when selector =>
    exact unbroken_between (by decide) (TestSource.unbroken_literal selector) (by decide)

/-- The statement of a leaf is one line if the locator is. -/
theorem Action.unbroken_statement {a : Action} (bare : a.wrappers = [])
    (h : ∀ l ∈ locator, Unbroken l.toList) : Unbroken (a.statement locator).toList := by
  cases a with
  | click selector =>
    cases locator with
    | none => exact unbroken_between (by decide) (TestSource.unbroken_literal selector) (by decide)
    | some l => exact unbroken_between (by decide) (h l rfl) (by decide)
  | fill selector value =>
    have typed := TestSource.unbroken_literal value
    cases locator with
    | none =>
      have target : Unbroken ("await page.fill(" ++ TestSource.literal selector ++ ", ").toList :=
        unbroken_between (by decide) (TestSource.unbroken_literal selector) (by decide)
      exact unbroken_between target typed (by decide)
    | some l =>
      have target : Unbroken ("await page." ++ l ++ ".fill(").toList :=
        unbroken_between (by decide) (h l rfl) (by decide)
      exact unbroken_between target typed (by decide)
  | wait ms => exact unbroken_between (by decide) (unbroken_toString _) (by decide)
  | goto url => exact unbroken_between (by decide) (TestSource.unbroken_literal url) (by decide)
  | press key => exact unbroken_between (by decide) (TestSource.unbroken_literal key) (by decide)
  | scroll goal =>
    cases goal with
    | top =>
      have fixed : Unbroken "await page.evaluate(() => window.scrollTo(0, 0));".toList := by decide
      exact fixed
    | bottom =>
      have fixed : Unbroken
        "await page.evaluate(() => window.scrollTo(0, document.body.scrollHeight));".toList := by
        decide
      exact fixed
    | element selector =>
      exact unbroken_between (by decide) (TestSource.unbroken_literal selector) (by decide)
  | expect aspect value =>
    cases aspect with
    | text | selector =>
      exact unbroken_between (by decide) (TestSource.unbroken_literal value) (by decide)
    | url => exact unbroken_between (by decide) (TestSource.unbroken_literal _) (by decide)
  | loop | when => cases bare

end Unbroken

section Blocks

open Text (IsLine)

variable {locator : Option String}

def indented (columns : Nat) (text : String) : String :=
  String.ofList (List.replicate columns ' ') ++ text

theorem toList_indented (columns : Nat) (text : String) :
    (indented columns text).toList = List.replicate columns ' ' ++ text.toList := by
  rw [indented, String.toList_append, String.toList_ofList]

theorem indented_append (columns : Nat) (before after : String) :
    indented columns (before ++ after) = indented columns before ++ after := by
  rw [indented, indented, String.append_assoc]

theorem isLine_indented {text : String} (h : IsLine text.toList) (columns : Nat) :
    IsLine (indented columns text).toList := by
  rw [toList_indented]
  refine ⟨List.append_ne_nil_of_right_ne_nil _ h.1, Text.Unbroken.append ?_ h.2⟩
  refine ⟨fun feed => ?_, fun ret => ?_⟩
  · cases List.eq_of_mem_replicate feed
  · cases List.eq_of_mem_replicate ret

/-- The lines of an action from a column on: what opens its loops and conditions, the leaf, and the braces
that close them. -/
def Action.linesFrom (columns : Nat) (locator : Option String) (a : Action) : List String :=
  let depth := a.wrappers.length
  (a.wrappers.mapIdx fun k w => indented (columns + 2 * k) w.opening) ++
    indented (columns + 2 * depth) (a.leaf.statement (if depth = 0 then locator else none)) ::
    ((List.range depth).map fun k => indented (columns + 2 * k) "\x7d").reverse

theorem Action.length_linesFrom (columns : Nat) (locator : Option String) (a : Action) :
    (a.linesFrom columns locator).length = 2 * a.wrappers.length + 1 := by
  simp only [linesFrom, List.length_append, List.length_mapIdx, List.length_cons,
    List.length_reverse, List.length_map, List.length_range]
  omega

theorem Action.linesFrom_ne_nil (a : Action) (columns : Nat) : a.linesFrom columns locator ≠ [] := by
  intro empty
  have counted := a.length_linesFrom columns locator
  rw [empty] at counted
  cases counted

theorem Action.linesFrom_of_leaf {a : Action} (bare : a.wrappers = []) (own : a.leaf = a)
    (columns : Nat) : a.linesFrom columns locator = [indented columns (a.statement locator)] := by
  rw [linesFrom, bare, own]
  rfl

theorem Action.linesFrom_wrap (w : Wrapper) (body : Action) (columns : Nat) :
    (w.wrap body).linesFrom columns locator =
      indented columns w.opening ::
        (body.linesFrom (columns + 2) none ++ [indented columns "\x7d"]) := by
  have deeper (k : Nat) : columns + 2 * (k + 1) = columns + 2 + 2 * k := by omega
  simp only [linesFrom, wrappers_wrap, leaf_wrap, List.length_cons, List.mapIdx_cons,
    List.range_succ_eq_map, List.map_cons, List.map_map, List.reverse_cons, Function.comp_def,
    deeper, Nat.succ_eq_add_one, Nat.mul_zero, Nat.add_zero, List.cons_append, List.append_assoc]
  simp

theorem Wrapper.toList_block (w : Wrapper) (statement : String) :
    (w.block statement).toList =
      w.opening.toList ++ '\n' :: (Text.indent statement.toList ++ '\n' :: ['\x7d']) := by
  have feed : "\n".toList = ['\n'] := rfl
  have closes : "\n\x7d".toList = ['\n', '\x7d'] := rfl
  have inner : (String.ofList (Text.indent statement.toList)).toList =
      Text.indent statement.toList := String.toList_ofList
  rw [block, String.toList_append, String.toList_append, String.toList_append, feed, closes, inner,
    List.append_assoc, List.append_assoc, List.singleton_append]

theorem Action.map_linesFrom (columns : Nat) (locator : Option String) (a : Action) :
    ((a.linesFrom columns locator).map String.toList).map (fun line => ' ' :: ' ' :: line) =
      (a.linesFrom (columns + 2) locator).map String.toList := by
  have shifted (columns : Nat) (text : String) :
      ' ' :: ' ' :: (indented columns text).toList = (indented (columns + 2) text).toList := by
    rw [toList_indented, toList_indented]
    rfl
  induction a using wrapInduction generalizing columns locator with
  | leaf a bare own =>
    rw [linesFrom_of_leaf bare own, linesFrom_of_leaf bare own]
    exact congrArg (fun line => [line]) (shifted columns _)
  | wrap w body ih =>
    simp only [linesFrom_wrap, List.map_cons, List.map_append, List.map_nil, ih, shifted]

theorem Action.isLine_of_mem_linesFrom {a : Action} {columns : Nat} {line : String}
    (h : ∀ l ∈ locator, Text.Unbroken l.toList) (there : line ∈ a.linesFrom columns locator) :
    IsLine line.toList := by
  induction a using wrapInduction generalizing columns locator with
  | leaf a bare own =>
    rw [linesFrom_of_leaf bare own, List.mem_singleton] at there
    obtain ⟨_, _, begins⟩ := a.begins_statement locator
    rw [there]
    exact isLine_indented ⟨begins.ne_nil, a.unbroken_statement bare h⟩ columns
  | wrap w body ih =>
    obtain ⟨_, _, begins⟩ := w.begins_opening
    rw [linesFrom_wrap, List.mem_cons, List.mem_append, List.mem_singleton] at there
    rcases there with rfl | within | rfl
    · exact isLine_indented ⟨begins.ne_nil, w.unbroken_opening⟩ columns
    · exact ih unbroken_of_mem_none within
    · exact isLine_indented (by decide) columns

/-- A statement is its lines, joined by line feeds. -/
theorem Action.toList_statement (a : Action) (locator : Option String) :
    (a.statement locator).toList =
      List.intercalate ['\n'] ((a.linesFrom 0 locator).map String.toList) := by
  -- inside a wrapper there is no locator, and the lines of the body are cut apart and moved
  induction a using wrapInduction generalizing locator with
  | leaf a bare own =>
    rw [linesFrom_of_leaf bare own, List.map_singleton, List.intercalate_singleton, toList_indented]
    rfl
  | wrap w body ih =>
    have inner : (body.statement none).toList =
        List.intercalate ['\n'] ((body.linesFrom 0 none).map String.toList) :=
      ih none
    have lines : ∀ line ∈ (body.linesFrom 0 none).map String.toList, IsLine line := by
      intro line there
      obtain ⟨text, one, rfl⟩ := List.mem_map.mp there
      exact isLine_of_mem_linesFrom unbroken_of_mem_none one
    have some : (body.linesFrom 2 none).map String.toList ≠ [] :=
      mt List.map_eq_nil_iff.mp (body.linesFrom_ne_nil 2)
    rw [statement_wrap, w.toList_block, inner, Text.indent_intercalate lines, map_linesFrom,
      linesFrom_wrap, List.map_cons, List.map_append, List.map_singleton,
      List.intercalate_cons_of_ne_nil (List.append_ne_nil_of_left_ne_nil some _),
      Text.intercalate_concat some, toList_indented, toList_indented, List.append_assoc]
    rfl

theorem getLast?_append {s t : String} {c : Char} (h : t.toList.getLast? = some c) :
    (s ++ t).toList.getLast? = some c := by
  rw [String.toList_append, List.getLast?_append, h, Option.some_or]

theorem Action.exists_getLast?_statement (a : Action) (locator : Option String) :
    ∃ c, (a.statement locator).toList.getLast? = some c ∧ c ≠ '\n' := by
  have call (text : String) : ∃ c, (text ++ ");").toList.getLast? = some c ∧ c ≠ '\n' :=
    ⟨';', getLast?_append rfl, by decide⟩
  cases a with
  | click selector =>
    cases locator with
    | none => exact call _
    | some l => exact ⟨';', getLast?_append rfl, by decide⟩
  | fill selector value => cases locator <;> exact call _
  | wait | goto | press => exact call _
  | scroll goal =>
    cases goal with
    | top =>
      have fixed : "await page.evaluate(() => window.scrollTo(0, 0));".toList.getLast? = some ';' := by
        decide +kernel
      exact ⟨';', fixed, by decide⟩
    | bottom =>
      have fixed :
          "await page.evaluate(() => window.scrollTo(0, document.body.scrollHeight));".toList.getLast? =
            some ';' := by
        decide +kernel
      exact ⟨';', fixed, by decide⟩
    | element selector => exact ⟨';', getLast?_append rfl, by decide⟩
  | expect aspect value =>
    cases aspect with
    | text => exact call _
    | selector | url => exact ⟨';', getLast?_append rfl, by decide⟩
  | loop | when => exact ⟨'\x7d', getLast?_append rfl, by decide⟩

end Blocks

namespace TestSource

/-- The lines of a step: one for a text that is no command, else those of the action. -/
def Step.lines (s : Step) : List String :=
  match s.action with
  | .ok a => a.linesFrom 2 s.record.locator
  | .error e => [indented 2 (comment s.record.command e)]

theorem indented_comment (command : String) (e : CommandError) :
    indented 2 (comment command e) =
      "  // Failed to parse command '" ++ oneLine command ++ "': " ++ oneLine e.message := by
  have lead : indented 2 "// Failed to parse command '" = "  // Failed to parse command '" := rfl
  unfold comment
  rw [indented_append, indented_append, indented_append, lead]

section Steps

variable {s : Step}

theorem Step.lines_of_ok {a : Action} (h : s.action = .ok a) :
    s.lines = a.linesFrom 2 s.record.locator := by
  rw [lines, h]

theorem Step.lines_of_error {e : CommandError} (h : s.action = .error e) :
    s.lines = [indented 2 (comment s.record.command e)] := by
  rw [lines, h]

theorem Step.exists_getLast?_statement (s : Step) :
    ∃ c, s.statement.toList.getLast? = some c ∧ c ≠ '\n' := by
  rw [statement]
  cases s.action with
  | ok a => exact a.exists_getLast?_statement s.record.locator
  | error e =>
    have one := isLine_comment s.record.command e
    refine ⟨_, List.getLast?_eq_some_getLast one.1, fun feed => ?_⟩
    exact one.2.1 (feed ▸ List.getLast_mem one.1)

theorem Step.pieces_block_eq (s : Step) : Text.pieces '\n' s.block.toList =
    (Text.linesWithin s.statement.toList).map fun line => ' ' :: ' ' :: line := by
  obtain ⟨c, last, other⟩ := s.exists_getLast?_statement
  rw [block, String.toList_ofList, Text.pieces_indent last other]

/-- Cut at line feeds, what a test has for a step are the lines of the step. -/
theorem Step.pieces_block (h : ∀ l ∈ s.record.locator, Text.Unbroken l.toList) :
    Text.pieces '\n' s.block.toList = s.lines.map String.toList := by
  rw [pieces_block_eq, statement]
  cases action : s.action with
  | ok a =>
    have some : (a.linesFrom 0 s.record.locator).map String.toList ≠ [] :=
      mt List.map_eq_nil_iff.mp (a.linesFrom_ne_nil 0)
    have unbroken : ∀ line ∈ (a.linesFrom 0 s.record.locator).map String.toList, Text.Unbroken line := by
      intro line there
      obtain ⟨text, one, rfl⟩ := List.mem_map.mp there
      exact (Action.isLine_of_mem_linesFrom h one).2
    rw [lines_of_ok action, ← Action.map_linesFrom, a.toList_statement,
      Text.linesWithin_intercalate some unbroken]
  | error e =>
    rw [lines_of_error action, Text.linesWithin_of_unbroken (isLine_comment s.record.command e).2,
      List.map_singleton, List.map_singleton, toList_indented]
    rfl

end Steps

theorem toList_test (history : History) :
    (test history).toList =
      List.intercalate ['\n'] (opening.map String.toList ++
        ((steps history).map Step.block).map String.toList ++ [closing.toList]) := by
  rw [test, String.toList_intercalate, List.map_append, List.map_append]
  rfl

end TestSource

/-- The lines of a test are those of its steps, where no locator has a line break: one for each leaf and two
for each wrapper. -/
theorem pieces_test (history : History)
    (h : ∀ r ∈ history, ∀ l, r.locator = some l → '\n' ∉ l.toList ∧ '\r' ∉ l.toList) :
    Text.pieces '\n' (TestSource.test history).toList =
        (TestSource.opening ++ (TestSource.steps history).flatMap TestSource.Step.lines ++
          [TestSource.closing]).map String.toList ∧
      ∀ step ∈ TestSource.steps history,
        (∀ e, step.action = .error e → step.lines =
          ["  // Failed to parse command '" ++ TestSource.oneLine step.record.command ++ "': " ++
            TestSource.oneLine e.message]) ∧
        ∀ a, step.action = .ok a → a.wrappers.foldr Wrapper.wrap a.leaf = a ∧
          step.lines.length = 2 * a.wrappers.length + 1 := by
  refine ⟨?_, fun step kept => ⟨fun e unread => ?_, fun a read => ⟨a.foldr_wrap_leaf, ?_⟩⟩⟩
  · have head : ∀ line ∈ TestSource.opening.map String.toList, '\n' ∉ line := by decide
    have last : '\n' ∉ TestSource.closing.toList := by decide
    have blocks : ∀ step ∈ TestSource.steps history,
        Text.pieces '\n' step.block.toList = step.lines.map String.toList := by
      intro step kept
      obtain ⟨r, recorded, rfl⟩ := TestSource.exists_record_of_mem_steps kept
      exact TestSource.Step.pieces_block (h r recorded)
    rw [TestSource.toList_test,
      Text.pieces_intercalate (List.append_ne_nil_of_right_ne_nil _ (List.cons_ne_nil _ _)),
      List.flatMap_append, List.flatMap_append, Text.flatMap_pieces head, List.flatMap_singleton,
      Text.pieces_of_not_mem last, List.map_append, List.map_append, List.map_singleton]
    have same : (((TestSource.steps history).map TestSource.Step.block).map String.toList).flatMap
        (Text.pieces '\n') =
        ((TestSource.steps history).flatMap TestSource.Step.lines).map String.toList := by
      rw [List.flatMap_map, List.flatMap_map, List.map_flatMap, List.flatMap_def, List.flatMap_def,
        List.map_congr_left blocks]
    rw [same]
  · rw [TestSource.Step.lines_of_error unread, TestSource.indented_comment]
  · rw [TestSource.Step.lines_of_ok read]
    exact a.length_linesFrom 2 step.record.locator

/-- Line breaks in a selector, in a value and in a text that is no command, within two wrappers. -/
theorem pieces_test_hostile :
    let history : History := [
      ⟨"click:#go", some "getByText('Go')", 0⟩,
      ⟨"if:a\nb:loop:2:fill:#q:x\r\n  \x7d);", some "getByLabel('q')", 1⟩,
      ⟨"no\r\ncommand", none, 2⟩]
    (∀ r ∈ history, ∀ l, r.locator = some l → '\n' ∉ l.toList ∧ '\r' ∉ l.toList) ∧
      Text.pieces '\n' (TestSource.test history).toList =
      ["import \x7b test, expect \x7d from '@playwright/test';", "",
        "test('generated test', async (\x7b page \x7d) => \x7b",
        "  await page.getByText('Go').click();",
        "  if (await page.$('a\\nb')) \x7b",
        "    for (let i = 0; i < 2; i++) \x7b",
        "      await page.fill('#q', 'x\\r\\n  \x7d);');",
        "    \x7d",
        "  \x7d",
        "  // Failed to parse command 'no  command': Invalid action format: no  command",
        "\x7d);"].map String.toList := by
  intro history
  have single : ∀ r ∈ history, ∀ l, r.locator = some l → '\n' ∉ l.toList ∧ '\r' ∉ l.toList := by
    decide
  refine ⟨single, ?_⟩
  rw [(pieces_test history single).1]
  decide +kernel

end PageWalk
