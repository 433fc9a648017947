import Mathlib.Data.List.TakeWhile
import PageWalk.Proofs.Collapsing
import PageWalk.Proofs.CommandErrors
import PageWalk.Proofs.TestLines

/-!
# Comments of a test

A record that is no command becomes a comment between two line feeds. A reader of JavaScript takes a
comment to end at a line feed, at a carriage return, or at one of two separators beyond ASCII. The first two
are never in a comment. Main statement: the separators are in it just if they are in the command or in
what its error names; a command without separators and backslashes has none of them in either.
-/

namespace PageWalk.TestSource

set_option autoImplicit false

/-- Ends a line for a reader of JavaScript. -/
def terminators : List Char := ['\n', '\r', '\u2028', '\u2029']

/-- Without the line separator and the paragraph separator. -/
def Plain (s : String) : Prop :=
  '\u2028' ∉ s.toList ∧ '\u2029' ∉ s.toList

instance (s : String) : Decidable (Plain s) :=
  inferInstanceAs (Decidable (_ ∧ _))

/-- What is left for a reader of JavaScript who begins within a comment that ends with its line. -/
def afterComment (s : List Char) : List Char :=
  s.dropWhile (· ∉ terminators)

section Reader

variable {text rest : List Char}

theorem afterComment_append_eq_iff :
    afterComment (text ++ '\n' :: rest) = '\n' :: rest ↔ ∀ c ∈ text, c ∉ terminators := by
  constructor
  · intro all c there
    -- what a reader leaves out is then all of the text, and no terminator is left out
    have out := List.takeWhile_append_dropWhile (p := (· ∉ terminators)) (l := text ++ '\n' :: rest)
    rw [← afterComment, all] at out
    rw [← List.append_cancel_right out] at there
    have passed := List.mem_takeWhile_imp (p := (· ∉ terminators)) there
    exact of_decide_eq_true passed
  · intro none
    rw [afterComment, List.dropWhile_append_of_pos fun c there => decide_eq_true (none c there)]
    rfl

theorem forall_not_mem_terminators_iff {s : String} (one : Text.Unbroken s.toList) :
    (∀ c ∈ s.toList, c ∉ terminators) ↔ Plain s := by
  constructor
  · intro none
    exact ⟨fun line => none _ line (by decide), fun paragraph => none _ paragraph (by decide)⟩
  · rintro ⟨line, paragraph⟩ c there ends
    rcases List.mem_cons.mp ends with rfl | ends
    · exact one.1 there
    rcases List.mem_cons.mp ends with rfl | ends
    · exact one.2 there
    rcases List.mem_cons.mp ends with rfl | ends
    · exact line there
    rw [List.mem_singleton.mp ends] at there
    exact paragraph there

end Reader

section Comment

variable {s t command : String} {e : CommandError} {c : Char}

theorem plain_append_iff : Plain (s ++ t) ↔ Plain s ∧ Plain t := by
  simp only [Plain, String.toList_append, List.mem_append, not_or]
  exact and_and_and_comm

/-- Apart from the line breaks and the blank, a text on one line has the characters of the text. -/
theorem mem_oneLine_iff (h : 128 ≤ c.toNat) : c ∈ (oneLine s).toList ↔ c ∈ s.toList := by
  rw [oneLine, String.toList_ofList, List.mem_map]
  constructor
  · rintro ⟨d, there, same⟩
    split at same
    · subst same
      exact absurd h (by decide)
    · exact same ▸ there
  · intro there
    refine ⟨c, there, if_neg ?_⟩
    rintro (rfl | rfl) <;> exact absurd h (by decide)

theorem plain_oneLine_iff : Plain (oneLine s) ↔ Plain s := by
  rw [Plain, mem_oneLine_iff (by decide), mem_oneLine_iff (by decide), Plain]

theorem plain_message_iff : Plain e.message ↔ Plain e.told := by
  have line : '\u2028' ∈ e.message.toList ↔ '\u2028' ∈ e.told.toList :=
    CommandError.mem_message_iff (by decide)
  have paragraph : '\u2029' ∈ e.message.toList ↔ '\u2029' ∈ e.told.toList :=
    CommandError.mem_message_iff (by decide)
  exact and_congr (not_congr line) (not_congr paragraph)

theorem plain_comment_iff : Plain (comment command e) ↔ Plain command ∧ Plain e.told := by
  have lead : Plain "// Failed to parse command '" := by decide
  have between : Plain "': " := by decide
  unfold comment
  rw [plain_append_iff, plain_append_iff, plain_append_iff, plain_oneLine_iff,
    plain_oneLine_iff, plain_message_iff, and_iff_left between, and_iff_right lead]

/-- Without separators and backslashes in a command, its error names none of the separators. -/
theorem plain_told (unread : Command.parse command = .error e) (plain : Plain command)
    (mark : '\\' ∉ command.toList) : Plain e.told := by
  obtain ⟨part, within, told⟩ := Command.namesPart_of_parseChars unread
  have inside : ∀ c ∈ e.told.toList, c ∈ command.toList := by
    intro c there
    apply within.subset
    rcases told with whole | without
    · exact whole ▸ there
    · rw [without] at there
      exact Field.mem_of_mem_unquote (fun here => mark (within.subset here)) there
  exact ⟨fun line => plain.1 (inside _ line), fun paragraph => plain.2 (inside _ paragraph)⟩

end Comment

section Place

variable {r : Record} {e : CommandError}

/-- A record that is no command goes nowhere, so it is kept, and so is what comes right after it. -/
theorem stepsAfter_append_unread (unread : Command.parse r.command = .error e)
    (last : Option String) (earlier later : History) :
    stepsAfter last (earlier ++ r :: later) =
      stepsAfter last earlier ++ Step.ofRecord r :: steps later := by
  have nowhere : place? r = none := by rw [place?, Step.place?, Step.ofRecord, unread]
  induction earlier generalizing last with
  | nil =>
    have kept : ¬ Again last r := fun again => by
      rw [Again, nowhere] at again
      cases again.1
    rw [List.nil_append, stepsAfter_of_not_again kept, nowhere]
    rfl
  | cons first rest ih =>
    by_cases again : Again last first
    · rw [List.cons_append, stepsAfter_of_again again, stepsAfter_of_again again, ih]
    · rw [List.cons_append, stepsAfter_of_not_again again, stepsAfter_of_not_again again, ih,
        List.cons_append]

theorem Step.block_of_unread (unread : Command.parse r.command = .error e) :
    (Step.ofRecord r).block = "  " ++ comment r.command e := by
  have one := isLine_comment r.command e
  rw [block, statement, ofRecord, unread, Text.indent, Text.lines_of_isLine one,
    List.map_singleton, List.intercalate_singleton, ← String.toList_inj, String.toList_ofList,
    String.toList_append]
  rfl

theorem test_append_unread (unread : Command.parse r.command = .error e)
    (earlier later : History) : test (earlier ++ r :: later) =
      joined "\n" (opening ++ (steps earlier).map Step.block) ++ "\n  " ++ comment r.command e ++
        "\n" ++ joined "\n" ((steps later).map Step.block ++ [closing]) := by
  have lines : opening ++ (steps (earlier ++ r :: later)).map Step.block ++ [closing] =
      (opening ++ (steps earlier).map Step.block) ++
        ("  " ++ comment r.command e) :: ((steps later).map Step.block ++ [closing]) := by
    rw [steps, stepsAfter_append_unread unread, List.map_append, List.map_cons,
      Step.block_of_unread unread, List.append_assoc, List.append_assoc, List.append_assoc,
      List.cons_append]
    rfl
  have first : opening ++ (steps earlier).map Step.block ≠ [] :=
    List.append_ne_nil_of_left_ne_nil (List.cons_ne_nil _ _) _
  have last : (steps later).map Step.block ++ [closing] ≠ [] :=
    List.append_ne_nil_of_right_ne_nil _ (List.cons_ne_nil _ _)
  have indented : "\n  " = "\n" ++ "  " := rfl
  rw [test, lines, joined, String.intercalate_append_of_ne_nil first (List.cons_ne_nil _ _),
    String.intercalate_cons_of_ne_nil last, indented]
  simp only [String.append_assoc]

end Place

/-- A record that is no command is a comment, which a reader of JavaScript leaves out whole just if it has no
separator. -/
theorem comment_ends_with_line (earlier later : History) (r : Record) (e : CommandError)
    (unread : Command.parse r.command = .error e) :
    let text := comment r.command e
    test (earlier ++ r :: later) =
        joined "\n" (opening ++ (steps earlier).map Step.block) ++ "\n  " ++ text ++ "\n" ++
          joined "\n" ((steps later).map Step.block ++ [closing]) ∧
      ['/', '/'] <+: text.toList ∧ '\n' ∉ text.toList ∧ '\r' ∉ text.toList ∧
      ((∀ c ∈ text.toList, c ∉ terminators) ↔ Plain r.command ∧ Plain e.told) ∧
      (∀ rest, afterComment (text.toList ++ '\n' :: rest) = '\n' :: rest ↔
        Plain r.command ∧ Plain e.told) ∧
      (Plain r.command → '\\' ∉ r.command.toList → Plain e.told) := by
  intro text
  have one : Text.Unbroken text.toList := (isLine_comment r.command e).2
  have clear : (∀ c ∈ text.toList, c ∉ terminators) ↔ Plain r.command ∧ Plain e.told := by
    rw [forall_not_mem_terminators_iff one, plain_comment_iff]
  have slashes : ['/', '/'] <+: text.toList := by
    unfold text comment
    rw [String.append_assoc, String.append_assoc, String.toList_append]
    exact List.IsPrefix.trans (by decide) (List.prefix_append _ _)
  refine ⟨test_append_unread unread earlier later, slashes, one.1, one.2, clear, fun rest => ?_,
    plain_told unread⟩
  rw [afterComment_append_eq_iff, clear]

/-- Line breaks in one command, and in another a separator that only its escape in a number has. -/
theorem comment_ends_with_line_decoded :
    let broken : Record := ⟨"no\r\ncommand", none, 0⟩
    let escaped : Record := ⟨"loop:2:wait:\"\\u2028\"", none, 1⟩
    let late : CommandError := .invalidNumber .wait "\u2028"
    Command.parse broken.command = .error (.missingDelimiter broken.command) ∧
      Command.parse escaped.command = .error late ∧ Plain escaped.command ∧
      test [broken, escaped] = joined "\n" opening ++
        "\n  // Failed to parse command 'no  command': Invalid action format: no  command\n  " ++
        comment escaped.command late ++ "\n\x7d);" ∧
      (∀ rest, afterComment
        ((comment broken.command (.missingDelimiter broken.command)).toList ++ '\n' :: rest) =
          '\n' :: rest) ∧
      ∀ rest, afterComment ((comment escaped.command late).toList ++ '\n' :: rest) ≠
        '\n' :: rest := by
  intro broken escaped late
  have unread : Command.parse broken.command = .error (.missingDelimiter broken.command) := by
    decide +kernel
  have unread' : Command.parse escaped.command = .error late := by decide +kernel
  have plain : Plain broken.command := by decide
  have mark : '\\' ∉ broken.command.toList := by decide
  have separated : ¬ Plain late.told := by decide
  obtain ⟨-, -, -, -, -, whole, told⟩ := comment_ends_with_line [] [escaped] broken _ unread
  obtain ⟨place, -, -, -, -, cut, -⟩ := comment_ends_with_line [broken] [] escaped late unread'
  refine ⟨unread, unread', by decide, ?_, fun rest => ?_, fun rest same => ?_⟩
  · exact place.trans (by decide +kernel)
  · exact (whole rest).mpr ⟨plain, told plain mark⟩
  · exact separated ((cut rest).mp same).2

/-- A separator ends the comment, and what is behind it is left to the reader as code. -/
theorem comment_ends_early :
    let r : Record := ⟨"hover:\u2028alert(1);//", none, 0⟩
    let e : CommandError := .unknownType "hover"
    Command.parse r.command = .error e ∧
      test [r] = joined "\n" opening ++ "\n  " ++ comment r.command e ++ "\n\x7d);" ∧
      '\u2028' ∈ (comment r.command e).toList ∧ '\u2028' ∈ terminators ∧
      afterComment (comment r.command e).toList =
        "\u2028alert(1);//': Unknown action type: hover".toList := by
  decide +kernel

end PageWalk.TestSource
