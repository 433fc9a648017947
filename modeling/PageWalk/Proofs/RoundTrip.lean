import PageWalk.Command.Printer
import PageWalk.Proofs.Spelling

/-!
# The canonical form reads back

The canonical form of an action is one of its spellings, so it reads back as the action, unless an
expectation inside looks for the empty text: that one is written bare, and a bare empty text is
refused as missing. `parse_command_iff` says for every action whether its canonical form reads back.
-/

namespace PageWalk

set_option autoImplicit false

/-- No expectation looks for the empty text, here or in an action inside. -/
def Action.ExpectsText : Action → Prop
  | expect _ value => value ≠ ""
  | loop _ body | when _ body => body.ExpectsText
  | _ => True

instance Action.decidableExpectsText : (a : Action) → Decidable a.ExpectsText
  | expect _ _ => inferInstanceAs (Decidable (_ ≠ _))
  | loop _ body | when _ body => body.decidableExpectsText
  | click _ | fill _ _ | wait _ | goto _ | press _ | scroll _ => .isTrue trivial

end PageWalk

namespace PageWalk.Command

set_option autoImplicit false

theorem innerField_written (s : List Char) : InnerField s (Field.written s) := by
  unfold Field.written
  split
  · exact .wrapped s
  · next plain =>
    rw [not_or] at plain
    exact .bare (Field.isBare_of_plain plain.1 plain.2)

theorem lastField_writtenLast (s : List Char) : LastField s (Field.writtenLast s) := by
  unfold Field.writtenLast
  split
  · exact .wrapped s
  · next plain => exact .bare (Bool.eq_false_iff.mpr plain)

theorem writtenLast_ne_nil {s : List Char} (h : s ≠ []) : Field.writtenLast s ≠ [] := by
  unfold Field.writtenLast
  split
  · exact List.cons_ne_nil _ _
  · exact h

theorem isBare_write (n : Nat) : Field.IsBare (Text.Numeral.write n) := by
  apply Field.isBare_of_plain <;> exact Text.Numeral.not_mem_write (by decide)

theorem lead_append {kind : Kind} {lead : List Char} (h : lead = kind.name.toList ++ [':'])
    (field rest : List Char) :
    lead ++ field ++ [':'] ++ rest = spell kind (field ++ ':' :: rest) := by
  rw [h, spell]
  simp only [List.append_assoc, List.cons_append, List.nil_append]

theorem chars_loop (count : UInt32) (body : Action) :
    (Action.loop count body).chars =
      spell .loop (Text.Numeral.write count.toNat ++ ':' :: body.chars) :=
  lead_append (by decide) _ _

theorem chars_when (selector : String) (body : Action) :
    (Action.when selector body).chars =
      spell .when (Field.written selector.toList ++ ':' :: body.chars) :=
  lead_append (by decide) _ _

/-- The canonical form is a spelling. -/
theorem spelling_chars {a : Action} (h : a.ExpectsText) : Spelling a a.chars := by
  induction a with
  | click selector => exact .click (lastField_writtenLast _)
  | fill selector value => exact .fill (innerField_written _) (lastField_writtenLast _)
  | wait ms =>
    exact .wait (Text.Numeral.denotes_trim_write _) (.bare (isBare_write _).2)
  | goto url => exact .goto (lastField_writtenLast _)
  | press key => exact .press (lastField_writtenLast _)
  | scroll goal =>
    cases goal with
    | top => exact .scroll (.bare (by decide))
    | bottom => exact .scroll (.bare (by decide))
    | element selector => exact .scroll (lastField_writtenLast selector.toList)
  | expect aspect value =>
    refine .expect (.bare ?_) (lastField_writtenLast _) (writtenLast_ne_nil (toList_ne_nil h))
    cases aspect <;> decide
  | loop count body ih =>
    rw [chars_loop]
    exact .loop (Text.Numeral.denotes_trim_write _) (.bare (isBare_write _)) (ih h)
  | when selector body ih =>
    rw [chars_when]
    exact .when (innerField_written _) (ih h)

theorem parse_command_of_expectsText {a : Action} (ok : a.IsAdmissible) (h : a.ExpectsText) :
    parse a.command = .ok a := by
  rw [parse_eq_ok_iff, Action.command, String.toList_ofList]
  exact asksFor_of_spelling (spelling_chars h) ok

theorem chars_ne_nil (a : Action) : a.chars ≠ [] := by
  cases a with
  | click | fill | wait | goto | press | expect => exact List.cons_ne_nil _ _
  | scroll goal => cases goal <;> exact List.cons_ne_nil _ _
  | loop count body =>
    rw [chars_loop]
    exact spell_ne_nil _ _
  | when selector body =>
    rw [chars_when]
    exact spell_ne_nil _ _

/-- With the empty text in an expectation, however deep inside, a value is reported missing. -/
theorem parseChars_of_not_expectsText {a : Action} (ok : a.IsAdmissible) (h : ¬ a.ExpectsText) :
    ∃ aspect : Aspect, parseChars a.chars =
      .error (.missingParameter .expect (aspect.name ++ ":")) := by
  induction a with
  | click | fill | wait | goto | press | scroll => exact absurd trivial h
  | expect aspect value =>
    obtain rfl : value = "" := Decidable.not_not.mp h
    refine ⟨aspect, parseChars_of_error ?_⟩
    cases aspect <;> rfl
  | loop count body ih =>
    obtain ⟨aspect, inside⟩ := ih ok h
    have value := Text.Numeral.denotes_trim_write count.toNat
    have reads := (InnerField.bare (isBare_write _)).reads_loop value (chars_ne_nil body)
    refine ⟨aspect, ?_⟩
    rw [chars_loop, parseChars_of_nested (readOne_of_reads reads), inside]
    rfl
  | when selector body ih =>
    obtain ⟨aspect, inside⟩ := ih ok.2 h
    have reads := (innerField_written selector.toList).reads_when ok.1 (chars_ne_nil body)
    refine ⟨aspect, ?_⟩
    rw [chars_when, parseChars_of_nested (readOne_of_reads reads), inside]
    rfl

theorem parse_command_eq_ok_iff {a : Action} (ok : a.IsAdmissible) :
    parse a.command = .ok a ↔ a.ExpectsText := by
  constructor
  · intro h
    apply Decidable.by_contra
    intro empty
    obtain ⟨aspect, refused⟩ := parseChars_of_not_expectsText ok empty
    rw [parse, Action.command, String.toList_ofList, refused] at h
    cases h
  · exact parse_command_of_expectsText ok

/-- Which actions have a canonical form that reads back as the action. -/
theorem parse_command_iff (a : Action) :
    parse a.command = .ok a ↔ a.IsAdmissible ∧ a.ExpectsText := by
  constructor
  · intro h
    have ok := exists_parse_eq_ok_iff.mp ⟨_, h⟩
    exact ⟨ok, (parse_command_eq_ok_iff ok).mp h⟩
  · rintro ⟨ok, h⟩
    exact (parse_command_eq_ok_iff ok).mpr h

/-- The canonical form of what a command asks for reads back just if no expectation in it looks for the
empty text. -/
theorem parse_canonical {command : String} {a : Action} (h : parse command = .ok a) :
    (parse a.command = .ok a ↔ a.ExpectsText) ∧
      (¬ a.ExpectsText → ∃ aspect : Aspect,
        parse a.command = .error (.missingParameter .expect (aspect.name ++ ":"))) := by
  have ok := exists_parse_eq_ok_iff.mp ⟨command, h⟩
  refine ⟨parse_command_eq_ok_iff ok, ?_⟩
  intro empty
  rw [parse, Action.command, String.toList_ofList]
  exact parseChars_of_not_expectsText ok empty

theorem parse_canonical_nested :
    let a : Action := .when "li:first-child" (.expect .url "\"x\"")
    parse "if:\"li:first-child\":expect:url:\"\\\"x\\\"\"" = .ok a ∧ parse a.command = .ok a := by
  intro a
  have spelling : Spelling a "if:\"li:first-child\":expect:url:\"\\\"x\\\"\"".toList :=
    .when (.wrapped _) (.expect (f := "url".toList) (.bare (by decide)) (.wrapped _)
      (List.cons_ne_nil _ _))
  have h := parse_eq_ok_iff.mpr (asksFor_of_spelling spelling (by decide))
  exact ⟨h, (parse_canonical h).1.mpr (by decide)⟩

/-- The empty text can be expected, but not in the canonical form. -/
theorem parse_empty_expectation :
    parse "expect:text:\"\"" = .ok (.expect .text "") ∧
      parse (Action.expect .text "").command = .error (.missingParameter .expect "text:") := by
  constructor
  · have spelling : Spelling (.expect .text "") "expect:text:\"\"".toList :=
      .expect (f := "text".toList) (.bare (by decide)) (.wrapped []) (List.cons_ne_nil _ _)
    exact parse_eq_ok_iff.mpr (asksFor_of_spelling spelling (by decide))
  · exact parseChars_of_error rfl

end PageWalk.Command
