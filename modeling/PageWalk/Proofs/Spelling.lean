import PageWalk.Proofs.Grammar

/-!
# Spellings of an action

An action can be written in many ways: each parameter on its own is written as it stands or between
quotes, at every depth. `Spelling` relates an action to all of them. The actions that some command
asks for are the admissible ones, and every spelling of such an action reads back as the action.
-/

namespace PageWalk

set_option autoImplicit false

/-- The text that a scroll has for its parameter. -/
def Goal.word : Goal → String
  | top => "top"
  | bottom => "bottom"
  | element selector => selector

/-- A selector is not one of the words that mean an end of the page. -/
def Goal.IsAdmissible : Goal → Prop
  | element selector => selector ≠ "" ∧ selector ≠ "top" ∧ selector ≠ "bottom"
  | _ => True

instance : (goal : Goal) → Decidable goal.IsAdmissible
  | .top | .bottom => .isTrue trivial
  | .element _ => inferInstanceAs (Decidable (_ ∧ _))

/-- No selector, address or key is empty, here and in every action inside. -/
def Action.IsAdmissible : Action → Prop
  | click selector => selector ≠ ""
  | fill selector _ => selector ≠ ""
  | wait _ => True
  | goto url => url ≠ ""
  | press key => key ≠ ""
  | scroll goal => goal.IsAdmissible
  | expect _ _ => True
  | loop _ body => body.IsAdmissible
  | when selector body => selector ≠ "" ∧ body.IsAdmissible

instance Action.decidableIsAdmissible : (a : Action) → Decidable a.IsAdmissible
  | click _ | fill _ _ | goto _ | press _ => inferInstanceAs (Decidable (_ ≠ _))
  | wait _ | expect _ _ => .isTrue trivial
  | scroll goal => inferInstanceAs (Decidable goal.IsAdmissible)
  | loop _ body => body.decidableIsAdmissible
  | when _ body =>
    haveI := body.decidableIsAdmissible
    inferInstanceAs (Decidable (_ ∧ _))

theorem Goal.ofText_word {goal : Goal} (h : goal.IsAdmissible) : Goal.ofText goal.word = goal := by
  cases goal with
  | top => rfl
  | bottom => rfl
  | element selector => rw [word, ofText, if_neg h.2.1, if_neg h.2.2]

theorem Goal.word_ne_empty {goal : Goal} (h : goal.IsAdmissible) : goal.word ≠ "" := by
  cases goal with
  | top => decide
  | bottom => decide
  | element selector => exact h.1

theorem Goal.isAdmissible_ofText {text : String} (h : text ≠ "") :
    (Goal.ofText text).IsAdmissible := by
  unfold ofText
  split
  · trivial
  · next top =>
    split
    · trivial
    · next bottom => exact ⟨h, top, bottom⟩

end PageWalk

namespace PageWalk.Command

set_option autoImplicit false

/-- How a parameter may be written that more parameters follow. -/
inductive InnerField : List Char → List Char → Prop where
  | bare {s : List Char} : Field.IsBare s → InnerField s s
  | wrapped (s : List Char) : InnerField s (Field.quote s)

/-- How the last parameter may be written. -/
inductive LastField : List Char → List Char → Prop where
  | bare {s : List Char} : Text.isQuoted s = false → LastField s s
  | wrapped (s : List Char) : LastField s (Field.quote s)

/--
The spellings of an action. A number is any numeral of it, with blanks around it or not; an
expectation of the empty text cannot be written bare.
-/
inductive Spelling : Action → List Char → Prop where
  | click {selector : String} {t : List Char} :
    LastField selector.toList t → Spelling (.click selector) (spell .click t)
  | fill {selector value : String} {f t : List Char} :
    InnerField selector.toList f → LastField value.toList t →
    Spelling (.fill selector value) (spell .fill (f ++ ':' :: t))
  | wait {ms : UInt64} {numeral t : List Char} :
    Text.Numeral.Denotes (Text.trim numeral) ms.toNat → LastField numeral t →
    Spelling (.wait ms) (spell .wait t)
  | goto {url : String} {t : List Char} :
    LastField url.toList t → Spelling (.goto url) (spell .goto t)
  | press {key : String} {t : List Char} :
    LastField key.toList t → Spelling (.press key) (spell .press t)
  | scroll {goal : Goal} {t : List Char} :
    LastField goal.word.toList t → Spelling (.scroll goal) (spell .scroll t)
  | expect {aspect : Aspect} {value : String} {f t : List Char} :
    InnerField aspect.name.toList f → LastField value.toList t → t ≠ [] →
    Spelling (.expect aspect value) (spell .expect (f ++ ':' :: t))
  | loop {count : UInt32} {body : Action} {numeral f t : List Char} :
    Text.Numeral.Denotes (Text.trim numeral) count.toNat → InnerField numeral f →
    Spelling body t → Spelling (.loop count body) (spell .loop (f ++ ':' :: t))
  | when {selector : String} {body : Action} {f t : List Char} :
    InnerField selector.toList f → Spelling body t →
    Spelling (.when selector body) (spell .when (f ++ ':' :: t))

section Fields

variable {s f t : List Char}

theorem LastField.unquote_eq (h : LastField s t) : Field.unquote t = s := by
  cases h with
  | bare plain => exact Field.unquote_of_not_isQuoted plain
  | wrapped => exact Field.unquote_quote s

theorem InnerField.unquote_eq (h : InnerField s f) : Field.unquote f = s := by
  cases h with
  | bare bare => exact Field.unquote_of_not_isQuoted bare.2
  | wrapped => exact Field.unquote_quote s

theorem InnerField.split_append (h : InnerField s f) (rest : List Char) :
    Field.split (f ++ ':' :: rest) = (f, some rest) := by
  apply Field.split_eq_some_iff.mpr
  refine ⟨rfl, ?_⟩
  cases h with
  | bare bare => exact bare.1
  | wrapped => exact Field.whole_quote s

theorem InnerField.reads_loop {count : UInt32} (h : InnerField s f)
    (value : Text.Numeral.Denotes (Text.trim s) count.toNat) (some : t ≠ []) :
    Reads .loop (f ++ ':' :: t) (.nested (.loop count) t) := by
  refine .loop (h.split_append t) ?_ some
  rwa [Counts, h.unquote_eq]

theorem InnerField.reads_when {selector : String} (h : InnerField selector.toList f)
    (named : selector ≠ "") (some : t ≠ []) :
    Reads .when (f ++ ':' :: t) (.nested (.when selector) t) :=
  .when (h.split_append t) h.unquote_eq named some

end Fields

theorem spell_ne_nil (kind : Kind) (params : List Char) : spell kind params ≠ [] := by
  simp [spell]

theorem Spelling.ne_nil {a : Action} {s : List Char} (h : Spelling a s) : s ≠ [] := by
  cases h <;> exact spell_ne_nil _ _

theorem exists_spelling (a : Action) : ∃ s, Spelling a s := by
  induction a with
  | click => exact ⟨_, .click (.wrapped _)⟩
  | fill => exact ⟨_, .fill (.wrapped _) (.wrapped _)⟩
  | wait ms => exact ⟨_, .wait (Text.Numeral.denotes_trim_write _) (.wrapped _)⟩
  | goto => exact ⟨_, .goto (.wrapped _)⟩
  | press => exact ⟨_, .press (.wrapped _)⟩
  | scroll => exact ⟨_, .scroll (.wrapped _)⟩
  | expect => exact ⟨_, .expect (.wrapped _) (.wrapped _) (List.cons_ne_nil _ _)⟩
  | loop _ _ ih =>
    obtain ⟨t, inner⟩ := ih
    exact ⟨_, .loop (Text.Numeral.denotes_trim_write _) (.wrapped _) inner⟩
  | when _ _ ih =>
    obtain ⟨t, inner⟩ := ih
    exact ⟨_, .when (.wrapped _) inner⟩

/-- Every spelling of an admissible action says that action. -/
theorem asksFor_of_spelling {a : Action} {s : List Char} (h : Spelling a s) (ok : a.IsAdmissible) :
    AsksFor s a := by
  induction h with
  | click text => exact .leaf (.single .click text.unquote_eq ok)
  | fill field text =>
    exact .leaf (.fill (field.split_append _) field.unquote_eq ok text.unquote_eq)
  | wait value text =>
    refine .leaf (.wait ?_)
    rwa [Counts, text.unquote_eq]
  | goto text => exact .leaf (.single .goto text.unquote_eq ok)
  | press text => exact .leaf (.single .press text.unquote_eq ok)
  | scroll text =>
    have reads := Reads.single .scroll text.unquote_eq (Goal.word_ne_empty ok)
    rw [Goal.ofText_word ok] at reads
    exact .leaf reads
  | expect field text some =>
    exact .leaf (.expect (field.split_append _) field.unquote_eq some text.unquote_eq)
  | loop value field inner ih => exact .nested (field.reads_loop value inner.ne_nil) (ih ok)
  | when field inner ih => exact .nested (field.reads_when ok.1 inner.ne_nil) (ih ok.2)

theorem isAdmissible_of_asksFor {s : List Char} {a : Action} (h : AsksFor s a) : a.IsAdmissible := by
  induction h with
  | leaf reads =>
    cases reads with
    | single one _ some =>
      cases one with
      | click | goto | press => exact some
      | scroll => exact Goal.isAdmissible_ofText some
    | fill _ _ some _ => exact some
    | wait | expect => trivial
  | nested reads _ ih =>
    cases reads with
    | loop => exact ih
    | when _ _ some _ => exact ⟨some, ih⟩

theorem exists_parse_eq_ok_iff {a : Action} :
    (∃ command, parse command = .ok a) ↔ a.IsAdmissible := by
  constructor
  · rintro ⟨command, h⟩
    exact isAdmissible_of_asksFor (parse_eq_ok_iff.mp h)
  · intro ok
    obtain ⟨s, spelling⟩ := exists_spelling a
    refine ⟨String.ofList s, parse_eq_ok_iff.mpr ?_⟩
    rw [String.toList_ofList]
    exact asksFor_of_spelling spelling ok

/-- The admissible actions are those that commands ask for, in any spelling. The fields that may stand bare are
all that could. -/
theorem parse_spelling (a : Action) :
    ((∃ command, parse command = .ok a) ↔ a.IsAdmissible) ∧
      (a.IsAdmissible → ∀ s, Spelling a s → parse (String.ofList s) = .ok a) ∧
      ∀ t, (Field.IsBare t ↔
          (∀ rest, Field.split (t ++ ':' :: rest) = (t, some rest)) ∧ Field.unquote t = t) ∧
        (Text.isQuoted t = false ↔ Field.unquote t = t) := by
  refine ⟨exists_parse_eq_ok_iff, ?_, fun t => ⟨Field.isBare_iff, Field.unquote_eq_self_iff.symm⟩⟩
  intro ok s spelling
  rw [parse_eq_ok_iff, String.toList_ofList]
  exact asksFor_of_spelling spelling ok

theorem parse_spelling_nested :
    let a : Action := .loop 2 (.when "input[name=\"a:b\"]" (.fill "div:x" "\"v\""))
    let s := "loop:\" +02\":if:input[name=\"a:b\"]:fill:\"div:x\":\"\\\"v\\\"\"".toList
    a.IsAdmissible ∧ Spelling a s ∧ parse (String.ofList s) = .ok a := by
  intro a s
  have two : Text.Numeral.Denotes (Text.trim " +02".toList) (2 : UInt32).toNat :=
    Text.Numeral.value?_eq_some_iff.mp (by decide)
  have spelling : Spelling a s :=
    .loop two (.wrapped _) (.when (.bare (by decide)) (.fill (.wrapped _) (.wrapped _)))
  have ok : a.IsAdmissible := by decide
  exact ⟨ok, spelling, (parse_spelling a).2.1 ok s spelling⟩

end PageWalk.Command
