import PageWalk.Proofs.Field

/-!
# The first colon outside quotes

`split` takes a field off at the first colon that no quotes hide. Here quotes are told by a grammar, in
which each has its partner, and colons by their place in the text. Main statement: what is split off is
closed and hides all its colons, so it is split off in front of any rest; where nothing is, all are hidden.
-/

namespace PageWalk.Field

set_option autoImplicit false

/-- What stands between two partners: a backslash takes the next character with it. -/
inductive Sheltered : List Char → Prop where
  | nil : Sheltered []
  | plain {c : Char} {s : List Char} (unmarked : c ∉ marks) (more : Sheltered s) : Sheltered (c :: s)
  | shielded (c : Char) {s : List Char} (more : Sheltered s) : Sheltered ('\\' :: c :: s)

/-- Each quote has its partner. -/
inductive Closed : List Char → Prop where
  | nil : Closed []
  | plain {c : Char} {s : List Char} (other : c ≠ '"') (more : Closed s) : Closed (c :: s)
  | quoted {inner s : List Char} (within : Sheltered inner) (more : Closed s) :
    Closed ('"' :: (inner ++ '"' :: s))

/-- No colon stands outside quotes. -/
def HidesColons (s : List Char) : Prop :=
  ∀ before after, s = before ++ ':' :: after → Scan.outside.after before ≠ .outside

/-- A field that is split off in front of any colon, and from which nothing is split off. -/
structure EndsAtColon (field : List Char) : Prop where
  closed : Scan.outside.after field = .outside
  alone : split field = (field, none)
  before_colon : ∀ rest, split (field ++ ':' :: rest) = (field, some rest)

section Partners

/-- What follows an opening quote: its partner, and then a text in which each quote has one. -/
def Closing (s : List Char) : Prop :=
  ∃ inner rest, s = inner ++ '"' :: rest ∧ Sheltered inner ∧ Closed rest

/-- A text after which a scan from this state is outside quotes. -/
def Scan.Closes : Scan → List Char → Prop
  | outside, s => Closed s
  | inside, s => Closing s
  | shielded, s => ∃ c rest, s = c :: rest ∧ Closing rest

variable {state : Scan} {s : List Char}

theorem Scan.closes_of_after (h : state.after s = .outside) : state.Closes s := by
  -- the state says which part of the grammar is still open in front of the text
  induction s generalizing state with
  | nil =>
    rw [after_nil] at h
    subst h
    exact .nil
  | cons c s ih =>
    have closes := ih h
    cases state with
    | outside =>
      by_cases opens : c = '"'
      · subst opens
        obtain ⟨inner, rest, rfl, within, more⟩ := closes
        exact .quoted within more
      · rw [step, if_neg opens] at closes
        exact .plain opens closes
    | inside =>
      by_cases shields : c = '\\'
      · subst shields
        obtain ⟨d, _, rfl, inner, rest, rfl, within, more⟩ := closes
        exact ⟨'\\' :: d :: inner, rest, rfl, .shielded d within, more⟩
      by_cases ends : c = '"'
      · subst ends
        exact ⟨[], s, rfl, .nil, closes⟩
      · rw [step, if_neg shields, if_neg ends] at closes
        obtain ⟨inner, rest, rfl, within, more⟩ := closes
        have unmarked : c ∉ marks := by simp [ends, shields]
        exact ⟨c :: inner, rest, rfl, .plain unmarked within, more⟩
    | shielded => exact ⟨c, s, rfl, closes⟩

theorem Sheltered.after_eq (h : Sheltered s) : Scan.inside.after s = .inside := by
  induction h with
  | nil => rfl
  | plain unmarked _ ih =>
    rw [mem_marks, not_or] at unmarked
    rw [Scan.after_cons, Scan.step, if_neg unmarked.2, if_neg unmarked.1]
    exact ih
  | shielded _ _ ih => exact ih

theorem Closed.after_eq (h : Closed s) : Scan.outside.after s = .outside := by
  induction h with
  | nil => rfl
  | plain other _ ih =>
    rw [Scan.after_cons, Scan.step, if_neg other]
    exact ih
  | @quoted inner s within _ ih =>
    have opens : Scan.outside.step '"' = .inside := rfl
    have ends : Scan.inside.step '"' = .outside := rfl
    rw [Scan.after_cons, opens, Scan.after_append, within.after_eq, Scan.after_cons, ends]
    exact ih

theorem after_eq_outside_iff : Scan.outside.after s = .outside ↔ Closed s :=
  ⟨Scan.closes_of_after, Closed.after_eq⟩

end Partners

section Colons

variable {state : Scan} {s field : List Char}

theorem Scan.passes_iff :
    state.Passes s ↔ ∀ before after, s = before ++ ':' :: after → state.after before ≠ .outside := by
  constructor
  · rintro passes before after rfl outside
    have here := (passes_append.mp passes).2
    rw [outside] at here
    exact here.1 ⟨rfl, rfl⟩
  · intro hidden
    induction s generalizing state with
    | nil => trivial
    | cons c s ih =>
      refine ⟨?_, ih fun before after whole => ?_⟩
      · rintro ⟨outside, rfl⟩
        exact hidden [] s rfl outside
      · subst whole
        exact hidden (c :: before) after rfl

theorem split_eq_self_iff : split s = (s, none) ↔ HidesColons s :=
  splitFrom_eq_none_iff.trans Scan.passes_iff

theorem eq_of_splitFrom_none (h : splitFrom state s = (field, none)) : field = s := by
  induction s generalizing state field with
  | nil => exact (Prod.mk.inj h).1.symm
  | cons c s ih =>
    rw [splitFrom] at h
    split at h
    · cases h
    · obtain ⟨rfl, more⟩ := Prod.mk.inj h
      exact congrArg (c :: ·) (ih (Prod.ext rfl more))

theorem split_eq_none_iff : split s = (field, none) ↔ field = s ∧ HidesColons s := by
  constructor
  · intro h
    obtain rfl := eq_of_splitFrom_none h
    exact ⟨rfl, split_eq_self_iff.mp h⟩
  · rintro ⟨rfl, hidden⟩
    exact split_eq_self_iff.mpr hidden

theorem endsAtColon_iff_whole : EndsAtColon field ↔ Whole field := by
  constructor
  · intro h
    exact (split_eq_some_iff.mp (h.before_colon [])).2
  · intro whole
    exact ⟨whole.2, splitFrom_eq_none_iff.mpr whole.1, fun rest => split_eq_some_iff.mpr ⟨rfl, whole⟩⟩

theorem endsAtColon_iff : EndsAtColon field ↔ Closed field ∧ HidesColons field := by
  rw [endsAtColon_iff_whole, Whole, Scan.passes_iff, after_eq_outside_iff, and_comm]
  exact Iff.rfl

end Colons

/-- A text is split at its first colon outside quotes, behind a field that is closed and hides its own
colons. -/
theorem split_first_colon (s : List Char) :
    (∀ field rest, split s = (field, some rest) ↔ s = field ++ ':' :: rest ∧ EndsAtColon field) ∧
      (∀ field, split s = (field, none) ↔ field = s ∧ HidesColons s) ∧
      (EndsAtColon s ↔ Closed s ∧ HidesColons s) ∧
      (Scan.outside.after s = .outside ↔ Closed s) ∧
      EndsAtColon (quote s) := by
  refine ⟨fun field rest => ?_, fun field => split_eq_none_iff, endsAtColon_iff,
    after_eq_outside_iff, endsAtColon_iff_whole.mpr (whole_quote s)⟩
  rw [endsAtColon_iff_whole]
  exact split_eq_some_iff

/-- Quotes in the middle of a field hide a colon, and so do quotes that are never closed. -/
example : split "a\"b:c\"d:e".toList = ("a\"b:c\"d".toList, some "e".toList) ∧
    split "\"a\\\":b:c".toList = ("\"a\\\":b:c".toList, none) := by
  decide

end PageWalk.Field
