import PageWalk.Command.Field

/-!
# Fields read back

A field ends at the first colon outside quotes. `Whole` says which texts are such a field, and
`split_eq_some_iff` that `split` finds exactly these. A text between quotes is whole whatever it
holds, and `unquote_quote` reads it back: the literal reader does so unless the text holds a control
character, and then dropping the backslashes does.
-/

namespace PageWalk.Field

set_option autoImplicit false

/-- A scan from this state meets no colon outside quotes. -/
def Scan.Passes : Scan → List Char → Prop
  | _, [] => True
  | state, c :: rest => ¬ (state = .outside ∧ c = ':') ∧ (state.step c).Passes rest

instance Scan.decidablePasses : (state : Scan) → (s : List Char) → Decidable (state.Passes s)
  | _, [] => .isTrue trivial
  | state, c :: rest =>
    haveI := decidablePasses (state.step c) rest
    inferInstanceAs (Decidable (_ ∧ _))

/-- A scan from the left meets no colon outside quotes and ends outside quotes. -/
def Whole (s : List Char) : Prop :=
  Scan.outside.Passes s ∧ Scan.outside.after s = .outside

instance (s : List Char) : Decidable (Whole s) :=
  inferInstanceAs (Decidable (_ ∧ _))

section Splitting

variable {state : Scan} {s t field rest : List Char}

@[simp] theorem Scan.after_nil (state : Scan) : state.after [] = state := rfl

@[simp] theorem Scan.after_cons (state : Scan) (c : Char) (s : List Char) :
    state.after (c :: s) = (state.step c).after s := rfl

theorem Scan.after_append (state : Scan) (s t : List Char) :
    state.after (s ++ t) = (state.after s).after t :=
  List.foldl_append

theorem Scan.passes_append :
    state.Passes (s ++ t) ↔ state.Passes s ∧ (state.after s).Passes t := by
  induction s generalizing state with
  | nil => simp [Passes]
  | cons c s ih => simp only [List.cons_append, Passes, ih, after_cons, and_assoc]

/-- Nothing is split off exactly where every colon is inside quotes. -/
theorem splitFrom_eq_none_iff : splitFrom state s = (s, none) ↔ state.Passes s := by
  induction s generalizing state with
  | nil => simp [splitFrom, Scan.Passes]
  | cons c s ih =>
    rw [splitFrom, Scan.Passes, ← ih]
    split
    · next colon => simp [colon]
    · next plain => simp [plain, Prod.ext_iff]

theorem splitFrom_append (passes : state.Passes field) (ends : state.after field = .outside)
    (rest : List Char) : splitFrom state (field ++ ':' :: rest) = (field, some rest) := by
  induction field generalizing state with
  | nil =>
    rw [Scan.after_nil] at ends
    simp [splitFrom, ends]
  | cons c field ih =>
    obtain ⟨plain, passes⟩ := passes
    rw [List.cons_append, splitFrom, if_neg plain, ih passes ends]

theorem passes_of_splitFrom (h : splitFrom state s = (field, some rest)) :
    state.Passes field ∧ state.after field = .outside := by
  induction s generalizing state field with
  | nil => simp [splitFrom] at h
  | cons c s ih =>
    rw [splitFrom] at h
    split at h
    · next colon =>
      obtain ⟨rfl, -⟩ := Prod.mk.inj h
      exact ⟨trivial, colon.1⟩
    · next plain =>
      obtain ⟨rfl, more⟩ := Prod.mk.inj h
      obtain ⟨passes, ends⟩ := ih (Prod.ext rfl more)
      exact ⟨⟨plain, passes⟩, ends⟩

theorem split_eq_some_iff :
    split s = (field, some rest) ↔ s = field ++ ':' :: rest ∧ Whole field := by
  constructor
  · intro h
    exact ⟨append_of_split h, passes_of_splitFrom h⟩
  · rintro ⟨rfl, passes, ends⟩
    exact splitFrom_append passes ends rest

end Splitting

section Quoting

/-- The marks that are protected between quotes. -/
abbrev marks : List Char := ['"', '\\']

theorem mem_marks {c : Char} : c ∈ marks ↔ c = '"' ∨ c = '\\' := by
  simp

theorem read_escaped_mark {c : Char} (hc : c ∈ marks) (rest : List Char) :
    Json.Quoted.read ('\\' :: c :: rest) =
      (Json.Quoted.read rest).map fun (text, after) => (c :: text, after) := by
  have escape : Json.Quoted.readEscape (c :: rest) = some (c, rest) := by
    rcases mem_marks.mp hc with rfl | rfl <;> rfl
  rw [Json.Quoted.read]
  split
  · next none => rw [escape] at none; cases none
  · next some =>
    rw [escape] at some
    cases some
    rfl

theorem read_unmarked {c : Char} (hc : c ∉ marks) (rest : List Char) :
    Json.Quoted.read (c :: rest) =
      if c.toNat < 0x20 then none
      else (Json.Quoted.read rest).map fun (text, after) => (c :: text, after) := by
  rw [mem_marks, not_or] at hc
  rw [Json.Quoted.read]
  · exact fun h => hc.1 h
  · exact fun h => hc.2 h

/-- The literal reader takes a protected text back, unless it holds a control character. -/
theorem read_backslashed (s rest : List Char) :
    Json.Quoted.read (Text.backslashed marks s ++ '"' :: rest) =
      if s.any (·.toNat < 0x20) then none else some (s, rest) := by
  induction s with
  | nil => simp [Json.Quoted.read]
  | cons c s ih =>
    by_cases hc : c ∈ marks
    · have visible : ¬ c.toNat < 0x20 := by
        rcases mem_marks.mp hc with rfl | rfl <;> decide
      rw [Text.backslashed_of_mem hc, List.cons_append, List.cons_append, read_escaped_mark hc, ih]
      cases control : s.any (·.toNat < 0x20) <;> simp [control, visible]
    · rw [Text.backslashed_of_not_mem hc, List.cons_append, read_unmarked hc, ih]
      by_cases here : c.toNat < 0x20
      · simp [here]
      · cases control : s.any (·.toNat < 0x20) <;> simp [control, here]

theorem unprotect_backslashed (s : List Char) : unprotect (Text.backslashed marks s) = s := by
  induction s with
  | nil => rfl
  | cons c s ih =>
    by_cases hc : c ∈ marks
    · rw [Text.backslashed_of_mem hc]
      exact congrArg (c :: ·) ih
    · have backslash : c ≠ '\\' := by
        rintro rfl
        exact hc (by decide)
      rw [Text.backslashed_of_not_mem hc, unprotect, ih]
      intro _ _ h
      exact absurd h backslash

theorem isQuoted_iff {s : List Char} :
    Text.isQuoted s = true ↔ ∃ inner, s = '"' :: (inner ++ ['"']) := by
  constructor
  · intro h
    simp only [Text.isQuoted, Bool.and_eq_true, decide_eq_true_eq, beq_iff_eq] at h
    obtain ⟨⟨long, first⟩, last⟩ := h
    cases s with
    | nil => simp at first
    | cons c rest =>
      obtain rfl : c = '"' := by simpa using first
      have more : rest ≠ [] := by
        rintro rfl
        simp at long
      rw [List.getLast?_cons_of_ne_nil more] at last
      obtain ⟨inner, rfl⟩ := List.getLast?_eq_some_iff.mp last
      exact ⟨inner, rfl⟩
  · rintro ⟨inner, rfl⟩
    simp [Text.isQuoted, List.getLast?_cons]

theorem isQuoted_quote (s : List Char) : Text.isQuoted (quote s) = true :=
  isQuoted_iff.mpr ⟨_, rfl⟩

theorem isQuoted_of_not_mem {s : List Char} (h : '"' ∉ s) : Text.isQuoted s = false := by
  rw [Bool.eq_false_iff]
  intro quoted
  obtain ⟨inner, rfl⟩ := isQuoted_iff.mp quoted
  exact h List.mem_cons_self

theorem unquote_of_not_isQuoted {s : List Char} (h : Text.isQuoted s = false) : unquote s = s := by
  simp [unquote, h]

theorem unquote_quote (s : List Char) : unquote (quote s) = s := by
  rw [unquote, if_pos (isQuoted_quote s), quote, List.tail_cons, read_backslashed]
  cases s.any (·.toNat < 0x20) with
  | true =>
    rw [if_pos rfl, List.dropLast_concat]
    exact unprotect_backslashed s
  | false => rw [if_neg Bool.false_ne_true]

theorem length_text_of_read {s text rest : List Char}
    (h : Json.Quoted.read s = some (text, rest)) : text.length < s.length := by
  fun_induction Json.Quoted.read s generalizing text rest with
  | case1 => simp at h
  | case2 =>
    obtain ⟨rfl, -⟩ := Prod.mk.inj (Option.some.inj h)
    simp
  | case3 => simp at h
  | case4 r c r' escape ih =>
    obtain ⟨⟨t, a⟩, more, same⟩ := Option.map_eq_some_iff.mp h
    obtain ⟨rfl, -⟩ := Prod.mk.inj same
    have shorter := Json.Quoted.length_of_readEscape escape
    have := ih more
    simp only [List.length_cons]
    omega
  | case5 => simp at h
  | case6 c r _ _ _ ih =>
    obtain ⟨⟨t, a⟩, more, same⟩ := Option.map_eq_some_iff.mp h
    obtain ⟨rfl, -⟩ := Prod.mk.inj same
    have := ih more
    simp only [List.length_cons]
    omega

theorem length_unprotect_le (s : List Char) : (unprotect s).length ≤ s.length := by
  fun_induction unprotect s with
  | case1 c rest ih =>
    simp only [List.length_cons]
    omega
  | case2 c rest _ ih =>
    simp only [List.length_cons]
    omega
  | case3 => exact Nat.le_refl _

/-- What a quoted text says is shorter than the text. -/
theorem length_unquote_lt {s : List Char} (h : Text.isQuoted s = true) :
    (unquote s).length < s.length := by
  obtain ⟨inner, rfl⟩ := isQuoted_iff.mp h
  rw [unquote, if_pos h, List.tail_cons, List.dropLast_concat]
  split
  · next text literal =>
    have := length_text_of_read literal
    rw [List.length_cons]
    omega
  · have := length_unprotect_le inner
    simp only [List.length_cons, List.length_append]
    omega

theorem unquote_eq_self_iff {s : List Char} : unquote s = s ↔ Text.isQuoted s = false := by
  constructor
  · intro h
    rw [Bool.eq_false_iff]
    intro quoted
    have shorter := length_unquote_lt quoted
    rw [h] at shorter
    omega
  · exact unquote_of_not_isQuoted

end Quoting

section Written

variable {s : List Char}

/-- Inside quotes, a protected text never ends them. -/
theorem scan_backslashed (s : List Char) :
    Scan.inside.Passes (Text.backslashed marks s) ∧
      Scan.inside.after (Text.backslashed marks s) = .inside := by
  induction s with
  | nil => exact ⟨trivial, rfl⟩
  | cons c s ih =>
    by_cases hc : c ∈ marks
    · rw [Text.backslashed_of_mem hc]
      exact ⟨⟨by simp, by simp [Scan.step], ih.1⟩, ih.2⟩
    · have stays : Scan.inside.step c = .inside := by
        rw [mem_marks, not_or] at hc
        simp [Scan.step, hc]
      rw [Text.backslashed_of_not_mem hc, Scan.Passes, Scan.after_cons, stays]
      exact ⟨⟨by simp, ih.1⟩, ih.2⟩

theorem whole_quote (s : List Char) : Whole (quote s) := by
  obtain ⟨passes, ends⟩ := scan_backslashed s
  have opens : Scan.outside.step '"' = .inside := rfl
  constructor
  · refine ⟨by simp, ?_⟩
    rw [opens, Scan.passes_append]
    exact ⟨passes, by simp [Scan.Passes, ends]⟩
  · rw [quote, Scan.after_cons, opens, Scan.after_append, ends]
    rfl

theorem whole_of_plain (colon : ':' ∉ s) (quote : '"' ∉ s) : Whole s := by
  induction s with
  | nil => exact ⟨trivial, rfl⟩
  | cons c s ih =>
    rw [List.mem_cons, not_or] at colon quote
    have stays : Scan.outside.step c = .outside := by
      simp [Scan.step, Ne.symm quote.1]
    obtain ⟨passes, ends⟩ := ih colon.2 quote.2
    refine ⟨⟨fun h => colon.1 h.2.symm, ?_⟩, ?_⟩
    · rwa [stays]
    · rwa [Scan.after_cons, stays]

/-- A text that more fields may follow as it stands. -/
def IsBare (s : List Char) : Prop :=
  Whole s ∧ Text.isQuoted s = false

instance (s : List Char) : Decidable (IsBare s) :=
  inferInstanceAs (Decidable (_ ∧ _))

theorem isBare_of_plain (colon : ':' ∉ s) (quote : '"' ∉ s) : IsBare s :=
  ⟨whole_of_plain colon quote, isQuoted_of_not_mem quote⟩

/-- No weaker condition would do: a text that is split off and read as it stands is bare. -/
theorem isBare_iff :
    IsBare s ↔ (∀ rest, split (s ++ ':' :: rest) = (s, some rest)) ∧ unquote s = s := by
  rw [IsBare, unquote_eq_self_iff]
  refine and_congr_left fun _ => ⟨fun whole rest => ?_, fun h => ?_⟩
  · exact split_eq_some_iff.mpr ⟨rfl, whole⟩
  · exact (split_eq_some_iff.mp (h [])).2

end Written

end PageWalk.Field
