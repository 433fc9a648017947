import PageWalk.Text.Basic

/-!
# Words in a text

A word stands in a text that is put together from parts exactly if it stands in one of the parts:
it must not hold the mark between the parts, and none of its occurrences may begin in a fixed lead.
-/

namespace PageWalk.Text

set_option autoImplicit false

variable {word lead : List Char} {mark : Char}

/-- No occurrence of the word can begin in the lead, whatever follows it. -/
def Misses (word : List Char) : List Char → Prop
  | [] => True
  | c :: lead => (¬ word <+: c :: lead ∧ ¬ c :: lead <+: word) ∧ Misses word lead

instance decidableMisses (word : List Char) : (lead : List Char) → Decidable (Misses word lead)
  | [] => .isTrue trivial
  | _ :: lead =>
    haveI := decidableMisses word lead
    inferInstanceAs (Decidable (_ ∧ _))

theorem infix_lead_append_iff (h : Misses word lead) (s : List Char) :
    word <:+: lead ++ s ↔ word <:+: s := by
  constructor
  · intro occurs
    induction lead with
    | nil => exact occurs
    | cons c lead ih =>
      rcases List.infix_cons_iff.mp occurs with here | later
      · -- the word and the lead begin one text, so one of them begins the other
        rcases List.prefix_or_prefix_of_prefix here (List.prefix_append (c :: lead) s) with
          short | long
        · exact absurd short h.1.1
        · exact absurd long h.1.2
      · exact ih h.2 later
  · intro occurs
    exact occurs.trans (List.suffix_append lead s).isInfix

theorem prefix_of_prefix_separated {s t : List Char} (h : mark ∉ word)
    (begins : word <+: s ++ mark :: t) : word <+: s := by
  have through : s ++ [mark] <+: s ++ mark :: t := ⟨t, by simp⟩
  rcases List.prefix_or_prefix_of_prefix begins through with short | long
  · rcases List.prefix_concat_iff.mp short with rfl | before
    · exact absurd (List.mem_append_right _ List.mem_cons_self) h
    · exact before
  · exact absurd (long.subset (List.mem_append_right _ List.mem_cons_self)) h

theorem infix_separated_iff (h : mark ∉ word) (some : word ≠ []) (s t : List Char) :
    word <:+: s ++ mark :: t ↔ word <:+: s ∨ word <:+: t := by
  constructor
  · intro occurs
    induction s with
    | nil =>
      rcases List.infix_cons_iff.mp occurs with here | later
      · exact absurd (List.prefix_nil.mp (prefix_of_prefix_separated h here)) some
      · exact .inr later
    | cons c s ih =>
      rcases List.infix_cons_iff.mp occurs with here | later
      · exact .inl (prefix_of_prefix_separated h here).isInfix
      · exact (ih later).imp_left fun before => before.trans (List.suffix_cons c s).isInfix
  · rintro (before | after)
    · exact before.trans (List.prefix_append s _).isInfix
    · exact after.trans ((List.suffix_cons mark t).trans (List.suffix_append s _)).isInfix

theorem infix_intercalate_iff (h : mark ∉ word) (some : word ≠ []) (parts : List (List Char)) :
    word <:+: List.intercalate [mark] parts ↔ ∃ part ∈ parts, word <:+: part := by
  induction parts with
  | nil => simp [List.intercalate, some]
  | cons part rest ih =>
    cases rest with
    | nil => simp
    | cons next rest =>
      rw [List.intercalate_cons_cons, List.append_assoc, List.singleton_append,
        infix_separated_iff h some, ih]
      simp only [List.mem_cons (b := part), exists_eq_or_imp]

end PageWalk.Text
