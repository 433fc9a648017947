import PageWalk.Proofs.Grammar

/-!
# What an error of a command names

An error names a text between fixed words. The text is a part of the command, however deep inside loops
and conditions, as it stands or as it reads without its quotes.
-/

namespace PageWalk

set_option autoImplicit false

namespace CommandError

/-- The text that an error names. -/
def told : CommandError → String
  | missingDelimiter command => command
  | unknownType word => word
  | missingParameter _ params => params
  | invalidNumber _ value => value
  | unknownExpectation word => word

def before : CommandError → String
  | missingDelimiter _ => "Invalid action format: "
  | unknownType _ => "Unknown action type: "
  | missingParameter kind _ => "Invalid " ++ kind.name ++ " params: "
  | invalidNumber kind _ => "Invalid number for " ++ kind.name ++ ": "
  | unknownExpectation _ => "Unknown expectation type: "

def after : CommandError → String
  | missingParameter kind _ => ". Format: " ++ kind.format
  | unknownExpectation _ => ". Expected one of: text, selector, url"
  | _ => ""

theorem message_eq (e : CommandError) : e.message = e.before ++ e.told ++ e.after := by
  cases e with
  | missingDelimiter text | unknownType text | invalidNumber kind text =>
    exact String.append_empty.symm
  | missingParameter kind params =>
    change "Invalid " ++ kind.name ++ " params: " ++ params ++ ". Format: " ++ kind.format =
      "Invalid " ++ kind.name ++ " params: " ++ params ++ (". Format: " ++ kind.format)
    exact String.append_assoc
  | unknownExpectation => rfl

theorem ascii_before (e : CommandError) : e.before.toList.all (·.toNat < 128) := by
  cases e with
  | missingDelimiter | unknownType | unknownExpectation =>
    dsimp only [before]
    decide
  | missingParameter kind | invalidNumber kind =>
    dsimp only [before]
    cases kind <;> decide

theorem ascii_after (e : CommandError) : e.after.toList.all (·.toNat < 128) := by
  cases e with
  | missingDelimiter | unknownType | invalidNumber | unknownExpectation =>
    dsimp only [after]
    decide
  | missingParameter kind =>
    dsimp only [after]
    cases kind <;> decide

/-- Beyond ASCII, a message has the characters of the text that it names. -/
theorem mem_message_iff {e : CommandError} {c : Char} (h : 128 ≤ c.toNat) :
    c ∈ e.message.toList ↔ c ∈ e.told.toList := by
  have beyond {s : String} (ascii : s.toList.all (·.toNat < 128)) : c ∉ s.toList := fun there =>
    Nat.not_lt.mpr h (of_decide_eq_true (List.all_eq_true.mp ascii c there))
  rw [message_eq, String.toList_append, String.toList_append, List.mem_append, List.mem_append]
  simp only [beyond e.ascii_before, beyond e.ascii_after, false_or, or_false]

end CommandError

namespace Field

variable {s text rest : List Char} {c : Char}

theorem mem_of_mem_read (h : Json.Quoted.read s = some (text, rest)) (plain : '\\' ∉ s)
    (there : c ∈ text) : c ∈ s := by
  fun_induction Json.Quoted.read s generalizing text rest with
  | case1 => cases h
  | case2 =>
    obtain ⟨rfl, -⟩ := Prod.mk.inj (Option.some.inj h)
    cases there
  | case3 => cases h
  | case4 => exact absurd List.mem_cons_self plain
  | case5 => cases h
  | case6 d r _ _ _ ih =>
    obtain ⟨⟨t, a⟩, more, same⟩ := Option.map_eq_some_iff.mp h
    obtain ⟨rfl, -⟩ := Prod.mk.inj same
    rcases List.mem_cons.mp there with rfl | later
    · exact List.mem_cons_self
    · exact List.mem_cons_of_mem _ (ih more (fun mark => plain (List.mem_cons_of_mem _ mark)) later)

theorem mem_of_mem_unprotect (there : c ∈ unprotect s) : c ∈ s := by
  fun_induction unprotect s with
  | case1 d rest ih =>
    rcases List.mem_cons.mp there with rfl | later
    · exact List.mem_cons_of_mem _ List.mem_cons_self
    · exact List.mem_cons_of_mem _ (List.mem_cons_of_mem _ (ih later))
  | case2 d rest _ ih =>
    rcases List.mem_cons.mp there with rfl | later
    · exact List.mem_cons_self
    · exact List.mem_cons_of_mem _ (ih later)
  | case3 => exact there

/-- Without a backslash, what a field says is in the field. -/
theorem mem_of_mem_unquote (plain : '\\' ∉ s) (there : c ∈ unquote s) : c ∈ s := by
  unfold unquote at there
  split at there
  · split at there
    · next literal =>
      have inside : '\\' ∉ s.tail := fun mark => plain (List.mem_of_mem_tail mark)
      exact List.mem_of_mem_tail (mem_of_mem_read literal inside there)
    · exact List.mem_of_mem_tail (List.dropLast_subset _ (mem_of_mem_unprotect there))
  · exact there

end Field

namespace Command

/-- The text that an error names is a part of a command, or what that part says. -/
def NamesPart (s : List Char) (e : CommandError) : Prop :=
  ∃ part, part <:+: s ∧ (e.told.toList = part ∨ e.told.toList = Field.unquote part)

section

variable {s t params word : List Char} {kind : Kind} {limit : Nat} {e : CommandError}

theorem NamesPart.within (h : NamesPart s e) (inside : s <:+: t) : NamesPart t e := by
  obtain ⟨part, here, told⟩ := h
  exact ⟨part, here.trans inside, told⟩

theorem namesPart_missing : NamesPart params (.missingParameter kind (String.ofList params)) :=
  ⟨params, List.infix_refl _, .inl String.toList_ofList⟩

theorem infix_of_split {rest : List Char} {field : List Char}
    (h : Field.split params = (field, some rest)) : field <:+: params := by
  rw [Field.append_of_split h]
  exact (List.prefix_append field _).isInfix

theorem Reads.suffix {w : Wrapper} {inner : List Char} (h : Reads kind params (.nested w inner)) :
    inner <:+ params := by
  have behind {field : List Char} (cut : Field.split params = (field, some inner)) :
      inner <:+ params := by
    rw [Field.append_of_split cut, ← List.singleton_append, ← List.append_assoc]
    exact List.suffix_append _ inner
  cases h with
  | loop cut => exact behind cut
  | when cut => exact behind cut

theorem suffix_spell (kind : Kind) (params : List Char) : params <:+ spell kind params := by
  rw [spell, ← List.singleton_append, ← List.append_assoc]
  exact List.suffix_append _ params

theorem namesPart_of_single (h : single kind params = .error e) : NamesPart params e := by
  unfold single at h
  split at h
  · cases h
    exact namesPart_missing
  · cases h

theorem eq_of_number_eq_error (h : number kind limit params = .error e) :
    e = .invalidNumber kind (String.ofList (Field.unquote params)) := by
  unfold number at h
  split at h
  · cases h
  · exact (Except.error.inj h).symm

theorem namesPart_of_number (h : number kind limit params = .error e) : NamesPart params e := by
  obtain rfl := eq_of_number_eq_error h
  exact ⟨params, List.infix_refl _, .inr String.toList_ofList⟩

theorem namesPart_of_readExpect (h : readExpect params = .error e) : NamesPart params e := by
  unfold readExpect at h
  split at h
  · next field _ _ cut =>
    dsimp only at h
    split at h
    · cases h
    · cases h
      exact ⟨field, infix_of_split cut, .inr String.toList_ofList⟩
  · cases h
    exact namesPart_missing

theorem eq_error_of_bind {α β : Type} {x : Except CommandError α} {f : α → β}
    (h : (x >>= fun a => .ok (f a)) = .error e) : x = .error e := by
  cases x with
  | error e' => exact congrArg Except.error (Except.error.inj h)
  | ok a => cases h

theorem namesPart_of_readParams (h : readParams kind params = .error e) : NamesPart params e := by
  cases kind with
  | click | goto | press | scroll => exact namesPart_of_single (eq_error_of_bind h)
  | fill =>
    rw [readParams, readFill] at h
    split at h
    · split at h
      · cases h
        exact namesPart_missing
      · cases h
    · cases h
      exact namesPart_missing
  | wait => exact namesPart_of_number (eq_error_of_bind h)
  | expect => exact namesPart_of_readExpect h
  | loop =>
    rw [readParams, readLoop] at h
    split at h
    · next field _ _ cut =>
      exact (namesPart_of_number (eq_error_of_bind h)).within (infix_of_split cut)
    · cases h
      exact namesPart_missing
  | when =>
    rw [readParams, readWhen] at h
    split at h
    · split at h
      · cases h
        exact namesPart_missing
      · cases h
    · cases h
      exact namesPart_missing

theorem namesPart_of_readOne (h : readOne s = .error e) : NamesPart s e := by
  unfold readOne at h
  split at h
  · cases h
    exact ⟨s, List.infix_refl _, .inl String.toList_ofList⟩
  · next word params cut =>
    rw [Text.append_of_splitFirst cut]
    split at h
    · cases h
      exact ⟨word, (List.prefix_append word _).isInfix, .inl String.toList_ofList⟩
    · have behind : params <:+ word ++ ':' :: params := by
        rw [← List.singleton_append, ← List.append_assoc]
        exact List.suffix_append _ params
      exact (namesPart_of_readParams h).within behind.isInfix

/-- What an error names is a part of the command, or what that part says. -/
theorem namesPart_of_parseChars (h : parseChars s = .error e) : NamesPart s e := by
  fun_induction parseChars s with
  | case1 s e' read =>
    cases h
    exact namesPart_of_readOne read
  | case2 => cases h
  | case3 s w inner read e' inside ih =>
    cases h
    obtain ⟨kind, params, rfl, reads⟩ := exists_spell_of_readOne read
    exact (ih inside).within (reads.suffix.isInfix.trans (suffix_spell kind params).isInfix)
  | case4 => cases h

end

end Command

end PageWalk
