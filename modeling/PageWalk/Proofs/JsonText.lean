import PageWalk.Json.Printer
import PageWalk.Json.Reader
import PageWalk.Proofs.Field
import PageWalk.Proofs.JsonParts
import Mathlib.Data.List.Basic
import Mathlib.Data.List.TakeWhile

/-!
# JSON read back

What is written for a value is read as that value, as long as its parts are `Plain`: a numeral with a
point is rounded when it is read, and what is unreadable is not written at all. Reading goes on behind
the value, so each part is read back with the rest of the text behind it.
-/

namespace PageWalk.Json

set_option autoImplicit false

/-! ## Literals -/

namespace Quoted

theorem read_escape {c : Char} {s rest : List Char} (h : readEscape s = some (c, rest)) :
    read ('\\' :: s) = (read rest).map fun (text, after) => (c :: text, after) := by
  rw [read]
  split
  · next none => rw [h] at none; cases none
  · next some =>
    rw [h] at some
    cases some
    rfl

theorem hexValue_digitChar : ∀ n < 16, Text.hexValue (Nat.digitChar n) = some n := by
  decide

theorem readEscape_unit {s rest : List Char} {n : Nat} (unit : hex4 s = some (n, rest))
    (plain : n < 0xD800) : readEscape ('u' :: s) = some (Char.ofNat n, rest) := by
  rw [readEscape, unit]
  exact if_pos (.inl plain)

theorem read_escaped (c : Char) (s : List Char) :
    read (escaped c ++ s) = (read s).map fun (text, after) => (c :: text, after) := by
  unfold escaped
  split_ifs with quote backslash backspace feed line ret tab control
  · subst quote; exact read_escape rfl
  · subst backslash; exact read_escape rfl
  · subst backspace; exact read_escape rfl
  · subst feed; exact read_escape rfl
  · subst line; exact read_escape rfl
  · subst ret; exact read_escape rfl
  · subst tab; exact read_escape rfl
  · have high := hexValue_digitChar (c.toNat / 16) (by omega)
    have low := hexValue_digitChar (c.toNat % 16) (by omega)
    have unit : hex4 ('0' :: '0' :: Nat.digitChar (c.toNat / 16) ::
        Nat.digitChar (c.toNat % 16) :: s) = some (c.toNat, s) := by
      simp only [hex4, high, low, show Text.hexValue '0' = some 0 from rfl, Option.bind_eq_bind,
        Option.bind_some]
      congr 2
      omega
    refine read_escape ((readEscape_unit unit (by omega)).trans ?_)
    rw [Char.ofNat_toNat]
  · have unmarked : c ∉ Field.marks := by
      rw [Field.mem_marks, not_or]
      exact ⟨quote, backslash⟩
    rw [List.singleton_append, Field.read_unmarked unmarked, if_neg control]

theorem read_body (s rest : List Char) : read (body s ++ '"' :: rest) = some (s, rest) := by
  induction s with
  | nil => exact read.eq_2 rest
  | cons c s ih =>
    rw [body, List.flatMap_cons, List.append_assoc, read_escaped]
    exact congrArg (Option.map _) ih

end Quoted

/-! ## Integers -/

/-- A text that does not go on with a numeral. -/
def PastNumeral (rest : List Char) : Prop :=
  ∀ c ∈ rest.head?, c.isDigit = false ∧ c ≠ '.' ∧ c ≠ 'e' ∧ c ≠ 'E'

theorem pastNumeral_nil : PastNumeral [] := by
  intro c first
  cases first

theorem pastNumeral_cons {c : Char} (rest : List Char)
    (h : c.isDigit = false ∧ c ≠ '.' ∧ c ≠ 'e' ∧ c ≠ 'E') : PastNumeral (c :: rest) := by
  intro d first
  cases first
  exact h

section Digits

variable {digits rest : List Char} {n : Nat}

theorem takeWhile_digits (all : ∀ c ∈ digits, c.isDigit = true) (ends : PastNumeral rest) :
    (digits ++ rest).takeWhile Char.isDigit = digits := by
  induction digits with
  | nil =>
    cases rest with
    | nil => rfl
    | cons c rest =>
      have stops := (ends c rfl).1
      rw [List.nil_append, List.takeWhile_cons_of_neg (by simp [stops])]
  | cons d digits ih =>
    rw [List.cons_append, List.takeWhile_cons_of_pos (all d List.mem_cons_self),
      ih fun c there => all c (List.mem_cons_of_mem _ there)]

theorem pastDigits_digits (all : ∀ c ∈ digits, c.isDigit = true) (ends : PastNumeral rest) :
    pastDigits (digits ++ rest) = rest := by
  have whole := List.takeWhile_append_dropWhile (p := Char.isDigit) (l := digits ++ rest)
  rw [takeWhile_digits all ends] at whole
  exact List.append_cancel_left whole

theorem readFraction_of_pastNumeral (ends : PastNumeral rest) : readFraction rest = some ([], rest) := by
  unfold readFraction
  split
  · exact absurd rfl (ends '.' rfl).2.1
  · rfl

theorem readExponent_of_pastNumeral (ends : PastNumeral rest) : readExponent rest = some (none, rest) := by
  unfold readExponent
  split
  · exact absurd rfl (ends 'e' rfl).2.2.1
  · exact absurd rfl (ends 'E' rfl).2.2.2
  · rfl

theorem head?_toDigits (pos : 0 < n) : (Nat.toDigits 10 n).head? ≠ some '0' := by
  induction n using Nat.strongRecOn with
  | ind n ih =>
    by_cases small : n < 10
    · rw [Nat.toDigits_of_lt_base small]
      simp only [List.head?_cons, ne_eq, Option.some.injEq, Nat.digitChar_eq_zero]
      omega
    · rw [Nat.toDigits_of_base_le (by decide) (by omega),
        List.head?_append_of_ne_nil _ Nat.toDigits_ne_nil]
      exact ih (n / 10) (by omega) (by omega)

theorem isDigit_of_mem_toDigits {c : Char} (h : c ∈ Nat.toDigits 10 n) : c.isDigit = true :=
  Nat.isDigit_of_mem_toDigits (by decide) (by decide) h

theorem readWhole_toDigits (n : Nat) (ends : PastNumeral rest) :
    readWhole (Nat.toDigits 10 n ++ rest) = some (Nat.toDigits 10 n, rest) := by
  rcases Nat.eq_zero_or_pos n with rfl | pos
  · cases rest with
    | nil => rfl
    | cons c rest =>
      have stops := (ends c rfl).1
      rw [Nat.toDigits_zero, List.singleton_append]
      show (if c.isDigit then none else some (['0'], c :: rest)) = _
      rw [stops]
      rfl
  · have first := head?_toDigits pos
    have all : ∀ c ∈ Nat.toDigits 10 n, c.isDigit = true := fun c => isDigit_of_mem_toDigits
    cases written : Nat.toDigits 10 n with
    | nil => exact absurd written Nat.toDigits_ne_nil
    | cons d digits =>
      rw [written] at first all
      have nonzero : d ≠ '0' := fun zero => first (congrArg some zero)
      have digit := all d List.mem_cons_self
      have taken := takeWhile_digits all ends
      have left : pastDigits (digits ++ rest) = rest :=
        pastDigits_digits (fun c there => all c (List.mem_cons_of_mem _ there)) ends
      rw [List.cons_append] at taken ⊢
      rw [readWhole.eq_def]
      dsimp only
      rw [if_neg nonzero, if_pos digit, taken, left]

theorem le_ofDigitChars (digits : List Char) (n : Nat) : n ≤ Nat.ofDigitChars 10 digits n := by
  rw [Nat.ofDigitChars_eq_ofDigitChars_zero]
  have scale : 1 * n ≤ 10 ^ digits.length * n :=
    Nat.mul_le_mul_right n (Nat.one_le_pow _ _ (by decide))
  omega

theorem gather_eq (digits : List Char) (n : Nat)
    (fits : Nat.ofDigitChars 10 digits n ≤ maxSignificand) :
    gather n digits = (Nat.ofDigitChars 10 digits n, 0) := by
  induction digits generalizing n with
  | nil => rfl
  | cons d digits ih =>
    rw [Nat.ofDigitChars_cons] at fits ⊢
    have next : n * 10 + (d.toNat - 48) = 10 * n + (d.toNat - '0'.toNat) := by
      rw [Nat.mul_comm]
      rfl
    have below := (le_ofDigitChars digits _).trans fits
    rw [gather, next, if_pos below, ih _ fits]

end Digits

/-- The bounds of the integers that a text can hold. -/
def InRange (n : Int) : Prop :=
  -0x8000000000000000 ≤ n ∧ n ≤ 0xFFFFFFFFFFFFFFFF

instance (n : Int) : Decidable (InRange n) :=
  inferInstanceAs (Decidable (_ ∧ _))

theorem value_whole {negative : Bool} {n : Nat} (fits : n ≤ maxSignificand) :
    (Numeral.mk negative (Nat.toDigits 10 n) [] none).value =
      if !negative then int n
      else if 0 < n ∧ n ≤ 0x8000000000000000 then int (-(n : Int))
      else float (Binary64.ofInt n).neg := by
  have digits : Nat.ofDigitChars 10 (Nat.toDigits 10 n) 0 = n := Nat.ofDigitChars_ten_toDigits
  have gathered : gather 0 (Nat.toDigits 10 n) = (n, 0) := by
    rw [gather_eq _ _ (by rw [digits]; exact fits), digits]
  rw [Numeral.value, gathered]
  exact if_pos ⟨rfl, rfl, rfl⟩

theorem readNumeral_intChars {n : Int} {rest : List Char} (range : InRange n) (ends : PastNumeral rest) :
    ∃ numeral, readNumeral (intChars n ++ rest) = some (numeral, rest) ∧ numeral.value = int n := by
  obtain ⟨low, high⟩ := range
  have fits : n.natAbs ≤ maxSignificand := by
    unfold maxSignificand
    omega
  have whole := readWhole_toDigits n.natAbs ends
  have read : ∀ negative, readMinus (intChars n ++ rest) =
        (negative, Nat.toDigits 10 n.natAbs ++ rest) →
      readNumeral (intChars n ++ rest) =
        some (⟨negative, Nat.toDigits 10 n.natAbs, [], none⟩, rest) := by
    intro negative minus
    simp only [readNumeral, minus, whole, readFraction_of_pastNumeral ends, readExponent_of_pastNumeral ends,
      Option.bind_eq_bind, Option.bind_some]
  by_cases negative : n < 0
  · refine ⟨_, read true ?_, ?_⟩
    · rw [intChars, if_pos negative]
      rfl
    · rw [value_whole fits, if_neg (by decide), if_pos (by omega)]
      congr 1
      omega
  · refine ⟨_, read false ?_, ?_⟩
    · rw [intChars, if_neg negative, List.nil_append]
      unfold readMinus
      split
      · next minus =>
        have first : ('-' : Char) ∈ Nat.toDigits 10 n.natAbs := by
          have head := congrArg List.head? minus
          rw [List.head?_append_of_ne_nil _ Nat.toDigits_ne_nil] at head
          exact List.mem_of_mem_head? head
        exact absurd (isDigit_of_mem_toDigits first) (by decide)
      · rfl
    · rw [value_whole fits, if_pos (by decide)]
      congr 1
      omega

/-! ## Values without parts -/

/-- A value without parts that is read as it was written. -/
def Plain : Json → Prop
  | null | bool _ | str _ => True
  | int n => InRange n
  | _ => False

/-- The first character of a value is neither a blank nor a mark that stands alone. -/
def Opens (c : Char) : Prop :=
  isGap c = false ∧ mark? c = none

instance (c : Char) : Decidable (Opens c) :=
  inferInstanceAs (Decidable (_ ∧ _))

theorem opens_of_isDigit {c : Char} (h : c.isDigit = true) :
    Opens c ∧ c ≠ '"' ∧ c ≠ 't' ∧ c ≠ 'f' ∧ c ≠ 'n' := by
  have other : ∀ d : Char, d.isDigit = false → c ≠ d := by
    rintro d no rfl
    rw [h] at no
    cases no
  refine ⟨⟨?_, ?_⟩, other _ rfl, other _ rfl, other _ rfl, other _ rfl⟩
  · simp [isGap, other ' ' rfl, other '\n' rfl, other '\r' rfl, other '\t' rfl]
  · simp [mark?, other '[' rfl, other ']' rfl, other '{' rfl, other '}' rfl, other ',' rfl,
      other ':' rfl]

theorem exists_intChars (n : Int) :
    ∃ c s, intChars n = c :: s ∧ Opens c ∧ c ≠ '"' ∧ c ≠ 't' ∧ c ≠ 'f' ∧ c ≠ 'n' := by
  by_cases negative : n < 0
  · refine ⟨'-', Nat.toDigits 10 n.natAbs, ?_, by decide⟩
    rw [intChars, if_pos negative]
    rfl
  · cases written : Nat.toDigits 10 n.natAbs with
    | nil => exact absurd written Nat.toDigits_ne_nil
    | cons d digits =>
      have digit : d.isDigit = true := isDigit_of_mem_toDigits (written ▸ List.mem_cons_self)
      refine ⟨d, digits, ?_, opens_of_isDigit digit⟩
      rw [intChars, if_neg negative, List.nil_append, written]

/-- A literal and a numeral end where they were written to end. -/
theorem exists_readScalar {v : Json} (plain : v.Plain) {rest : List Char} (ends : PastNumeral rest) :
    ∃ c s, v.scalarChars = c :: s ∧ Opens c ∧ readScalar c (s ++ rest) = some (.scalar v, rest) := by
  cases v with
  | null => exact ⟨'n', _, rfl, by decide, rfl⟩
  | bool b => cases b <;> exact ⟨_, _, rfl, by decide, rfl⟩
  | str s =>
    refine ⟨'"', _, rfl, by decide, ?_⟩
    have text := Quoted.read_body s.toList rest
    rw [readScalar, if_pos rfl, readString, List.append_assoc, List.singleton_append, text]
    simp only [String.ofList_toList]
  | int n =>
    obtain ⟨c, s, written, opens, quote, t, f, null⟩ := exists_intChars n
    obtain ⟨numeral, read, value⟩ := readNumeral_intChars plain ends
    refine ⟨c, s, written, opens, ?_⟩
    rw [written, List.cons_append] at read
    rw [readScalar, if_neg quote, if_neg t, if_neg f, if_neg null, read, ← value]
    rfl
  | float x => exact plain.elim
  | arr items => exact plain.elim
  | obj members => exact plain.elim
  | unreadable => exact plain.elim

/-! ## Tokens -/

/-- The state after the tokens of a text. -/
def State.read (state : State) (s : List Char) : Option State := do
  (← tokens s).foldlM State.step state

theorem readChars_eq (s : List Char) :
    readChars s = ((State.value []).read s).bind State.result? := by
  simp [readChars, State.read, Option.bind_assoc]

namespace State

variable (state : State) {c : Char} {s rest : List Char} {token : Token}

theorem read_gap (gap : isGap c = true) : state.read (c :: s) = state.read s := by
  rw [State.read, tokens, if_pos gap]
  rfl

theorem read_gaps {gaps : List Char} (all : ∀ c ∈ gaps, isGap c = true) :
    state.read (gaps ++ s) = state.read s := by
  induction gaps with
  | nil => rfl
  | cons c gaps ih =>
    rw [List.cons_append, read_gap state (all c List.mem_cons_self),
      ih fun d there => all d (List.mem_cons_of_mem _ there)]

theorem read_newLine (depth : Nat) : state.read (newLine depth ++ s) = state.read s := by
  apply read_gaps
  intro c there
  rcases List.mem_cons.mp there with rfl | there
  · rfl
  · rw [(List.mem_replicate.mp there).2]
    rfl

/-- Reading goes on after a token with the state that the token leads to. -/
theorem read_token {next : State} (split : tokens s = (tokens rest).map (token :: ·))
    (step : state.step token = some next) : state.read s = next.read rest := by
  unfold State.read
  rw [split]
  cases tokens rest with
  | none => rfl
  | some more =>
    show (token :: more).foldlM State.step state = more.foldlM State.step next
    rw [List.foldlM_cons, step]
    rfl

theorem read_mark {next : State} (gap : isGap c = false) (mark : mark? c = some token)
    (step : state.step token = some next) : state.read (c :: s) = next.read s := by
  apply read_token state _ step
  rw [tokens, if_neg (by simp [gap])]
  simp only [mark]

theorem read_scalar {next : State} (opens : Opens c) (scalar : readScalar c s = some (token, rest))
    (step : state.step token = some next) : state.read (c :: s) = next.read rest := by
  apply read_token state _ step
  rw [tokens, if_neg (by simp [opens.1])]
  split
  · next mark => rw [opens.2] at mark; cases mark
  · split
    · next none => rw [scalar] at none; cases none
    · next some =>
      rw [scalar] at some
      cases some
      rfl

theorem read_plain {v : Json} {next : State} (plain : v.Plain) (ends : PastNumeral rest)
    (step : state.step (.scalar v) = some next) :
    state.read (v.scalarChars ++ rest) = next.read rest := by
  obtain ⟨c, s, written, opens, scalar⟩ := exists_readScalar plain ends
  rw [written]
  exact read_scalar state opens scalar step

end State

/-! ## Values -/

abbrev Exact (v : Json) : Prop :=
  v.Every Plain

theorem exact_optional {key : String} {s : Option String} :
    ∀ m ∈ Json.optional key s, m.2.Exact := by
  cases s with
  | none => exact List.forall_mem_nil _
  | some s => exact List.forall_mem_singleton.mpr (.leaf rfl trivial)

/-- A state in which a value may begin, within these frames. -/
structure State.AwaitsValue (state : State) (stack : List Frame) : Prop where
  scalar (v : Json) : state.step (.scalar v) = some (.after v stack)
  array : state.step .arrayStart = some (.itemOrEnd stack)
  object : state.step .objectStart = some (.keyOrEnd stack)

theorem awaits_value (stack : List Frame) : (State.value stack).AwaitsValue stack :=
  ⟨fun _ => rfl, rfl, rfl⟩

theorem awaits_itemOrEnd (stack : List Frame) :
    (State.itemOrEnd stack).AwaitsValue (.array [] :: stack) :=
  ⟨fun _ => rfl, rfl, rfl⟩

/-- A state in which a key may come, after these members. -/
def State.AwaitsKey (state : State) (members : List (Option String × Json)) (stack : List Frame) :
    Prop :=
  ∀ key, state.step (.scalar (str key)) = some (.colon members (some key) stack)

theorem pastNumeral_newLine (depth : Nat) (rest : List Char) : PastNumeral (newLine depth ++ rest) :=
  pastNumeral_cons _ (by decide)

/-- A value is read back wherever it stands. -/
def ReadsBack (v : Json) : Prop :=
  ∀ (depth : Nat) (state : State) (stack : List Frame) (rest : List Char),
    state.AwaitsValue stack → PastNumeral rest →
    state.read (v.prettyChars depth ++ rest) = (State.after v stack).read rest

theorem read_prettyItems {items : List Json} (back : ∀ item ∈ items, item.ReadsBack)
    (some_item : items ≠ []) (depth : Nat) (done : List Json) (state : State) (stack : List Frame)
    (rest : List Char) (awaits : state.AwaitsValue (.array done :: stack)) :
    state.read (prettyItems (depth + 1) items ++ newLine depth ++ ']' :: rest) =
      (State.after (arr (done.reverse ++ items)) stack).read rest := by
  induction items generalizing done state with
  | nil => exact absurd rfl some_item
  | cons item items ih =>
    have first := fun behind => back item List.mem_cons_self (depth + 1) state _ behind awaits
    cases items with
    | nil =>
      rw [prettyItems, List.append_assoc, List.append_assoc, State.read_newLine,
        first _ (pastNumeral_newLine _ _), State.read_newLine, State.read_mark _ rfl rfl rfl,
        List.reverse_cons]
    | cons next items =>
      have later := ih (fun item there => back item (List.mem_cons_of_mem _ there))
        (List.cons_ne_nil _ _) (item :: done) _ (awaits_value _)
      rw [prettyItems.eq_3 _ _ _ (List.cons_ne_nil _ _)]
      simp only [List.reverse_cons, List.append_assoc, List.cons_append, List.nil_append] at later ⊢
      rw [State.read_newLine, first _ (pastNumeral_cons _ (by decide)), State.read_mark _ rfl rfl rfl]
      exact later

theorem read_key {state : State} {members : List (Option String × Json)} {stack : List Frame}
    (awaits : state.AwaitsKey members stack) (key : String) (rest : List Char) :
    state.read (Quoted.encode key.toList ++ ':' :: ' ' :: rest) =
      (State.value (.object members (some key) :: stack)).read rest := by
  have colon : state.read ((str key).scalarChars ++ ':' :: ' ' :: rest) =
      (State.colon members (some key) stack).read (':' :: ' ' :: rest) :=
    State.read_plain state trivial (pastNumeral_cons _ (by decide)) (awaits key)
  have value : (State.colon members (some key) stack).read (':' :: ' ' :: rest) =
      (State.value (.object members (some key) :: stack)).read (' ' :: rest) :=
    State.read_mark _ rfl rfl rfl
  exact colon.trans (value.trans (State.read_gap _ rfl))

/-- The members of an object in which keys are being read, the latest first. -/
def taken (members : List (String × Json)) : List (Option String × Json) :=
  (members.map fun (key, value) => (some key, value)).reverse

theorem taken_concat (members : List (String × Json)) (key : String) (value : Json) :
    taken (members ++ [(key, value)]) = (some key, value) :: taken members := by
  simp [taken]

theorem ofMembers_taken (members : List (String × Json)) : ofMembers (taken members) = obj members := by
  have named : (members.map fun (key, value) => (some key, value)).mapM
      (fun (m : Option String × Json) => m.1.map (·, m.2)) = some members := by
    induction members with
    | nil => rfl
    | cons m members ih =>
      rw [List.map_cons, List.mapM_cons, ih]
      rfl
  simp only [ofMembers, taken, List.reverse_reverse, named]

theorem read_prettyMembers {members : List (String × Json)}
    (back : ∀ m ∈ members, m.2.ReadsBack) (some_member : members ≠ []) (depth : Nat)
    (done : List (String × Json)) (state : State) (stack : List Frame) (rest : List Char)
    (awaits : state.AwaitsKey (taken done) stack) :
    state.read (prettyMembers (depth + 1) members ++ newLine depth ++ '}' :: rest) =
      (State.after (obj (done ++ members)) stack).read rest := by
  induction members generalizing done state with
  | nil => exact absurd rfl some_member
  | cons m members ih =>
    obtain ⟨key, value⟩ := m
    have first := fun behind => back (key, value) List.mem_cons_self (depth + 1) _ _ behind
      (awaits_value (.object (taken done) (some key) :: stack))
    cases members with
    | nil =>
      rw [prettyMembers]
      simp only [List.append_assoc, List.cons_append]
      rw [State.read_newLine, read_key awaits, first _ (pastNumeral_newLine _ _), State.read_newLine,
        State.read_mark _ rfl rfl rfl, ← taken_concat, ofMembers_taken]
    | cons next members =>
      have awaits_next : (State.key (taken (done ++ [(key, value)])) stack).AwaitsKey
          (taken (done ++ [(key, value)])) stack := fun _ => rfl
      have later := ih (fun m there => back m (List.mem_cons_of_mem _ there))
        (List.cons_ne_nil _ _) _ _ awaits_next
      rw [prettyMembers.eq_3 _ _ _ _ (List.cons_ne_nil _ _)]
      simp only [List.append_assoc, List.cons_append, List.nil_append] at later ⊢
      rw [State.read_newLine, read_key awaits, first _ (pastNumeral_cons _ (by decide)),
        State.read_mark _ rfl rfl rfl, ← taken_concat]
      exact later

theorem prettyChars_of_depth {v : Json} (single : v.depth = 0) (depth : Nat) :
    v.prettyChars depth = v.scalarChars := by
  cases v with
  | arr items => simp [Json.depth] at single
  | obj members => simp [Json.depth] at single
  | _ => rfl

theorem Exact.readsBack {v : Json} (whole : v.Exact) : v.ReadsBack := by
  induction whole with
  | leaf single plain =>
    intro depth state stack rest awaits ends
    rw [prettyChars_of_depth single]
    exact State.read_plain state plain ends (awaits.scalar _)
  | @arr items all back =>
    intro depth state stack rest awaits ends
    cases items with
    | nil =>
      rw [prettyChars, List.cons_append, State.read_mark state rfl rfl awaits.array]
      exact State.read_mark _ rfl rfl rfl
    | cons item items =>
      rw [prettyChars.eq_2 _ _ (List.cons_ne_nil _ _), List.cons_append,
        State.read_mark state rfl rfl awaits.array, List.append_assoc, List.singleton_append]
      exact read_prettyItems back (List.cons_ne_nil _ _) depth [] _ stack rest
        (awaits_itemOrEnd stack)
  | @obj members all back =>
    intro depth state stack rest awaits ends
    cases members with
    | nil =>
      rw [prettyChars, List.cons_append, State.read_mark state rfl rfl awaits.object]
      exact State.read_mark _ rfl rfl rfl
    | cons m members =>
      rw [prettyChars.eq_4 _ _ (List.cons_ne_nil _ _), List.cons_append,
        State.read_mark state rfl rfl awaits.object, List.append_assoc, List.singleton_append]
      exact read_prettyMembers back (List.cons_ne_nil _ _) depth [] _ stack rest fun _ => rfl

theorem read?_pretty {v : Json} (whole : v.Exact) : read? v.pretty = some v := by
  have back := whole.readsBack 0 (.value []) [] [] (awaits_value []) pastNumeral_nil
  rw [List.append_nil] at back
  rw [read?, pretty, String.toList_ofList, readChars_eq, back]
  simp [State.read, tokens, State.result?]

end PageWalk.Json
