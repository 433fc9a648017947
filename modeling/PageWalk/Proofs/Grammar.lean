import PageWalk.Command.Parser
import PageWalk.Proofs.Field
import PageWalk.Proofs.Numeral

/-!
# What a command says

`Reads` says what the parameters of each kind are read as, and `AsksFor` what a command asks for, with
every command inside it. `parse_eq_ok_iff`: the reader accepts exactly the commands that say
something, and gives what they say.
-/

namespace PageWalk.Command

set_option autoImplicit false

/-- A command of a kind with these parameters. -/
def spell (kind : Kind) (params : List Char) : List Char :=
  kind.name.toList ++ ':' :: params

/-- The kinds whose one parameter is a text that must not be empty, and the action it makes. -/
inductive Single : Kind → (String → Action) → Prop where
  | click : Single .click .click
  | goto : Single .goto .goto
  | press : Single .press .press
  | scroll : Single .scroll fun s => .scroll (Goal.ofText s)

/-- A field is a numeral of a number, between blanks or not, quoted or not. -/
def Counts (field : List Char) (n : Nat) : Prop :=
  Text.Numeral.Denotes (Text.trim (Field.unquote field)) n

/-- The parameters of a command of a kind, and what they are read as. -/
inductive Reads : Kind → List Char → Reading → Prop where
  | single {kind : Kind} {make : String → Action} {params : List Char} {s : String} :
    Single kind make → Field.unquote params = s.toList → s ≠ "" →
    Reads kind params (.leaf (make s))
  | fill {params field rest : List Char} {selector value : String} :
    Field.split params = (field, some rest) → Field.unquote field = selector.toList →
    selector ≠ "" → Field.unquote rest = value.toList →
    Reads .fill params (.leaf (.fill selector value))
  | wait {params : List Char} {ms : UInt64} :
    Counts params ms.toNat → Reads .wait params (.leaf (.wait ms))
  | expect {params field rest : List Char} {aspect : Aspect} {value : String} :
    Field.split params = (field, some rest) → Field.unquote field = aspect.name.toList →
    rest ≠ [] → Field.unquote rest = value.toList →
    Reads .expect params (.leaf (.expect aspect value))
  | loop {params field inner : List Char} {count : UInt32} :
    Field.split params = (field, some inner) → Counts field count.toNat → inner ≠ [] →
    Reads .loop params (.nested (.loop count) inner)
  | when {params field inner : List Char} {selector : String} :
    Field.split params = (field, some inner) → Field.unquote field = selector.toList →
    selector ≠ "" → inner ≠ [] → Reads .when params (.nested (.when selector) inner)

section Parameters

variable {kind : Kind} {make : String → Action} {params : List Char} {reading : Reading}

theorem toList_ne_nil {s : String} (h : s ≠ "") : s.toList ≠ [] := by
  intro empty
  exact h (String.toList_eq_nil_iff.mp empty)

theorem ofList_ne_empty {s : List Char} (h : s ≠ []) : String.ofList s ≠ "" := by
  intro empty
  exact h (by simpa using empty)

theorem single_eq_ok_iff {s : String} :
    single kind params = .ok s ↔ Field.unquote params = s.toList ∧ s ≠ "" := by
  unfold single
  split
  · next empty =>
    simp only [missing, reduceCtorEq, false_iff, not_and, empty]
    intro h some
    exact some (String.toList_eq_nil_iff.mp h.symm)
  · next text =>
    constructor
    · intro h
      obtain rfl := Except.ok.inj h
      exact ⟨String.toList_ofList.symm, ofList_ne_empty text⟩
    · rintro ⟨same, -⟩
      rw [same, String.ofList_toList]

theorem number_eq_ok_iff {limit n : Nat} :
    number kind limit params = .ok n ↔ Counts params n ∧ n < limit := by
  rw [Counts, ← Text.Numeral.below?_eq_some_iff, number]
  split
  · next value => rw [value]; simp
  · next none => rw [none]; simp

theorem readParams_of_single (h : Single kind make) :
    readParams kind params = (single kind params).map fun s => .leaf (make s) := by
  cases h <;> rfl

theorem readParams_of_reads (h : Reads kind params reading) :
    readParams kind params = .ok reading := by
  cases h with
  | single one text some =>
    rw [readParams_of_single one, single_eq_ok_iff.mpr ⟨text, some⟩]
    rfl
  | fill split text some value =>
    rw [readParams, readFill, split]
    simp only [text, value, String.ofList_toList]
    split
    · next empty => exact absurd empty (toList_ne_nil some)
    · rw [String.ofList_toList]
  | @wait _ ms counts =>
    have read : number .wait UInt64.size params = .ok ms.toNat :=
      number_eq_ok_iff.mpr ⟨counts, ms.toNat_lt_size⟩
    rw [readParams, read]
    change Except.ok (Reading.leaf (.wait (UInt64.ofNat ms.toNat))) = _
    rw [UInt64.ofNat_toNat]
  | @expect _ _ rest _ _ split text some value =>
    obtain ⟨c, rest, rfl⟩ := List.exists_cons_of_ne_nil some
    rw [readParams, readExpect, split]
    simp only [text, value, String.ofList_toList, Aspect.ofName?_name]
  | @loop _ field inner count split counts some =>
    obtain ⟨c, inner, rfl⟩ := List.exists_cons_of_ne_nil some
    have read : number .loop UInt32.size field = .ok count.toNat :=
      number_eq_ok_iff.mpr ⟨counts, count.toNat_lt_size⟩
    rw [readParams, readLoop, split]
    simp only [read]
    change Except.ok (Reading.nested (.loop (UInt32.ofNat count.toNat)) _) = _
    rw [UInt32.ofNat_toNat]
  | @when _ _ inner _ split text some more =>
    obtain ⟨c, inner, rfl⟩ := List.exists_cons_of_ne_nil more
    rw [readParams, readWhen, split]
    simp only [text]
    split
    · next empty => exact absurd empty (toList_ne_nil some)
    · rw [String.ofList_toList]

theorem reads_of_single (one : Single kind make) (h : readParams kind params = .ok reading) :
    Reads kind params reading := by
  rw [readParams_of_single one] at h
  cases read : single kind params with
  | error e => rw [read] at h; cases h
  | ok s =>
    rw [read] at h
    obtain rfl := Except.ok.inj h
    obtain ⟨text, some⟩ := single_eq_ok_iff.mp read
    exact .single one text some

theorem reads_of_readFill (h : readFill params = .ok reading) : Reads .fill params reading := by
  unfold readFill at h
  split at h
  · next field value split =>
    split at h
    · cases h
    · next selector some =>
      obtain rfl := Except.ok.inj h
      exact .fill split String.toList_ofList.symm (ofList_ne_empty some) String.toList_ofList.symm
  · cases h

theorem reads_of_readExpect (h : readExpect params = .ok reading) :
    Reads .expect params reading := by
  unfold readExpect at h
  split at h
  · next field c value split =>
    simp only at h
    split at h
    · next aspect named =>
      obtain rfl := Except.ok.inj h
      refine .expect split ?_ (List.cons_ne_nil c value) String.toList_ofList.symm
      rw [Aspect.name_of_ofName? named, String.toList_ofList]
    · cases h
  · cases h

theorem reads_of_readLoop (h : readLoop params = .ok reading) : Reads .loop params reading := by
  unfold readLoop at h
  split at h
  · next field c inner split =>
    cases read : number .loop UInt32.size field with
    | error e => rw [read] at h; cases h
    | ok n =>
      rw [read] at h
      obtain rfl := Except.ok.inj h
      obtain ⟨counts, small⟩ := number_eq_ok_iff.mp read
      refine .loop split ?_ (List.cons_ne_nil c inner)
      rwa [UInt32.toNat_ofNat_of_lt' small]
  · cases h

theorem reads_of_readWhen (h : readWhen params = .ok reading) : Reads .when params reading := by
  unfold readWhen at h
  split at h
  · next field c inner split =>
    split at h
    · cases h
    · next selector some =>
      obtain rfl := Except.ok.inj h
      exact .when split String.toList_ofList.symm (ofList_ne_empty some) (List.cons_ne_nil c inner)
  · cases h

theorem reads_of_readParams (h : readParams kind params = .ok reading) :
    Reads kind params reading := by
  cases kind with
  | click => exact reads_of_single .click h
  | goto => exact reads_of_single .goto h
  | press => exact reads_of_single .press h
  | scroll => exact reads_of_single .scroll h
  | fill => exact reads_of_readFill h
  | expect => exact reads_of_readExpect h
  | loop => exact reads_of_readLoop h
  | when => exact reads_of_readWhen h
  | wait =>
    rw [readParams] at h
    cases read : number .wait UInt64.size params with
    | error e => rw [read] at h; cases h
    | ok n =>
      rw [read] at h
      obtain rfl := Except.ok.inj h
      obtain ⟨counts, small⟩ := number_eq_ok_iff.mp read
      refine .wait ?_
      rwa [UInt64.toNat_ofNat_of_lt' small]

end Parameters

/-- A command and what it asks for. -/
inductive AsksFor : List Char → Action → Prop where
  | leaf {kind : Kind} {params : List Char} {action : Action} :
    Reads kind params (.leaf action) → AsksFor (spell kind params) action
  | nested {kind : Kind} {params inner : List Char} {wrapper : Wrapper} {body : Action} :
    Reads kind params (.nested wrapper inner) → AsksFor inner body →
    AsksFor (spell kind params) (wrapper.wrap body)

theorem readOne_spell (kind : Kind) (params : List Char) :
    readOne (spell kind params) = readParams kind params := by
  have word : ':' ∉ kind.name.toList := by
    cases kind <;> decide
  rw [readOne, spell, Text.splitFirst_append word]
  simp only [String.ofList_toList, Kind.ofName?_name]

theorem readOne_of_reads {kind : Kind} {params : List Char} {reading : Reading}
    (h : Reads kind params reading) : readOne (spell kind params) = .ok reading := by
  rw [readOne_spell, readParams_of_reads h]

theorem exists_spell_of_readOne {s : List Char} {reading : Reading} (h : readOne s = .ok reading) :
    ∃ kind params, s = spell kind params ∧ Reads kind params reading := by
  unfold readOne at h
  split at h
  · cases h
  · next word params cut =>
    split at h
    · cases h
    · next kind named =>
      refine ⟨kind, params, ?_, reads_of_readParams h⟩
      rw [spell, Kind.name_of_ofName? named, String.toList_ofList]
      exact Text.append_of_splitFirst cut

/-- Reading a command is reading one, and then the command inside it. -/
theorem parseChars_eq (s : List Char) :
    parseChars s =
      match readOne s with
      | .error e => .error e
      | .ok (.leaf a) => .ok a
      | .ok (.nested w inner) => (parseChars inner).map w.wrap := by
  rw [parseChars]
  split
  · next failed => rw [failed]
  · next read => rw [read]
  · next w inner read =>
    rw [read]
    dsimp only
    cases parseChars inner <;> rfl

theorem parseChars_of_leaf {s : List Char} {a : Action} (h : readOne s = .ok (.leaf a)) :
    parseChars s = .ok a := by
  rw [parseChars_eq, h]

theorem parseChars_of_error {s : List Char} {e : CommandError} (h : readOne s = .error e) :
    parseChars s = .error e := by
  rw [parseChars_eq, h]

theorem parseChars_of_nested {s inner : List Char} {w : Wrapper}
    (h : readOne s = .ok (.nested w inner)) : parseChars s = (parseChars inner).map w.wrap := by
  rw [parseChars_eq, h]

theorem asksFor_of_parseChars {s : List Char} {a : Action} (h : parseChars s = .ok a) : AsksFor s a := by
  fun_induction parseChars s generalizing a with
  | case1 => cases h
  | case2 s b read =>
    obtain rfl := Except.ok.inj h
    obtain ⟨kind, params, rfl, reads⟩ := exists_spell_of_readOne read
    exact .leaf reads
  | case3 => cases h
  | case4 s w inner read b inside ih =>
    obtain rfl := Except.ok.inj h
    obtain ⟨kind, params, rfl, reads⟩ := exists_spell_of_readOne read
    exact .nested reads (ih inside)

theorem parseChars_of_asksFor {s : List Char} {a : Action} (h : AsksFor s a) : parseChars s = .ok a := by
  induction h with
  | leaf reads => exact parseChars_of_leaf (readOne_of_reads reads)
  | nested reads _ ih =>
    rw [parseChars_of_nested (readOne_of_reads reads), ih]
    rfl

/-- The reader accepts exactly the commands that say something, and gives what they say. -/
theorem parseChars_eq_ok_iff {s : List Char} {a : Action} : parseChars s = .ok a ↔ AsksFor s a :=
  ⟨asksFor_of_parseChars, parseChars_of_asksFor⟩

theorem parse_eq_ok_iff {s : String} {a : Action} : parse s = .ok a ↔ AsksFor s.toList a :=
  parseChars_eq_ok_iff

end PageWalk.Command
