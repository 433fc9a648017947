import PageWalk.Json.Decode
import PageWalk.Proofs.JsonParts

/-!
# Fields of a record

Where a field is looked up by name, the other members do not matter. What was decoded came from a part
of the value, so a property that holds of all parts is passed on to it.
-/

namespace PageWalk.Json

set_option autoImplicit false

section Steps

variable {ε α β : Type}

instance [DecidableEq ε] [DecidableEq α] : DecidableEq (Except ε α)
  | .ok a, .ok b => decidable_of_iff (a = b) ⟨congrArg _, Except.ok.inj⟩
  | .error a, .error b => decidable_of_iff (a = b) ⟨congrArg _, Except.error.inj⟩
  | .ok _, .error _ => .isFalse nofun
  | .error _, .ok _ => .isFalse nofun

/-- What a step after another gives comes from what the first gave. -/
theorem exists_of_bind_ok {x : Except ε α} {f : α → Except ε β} {b : β} (h : x >>= f = .ok b) :
    ∃ a, x = .ok a ∧ f a = .ok b := by
  cases x with
  | error e => cases h
  | ok a => exact ⟨a, rfl, h⟩

theorem mapM_map_ok {γ : Type} {read : α → Except ε γ} {write : β → α} {value : β → γ} {list : List β}
    (back : ∀ b ∈ list, read (write b) = .ok (value b)) :
    (list.map write).mapM read = .ok (list.map value) := by
  induction list with
  | nil => rfl
  | cons b list ih =>
    obtain ⟨first, later⟩ := List.forall_mem_cons.mp back
    rw [List.map_cons, List.mapM_cons, first, ih later]
    rfl

theorem exists_of_mem_mapM_ok {read : α → Except ε β} {list : List α} {results : List β}
    (h : list.mapM read = .ok results) : ∀ b ∈ results, ∃ a ∈ list, read a = .ok b := by
  induction list generalizing results with
  | nil =>
    cases h
    simp
  | cons a list ih =>
    rw [List.mapM_cons] at h
    obtain ⟨first, of_first, h⟩ := exists_of_bind_ok h
    obtain ⟨later, of_later, h⟩ := exists_of_bind_ok h
    cases h
    refine List.forall_mem_cons.mpr ⟨⟨a, List.mem_cons_self, of_first⟩, fun b there => ?_⟩
    obtain ⟨source, mem, of_source⟩ := ih of_later b there
    exact ⟨source, List.mem_cons_of_mem _ mem, of_source⟩

end Steps

section Fields

variable {α : Type} {fields : Fields} {slot : Slot} {read : Json → Decoded α} {value : Json}
  {key : String} {members more : List (String × Json)}

/-- The members that a field is looked for among. -/
def Slot.among (slot : Slot) (members : List (String × Json)) : List (String × Json) :=
  members.filter fun (key, _) => slot.names.contains key

theorem among_nil : slot.among [] = [] := rfl

theorem among_cons : slot.among ((key, value) :: members) =
    if key ∈ slot.names then (key, value) :: slot.among members else slot.among members := by
  simp [Slot.among, List.filter_cons]

theorem among_append : slot.among (members ++ more) = slot.among members ++ slot.among more :=
  List.filter_append ..

theorem among_optional {s : Option String} :
    slot.among (Json.optional key s) = if key ∈ slot.names then Json.optional key s else [] := by
  cases s with
  | none => simp [Json.optional, among_nil]
  | some s => simp [Json.optional, among_cons, among_nil]

theorem fst_of_mem_optional {s : Option String} {m : String × Json} (h : m ∈ Json.optional key s) :
    m.1 = key := by
  cases s with
  | none => cases h
  | some s => rw [List.mem_singleton.mp h]

theorem required_named (found : slot.among members = [(key, value)]) :
    (Fields.named members).required slot read = read value := by
  have filter : (members.filter fun (key, _) => slot.names.contains key) = [(key, value)] := found
  rw [Fields.required, Fields.get?]
  simp only [filter]
  rfl

theorem withDefault_named {found : Option Json} (default : α)
    (h : slot.among members = (found.map fun value => (key, value)).toList) :
    (Fields.named members).withDefault slot default read =
      (found.map read).getD (.ok default) := by
  have filter : (members.filter fun (key, _) => slot.names.contains key) =
      (found.map fun value => (key, value)).toList := h
  rw [Fields.withDefault, Fields.get?]
  simp only [filter]
  cases found <;> rfl

theorem given_named (default : α) (found : slot.among members = [(key, value)]) :
    (Fields.named members).withDefault slot default read = read value := by
  have one : slot.among members = ((some value).map fun value => (key, value)).toList := found
  exact withDefault_named default one

theorem text_named {s : Option String} (h : slot.among members = Json.optional key s) :
    (Fields.named members).withDefault slot none (asOption asString) = .ok s := by
  have found : slot.among members = ((s.map str).map fun value => (key, value)).toList := by
    rw [h]
    cases s <;> rfl
  rw [withDefault_named none found]
  cases s <;> rfl

/-- A field that was given a value of its own took it from a member or an item. -/
theorem exists_of_withDefault {default a : α} (h : fields.withDefault slot default read = .ok a) :
    a = default ∨ ∃ value, fields.get? slot = .ok (some value) ∧ read value = .ok a := by
  rw [Fields.withDefault] at h
  obtain ⟨found, get, h⟩ := exists_of_bind_ok h
  cases found with
  | none => exact .inl (Except.ok.inj h).symm
  | some value => exact .inr ⟨value, get, h⟩

theorem exists_of_required {a : α} (h : fields.required slot read = .ok a) :
    ∃ value, fields.get? slot = .ok (some value) ∧ read value = .ok a := by
  rw [Fields.required] at h
  obtain ⟨found, get, h⟩ := exists_of_bind_ok h
  cases found with
  | none => cases h
  | some value => exact ⟨value, get, h⟩

theorem asList_eq_ok {list : List α} (h : value.asList read = .ok list) :
    ∃ items, value = .arr items ∧ items.mapM read = .ok list := by
  cases value with
  | arr items => exact ⟨items, rfl, h⟩
  | _ => cases h

theorem asList_map {list : List α} {write : α → Json}
    (back : ∀ a ∈ list, read (write a) = .ok a) : (arr (list.map write)).asList read = .ok list := by
  have items : (list.map write).mapM read = .ok (list.map id) := mapM_map_ok back
  rwa [List.map_id] at items

theorem bounds_of_asInt {type : String} {low high n : Int} (h : value.asInt type low high = .ok n) :
    low ≤ n ∧ n ≤ high := by
  cases value with
  | int m =>
    rw [asInt] at h
    split_ifs at h with bounds
    cases h
    exact bounds
  | _ => cases h

end Fields

section Parts

variable {p : Json → Prop} {fields : Fields} {value : Json}

/-- Every part of the fields satisfies a condition. -/
def Fields.Every (p : Json → Prop) : Fields → Prop
  | named members => ∀ m ∈ members, m.2.Every p
  | listed items => ∀ item ∈ items, item.Every p

theorem Every.asFields {what : String} {width : Nat} (every : value.Every p)
    (h : value.asFields what width = .ok fields) : fields.Every p := by
  unfold Json.asFields at h
  split at h
  · cases h
    exact every.of_obj
  · split_ifs at h
    cases h
    exact every.of_arr
  · cases h

theorem Fields.Every.get? {slot : Slot} (every : fields.Every p)
    (h : fields.get? slot = .ok (some value)) : value.Every p := by
  cases fields with
  | named members =>
    rw [Fields.get?] at h
    split at h
    · cases h
    · next key found filter =>
      cases h
      have there : (key, value) ∈ members :=
        (List.mem_filter.mp (filter ▸ List.mem_singleton_self _)).1
      exact every _ there
    · cases h
  | listed items =>
    have there : items[slot.place]? = some value := Except.ok.inj h
    exact every value (List.mem_of_getElem? there)

end Parts

end PageWalk.Json
