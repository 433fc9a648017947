import PageWalk.Proofs.Decoding
import PageWalk.Proofs.TwoRuns

/-!
# Records that differ in one field

Two records may agree but for the value of one field, by name or in order. Every other field is found
alike in both, and its reader gives the same; the one field is in both or in none.
-/

namespace PageWalk.Json

set_option autoImplicit false

open Program (Alike)

/-- Two records agree but for a value of one field. -/
inductive Differ (slot : Slot) (R : Json → Json → Prop) : Json → Json → Prop where
  | member {before after : List (String × Json)} {key : String} {value value' : Json}
      (named : key ∈ slot.names) (related : R value value') :
    Differ slot R (.obj (before ++ (key, value) :: after)) (.obj (before ++ (key, value') :: after))
  | item {before after : List Json} {value value' : Json}
      (placed : before.length = slot.place) (related : R value value') :
    Differ slot R (.arr (before ++ value :: after)) (.arr (before ++ value' :: after))

inductive Fields.Differ (slot : Slot) (R : Json → Json → Prop) : Fields → Fields → Prop where
  | named {before after : List (String × Json)} {key : String} {value value' : Json}
      (named : key ∈ slot.names) (related : R value value') :
    Fields.Differ slot R (.named (before ++ (key, value) :: after))
      (.named (before ++ (key, value') :: after))
  | listed {before after : List Json} {value value' : Json}
      (placed : before.length = slot.place) (related : R value value') :
    Fields.Differ slot R (.listed (before ++ value :: after)) (.listed (before ++ value' :: after))

def Slot.Apart (slot other : Slot) : Prop :=
  (∀ name ∈ slot.names, name ∉ other.names) ∧ slot.place ≠ other.place

instance (slot other : Slot) : Decidable (slot.Apart other) :=
  inferInstanceAs (Decidable (_ ∧ _))

variable {slot other : Slot} {R : Json → Json → Prop} {j j' : Json} {fields fields' : Fields}
  {α β : Type} {read : Json → Decoded α}

theorem Differ.ne_null (h : Differ slot R j j') : j ≠ .null ∧ j' ≠ .null := by
  cases h <;> exact ⟨nofun, nofun⟩

theorem Differ.asFields (h : Differ slot R j j') (what : String) (width : Nat) :
    Alike (Fields.Differ slot R) (j.asFields what width) (j'.asFields what width) := by
  cases h with
  | member named related => exact .ok (.named named related)
  | @item before after value value' placed related =>
    have same : (before ++ value' :: after).length = (before ++ value :: after).length := by simp
    rw [Json.asFields, Json.asFields, same]
    split
    · exact .error _
    · exact .ok (.listed placed related)

namespace Fields

theorem get?_named (members : List (String × Json)) (slot : Slot) :
    (named members).get? slot = match slot.among members with
      | [] => .ok none
      | [(_, value)] => .ok (some value)
      | _ => .error (.duplicate slot.name) := rfl

namespace Differ

/-- A field is looked up in one record as in the other, and found in both. -/
theorem get? (h : Differ slot R fields fields') :
    Alike (fun found found' =>
      ∃ value value', found = some value ∧ found' = some value' ∧ R value value')
      (fields.get? slot) (fields'.get? slot) := by
  cases h with
  | @named before after key value value' named related =>
    rw [get?_named, get?_named, among_append, among_append, among_cons, among_cons, if_pos named,
      if_pos named]
    -- another member of that name, before or after, makes the record a faulty one
    rcases slot.among before with _ | ⟨_, _ | _⟩
    · rcases slot.among after with _ | _
      · exact .ok ⟨value, value', rfl, rfl, related⟩
      · exact .error _
    · exact .error _
    · exact .error _
  | @listed before after value value' placed related =>
    have found (value : Json) : (before ++ value :: after)[slot.place]? = some value := by
      rw [← placed]
      simp
    rw [Fields.get?, Fields.get?, found, found]
    exact .ok ⟨value, value', rfl, rfl, related⟩

theorem get?_of_apart (h : Differ slot R fields fields') (apart : slot.Apart other) :
    fields.get? other = fields'.get? other := by
  cases h with
  | @named before after key value value' named related =>
    have foreign := apart.1 key named
    rw [get?_named, get?_named, among_append, among_append, among_cons, among_cons,
      if_neg foreign, if_neg foreign]
  | @listed before after value value' placed related =>
    have elsewhere : other.place ≠ before.length := placed ▸ apart.2.symm
    have same : (before ++ value :: after)[other.place]? =
        (before ++ value' :: after)[other.place]? := by
      rw [List.getElem?_append, List.getElem?_append, List.getElem?_cons, List.getElem?_cons]
      have later (h : ¬ other.place < before.length) : other.place - before.length ≠ 0 := by omega
      split
      · rfl
      · rename_i beyond
        rw [if_neg (later beyond), if_neg (later beyond)]
    rw [Fields.get?, Fields.get?, same]

theorem required_of_apart (h : Differ slot R fields fields') (apart : slot.Apart other) :
    fields.required other read = fields'.required other read := by
  rw [required, required, h.get?_of_apart apart]

theorem withDefault_of_apart (h : Differ slot R fields fields') (apart : slot.Apart other)
    (default : α) :
    fields.withDefault other default read = fields'.withDefault other default read := by
  rw [withDefault, withDefault, h.get?_of_apart apart]

theorem optional_of_apart (h : Differ slot R fields fields') (apart : slot.Apart other) :
    fields.optional other read = fields'.optional other read := by
  rw [optional, optional, h.get?_of_apart apart]
  cases h with
  | named => exact congrArg (bind _) (funext fun found => by cases found <;> rfl)
  | listed => exact congrArg (bind _) (funext fun found => by cases found <;> rfl)

variable {R' : α → α → Prop}

theorem required (h : Differ slot R fields fields')
    (each : ∀ value value', R value value' → Alike R' (read value) (read value')) :
    Alike R' (fields.required slot read) (fields'.required slot read) := by
  apply h.get?.bind
  rintro _ _ ⟨value, value', rfl, rfl, related⟩
  exact each value value' related

theorem withDefault (h : Differ slot R fields fields') (default : α)
    (each : ∀ value value', R value value' → Alike R' (read value) (read value')) :
    Alike R' (fields.withDefault slot default read) (fields'.withDefault slot default read) := by
  apply h.get?.bind
  rintro _ _ ⟨value, value', rfl, rfl, related⟩
  exact each value value' related

end Differ

end Fields

/-- Two lists of equal length, whose items are the same or related. -/
inductive Pointwise (R : Json → Json → Prop) : Json → Json → Prop where
  | arr {items items' : List Json}
      (each : List.Forall₂ (fun item item' => item = item' ∨ R item item') items items') :
    Pointwise R (.arr items) (.arr items')

theorem Pointwise.ne_null (h : Pointwise R j j') : j ≠ .null ∧ j' ≠ .null := by
  cases h
  exact ⟨nofun, nofun⟩

/-- Where what is read of related items is shown alike, so is what is read of the lists. -/
theorem Pointwise.asList {shown : α → β} (h : Pointwise R j j')
    (each : ∀ item item', R item item' →
      Alike (fun a a' => shown a = shown a') (read item) (read item')) :
    Alike (fun list list' => list.map shown = list'.map shown) (j.asList read) (j'.asList read) := by
  obtain @⟨items, items', related⟩ := h
  have read : Alike (List.Forall₂ fun a a' => shown a = shown a') (items.mapM read)
      (items'.mapM read) := by
    apply Alike.mapM related
    rintro item item' (rfl | related)
    · exact (Alike.refl _).imp fun a a' same => congrArg shown same
    · exact each item item' related
  refine read.imp fun list list' same => ?_
  induction same with
  | nil => rfl
  | cons first _ ih => rw [List.map_cons, List.map_cons, first, ih]

end PageWalk.Json
