import PageWalk.Json.Basic
import Mathlib.Data.List.Induction
import Mathlib.Tactic.SplitIfs

/-!
# Parts of JSON values

`Every` says something of all the values inside a value that have no parts of their own, and carries
the induction over values. The normal form keeps these parts, is no deeper, sorts the members of each
object and is its own normal form.
-/

namespace PageWalk.Json

set_option autoImplicit false

/-- Every part that has no parts of its own satisfies a condition. -/
inductive Every (p : Json → Prop) : Json → Prop where
  | leaf {v : Json} (single : v.depth = 0) (holds : p v) : Every p v
  | arr {items : List Json} (all : ∀ item ∈ items, Every p item) : Every p (arr items)
  | obj {members : List (String × Json)} (all : ∀ m ∈ members, Every p m.2) : Every p (obj members)

section Parts

variable {p q : Json → Prop} {v : Json} {items : List Json} {members : List (String × Json)}

theorem Every.of_arr (h : (Json.arr items).Every p) : ∀ item ∈ items, item.Every p := by
  cases h with
  | leaf single => simp [depth] at single
  | arr all => exact all

theorem Every.of_obj (h : (Json.obj members).Every p) : ∀ m ∈ members, m.2.Every p := by
  cases h with
  | leaf single => simp [depth] at single
  | obj all => exact all

theorem Every.imp (h : v.Every p) (imp : ∀ v, v.depth = 0 → p v → q v) : v.Every q := by
  induction h with
  | leaf single holds => exact .leaf single (imp _ single holds)
  | arr _ all => exact .arr all
  | obj _ all => exact .obj all

theorem Every.and (first : v.Every p) (second : v.Every q) : v.Every fun v => p v ∧ q v := by
  induction first with
  | leaf single holds =>
    cases second with
    | leaf _ also => exact .leaf single ⟨holds, also⟩
    | arr => simp [depth] at single
    | obj => simp [depth] at single
  | arr _ all => exact .arr fun item there => all item there (second.of_arr item there)
  | obj _ all => exact .obj fun m there => all m there (second.of_obj m there)

theorem parts : (v : Json) → v.Every fun _ => True
  | .arr items => .arr fun item _ => parts item
  | .obj members => .obj fun m _ => parts m.2
  | .null | .bool _ | .int _ | .float _ | .str _ | .unreadable => .leaf rfl trivial
decreasing_by
  · have smaller := List.sizeOf_lt_of_mem ‹item ∈ items›
    simp only [arr.sizeOf_spec]
    omega
  · have smaller := List.sizeOf_lt_of_mem ‹m ∈ members›
    obtain ⟨key, value⟩ := m
    simp only [Prod.mk.sizeOf_spec, obj.sizeOf_spec] at smaller ⊢
    omega

theorem depthItems_le_iff {n : Nat} : depthItems items ≤ n ↔ ∀ item ∈ items, item.depth ≤ n := by
  induction items with
  | nil => simp [depthItems]
  | cons item items ih => rw [depthItems, Nat.max_le, ih, List.forall_mem_cons]

theorem depthMembers_le_iff {n : Nat} :
    depthMembers members ≤ n ↔ ∀ m ∈ members, m.2.depth ≤ n := by
  induction members with
  | nil => simp [depthMembers]
  | cons m members ih => rw [depthMembers, Nat.max_le, ih, List.forall_mem_cons]

theorem readableItems_iff : readableItems items = true ↔ ∀ item ∈ items, item.readable = true := by
  induction items with
  | nil => simp [readableItems]
  | cons item items ih => simp [readableItems, ih]

theorem readableMembers_iff :
    readableMembers members = true ↔ ∀ m ∈ members, m.2.readable = true := by
  induction members with
  | nil => simp [readableMembers]
  | cons m members ih => simp [readableMembers, ih]

theorem readable_iff : v.readable = true ↔ v.Every (· ≠ unreadable) := by
  constructor
  · intro readable
    induction v.parts with
    | @leaf v single =>
      refine .leaf single ?_
      rintro rfl
      simp [Json.readable] at readable
    | arr _ all =>
      rw [Json.readable, readableItems_iff] at readable
      exact .arr fun item there => all item there (readable item there)
    | obj _ all =>
      rw [Json.readable, readableMembers_iff] at readable
      exact .obj fun m there => all m there (readable m there)
  · intro every
    induction every with
    | @leaf v single readable =>
      cases v with
      | arr => simp [depth] at single
      | obj => simp [depth] at single
      | unreadable => exact absurd rfl readable
      | _ => rfl
    | arr _ all => rw [Json.readable, readableItems_iff]; exact all
    | obj _ all => rw [Json.readable, readableMembers_iff]; exact all

/-- A value without floating-point numbers. -/
def FloatFree (v : Json) : Prop :=
  v.Every fun part => ∀ x, part ≠ float x

end Parts

/-! ## Sorted members -/

section Members

variable {α : Type} {key : String} {value : α} {members sorted : List (String × α)}

/-- Members in the order of their keys, each key once. -/
def Sorted (members : List (String × α)) : Prop :=
  members.Pairwise fun a b => a.1 < b.1

theorem mem_setMember {m : String × α} (h : m ∈ setMember key value members) :
    m = (key, value) ∨ m ∈ members := by
  induction members with
  | nil => exact .inl (List.mem_singleton.mp h)
  | cons first members ih =>
    rw [setMember] at h
    split_ifs at h with same before
    · rcases List.mem_cons.mp h with rfl | there
      · exact .inl rfl
      · exact .inr (List.mem_cons_of_mem _ there)
    · exact List.mem_cons.mp h
    · rcases List.mem_cons.mp h with rfl | there
      · exact .inr List.mem_cons_self
      · exact (ih there).imp_right (List.mem_cons_of_mem _)

theorem Sorted.setMember (h : Sorted members) : Sorted (setMember key value members) := by
  induction members with
  | nil => exact List.pairwise_singleton _ _
  | cons first members ih =>
    obtain ⟨least, h⟩ := List.pairwise_cons.mp h
    rw [Json.setMember]
    split_ifs with same before
    · exact List.pairwise_cons.mpr ⟨fun m there => same ▸ least m there, h⟩
    · refine List.pairwise_cons.mpr ⟨fun m there => ?_, List.pairwise_cons.mpr ⟨least, h⟩⟩
      rcases List.mem_cons.mp there with rfl | there
      · exact before
      · exact String.lt_trans before (least m there)
    · have after : first.1 < key := by
        apply String.not_le.mp
        intro le
        exact same (String.le_antisymm le (String.not_lt.mp before))
      refine List.pairwise_cons.mpr ⟨fun m there => ?_, ih h⟩
      rcases mem_setMember there with rfl | there
      · exact after
      · exact least m there

theorem setMember_of_last (last : ∀ m ∈ members, m.1 < key) :
    setMember key value members = members ++ [(key, value)] := by
  induction members with
  | nil => rfl
  | cons first members ih =>
    have after : first.1 < key := last first List.mem_cons_self
    have other : key ≠ first.1 := by
      rintro rfl
      exact String.lt_irrefl _ after
    rw [setMember, if_neg other, if_neg (String.lt_asymm after),
      ih fun m there => last m (List.mem_cons_of_mem _ there)]
    rfl

theorem sortMembers_concat (members : List (String × α)) (m : String × α) :
    sortMembers (members ++ [m]) = setMember m.1 m.2 (sortMembers members) := by
  simp [sortMembers]

theorem sorted_sortMembers (members : List (String × α)) : Sorted (sortMembers members) := by
  induction members using List.reverseRecOn with
  | nil => exact .nil
  | append_singleton members m ih =>
    rw [sortMembers_concat]
    exact ih.setMember

theorem mem_of_mem_sortMembers {m : String × α} (h : m ∈ sortMembers members) : m ∈ members := by
  induction members using List.reverseRecOn with
  | nil => exact h
  | append_singleton members last ih =>
    rw [sortMembers_concat] at h
    rcases mem_setMember h with rfl | there
    · exact List.mem_append_right _ List.mem_cons_self
    · exact List.mem_append_left _ (ih there)

theorem Sorted.sortMembers_eq (h : Sorted members) : sortMembers members = members := by
  induction members using List.reverseRecOn with
  | nil => rfl
  | append_singleton members last ih =>
    obtain ⟨before, -, below⟩ := List.pairwise_append.mp h
    rw [sortMembers_concat, ih before,
      setMember_of_last fun m there => below m there last List.mem_cons_self]

end Members

/-! ## Normal forms -/

theorem normalItems_eq (items : List Json) : normalItems items = items.map normal := by
  induction items with
  | nil => rfl
  | cons item items ih => rw [normalItems, ih, List.map_cons]

theorem normalMembers_eq (members : List (String × Json)) :
    normalMembers members = members.map fun (key, value) => (key, value.normal) := by
  induction members with
  | nil => rfl
  | cons m members ih => rw [normalMembers, ih, List.map_cons]

theorem exists_of_mem_normal {members : List (String × Json)} {m : String × Json}
    (h : m ∈ sortMembers (normalMembers members)) :
    ∃ value, (m.1, value) ∈ members ∧ m.2 = value.normal := by
  rw [normalMembers_eq] at h
  obtain ⟨⟨key, value⟩, there, rfl⟩ := List.mem_map.mp (mem_of_mem_sortMembers h)
  exact ⟨value, there, rfl⟩

theorem normal_of_depth {v : Json} (single : v.depth = 0) : v.normal = v := by
  cases v with
  | arr => simp [depth] at single
  | obj => simp [depth] at single
  | _ => rfl

theorem Every.normal {p : Json → Prop} {v : Json} (h : v.Every p) : v.normal.Every p := by
  induction h with
  | leaf single holds => rw [normal_of_depth single]; exact .leaf single holds
  | arr _ all =>
    rw [Json.normal, normalItems_eq]
    refine .arr fun item there => ?_
    obtain ⟨source, of, rfl⟩ := List.mem_map.mp there
    exact all source of
  | obj _ all =>
    rw [Json.normal]
    refine .obj fun m there => ?_
    obtain ⟨value, there, same⟩ := exists_of_mem_normal there
    rw [same]
    exact all _ there

theorem depth_normal_le (v : Json) : v.normal.depth ≤ v.depth := by
  induction v.parts with
  | leaf single => exact Nat.le_of_eq (congrArg depth (normal_of_depth single))
  | arr _ all =>
    rw [normal, depth, depth, normalItems_eq, Nat.succ_le_succ_iff, depthItems_le_iff]
    intro item there
    obtain ⟨source, of, rfl⟩ := List.mem_map.mp there
    exact Nat.le_trans (all source of) (depthItems_le_iff.mp (Nat.le_refl _) source of)
  | obj _ all =>
    rw [normal, depth, depth, Nat.succ_le_succ_iff, depthMembers_le_iff]
    intro m there
    obtain ⟨value, there, same⟩ := exists_of_mem_normal there
    rw [same]
    exact Nat.le_trans (all _ there) (depthMembers_le_iff.mp (Nat.le_refl _) _ there)

theorem normal_normal (v : Json) : v.normal.normal = v.normal := by
  induction v.parts with
  | leaf single => rw [normal_of_depth single, normal_of_depth single]
  | arr _ all =>
    rw [normal, normal, normalItems_eq, normalItems_eq, List.map_map]
    exact congrArg arr (List.map_congr_left all)
  | @obj members _ all =>
    have kept : normalMembers (sortMembers (normalMembers members)) =
        sortMembers (normalMembers members) := by
      rw [normalMembers_eq]
      refine (List.map_congr_left fun m there => ?_).trans (List.map_id _)
      obtain ⟨value, there, same⟩ := exists_of_mem_normal there
      have kept : m.2.normal = m.2 := by rw [same]; exact all _ there
      exact Prod.ext rfl kept
    rw [normal, normal, kept, (sorted_sortMembers _).sortMembers_eq]

end PageWalk.Json
