import PageWalk.Proofs.JsonText

/-!
# What is read from a text

A numeral is read as an integer only within the bounds, and else as a floating-point number, so every
integer in a value that was read is within the bounds, and without floating-point numbers such a value
is written exactly.
-/

namespace PageWalk.Json

set_option autoImplicit false

/-- A number is within the bounds, if it is an integer. -/
def Bounded : Json → Prop
  | int n => InRange n
  | _ => True

/-- What is readable, within the bounds and without floating-point numbers is exact. -/
theorem exact_of_readable {v : Json} (readable : v.readable = true) (bounded : v.Every Bounded)
    (free : v.FloatFree) : v.Exact := by
  refine (((readable_iff.mp readable).and bounded).and free).imp ?_
  rintro v single ⟨⟨written, bounded⟩, free⟩
  cases v with
  | int n => exact bounded
  | float x => exact absurd rfl (free x)
  | arr => simp [depth] at single
  | obj => simp [depth] at single
  | unreadable => exact absurd rfl written
  | _ => trivial

theorem gather_le (digits : List Char) {n : Nat} (fits : n ≤ maxSignificand) :
    (gather n digits).1 ≤ maxSignificand := by
  induction digits generalizing n with
  | nil => exact fits
  | cons d digits ih =>
    rw [gather]
    split_ifs with more
    · exact ih more
    · exact fits

/-- A token whose value has no parts and is within the bounds. -/
def Token.Bounded (token : Token) : Prop :=
  ∀ v, token = .scalar v → v.depth = 0 ∧ v.Bounded

theorem Numeral.bounded_scaled (n : Numeral) (significand : Nat) (shift : Int) :
    (Numeral.value.scaled n significand shift).depth = 0 ∧
      (Numeral.value.scaled n significand shift).Bounded := by
  unfold Numeral.value.scaled
  split <;> exact ⟨rfl, trivial⟩

theorem Numeral.bounded_value (n : Numeral) : n.value.depth = 0 ∧ n.value.Bounded := by
  have fits : (gather 0 n.whole).1 ≤ maxSignificand := gather_le n.whole (Nat.zero_le _)
  unfold maxSignificand at fits
  unfold Numeral.value
  dsimp only
  split_ifs with integer positive small
  · refine ⟨rfl, ?_, ?_⟩ <;> omega
  · refine ⟨rfl, ?_, ?_⟩ <;> omega
  · exact ⟨rfl, trivial⟩
  · split
    · exact bounded_scaled n _ _
    · split_ifs
      · exact ⟨rfl, trivial⟩
      · exact ⟨rfl, trivial⟩
      · exact bounded_scaled n _ _
      · exact bounded_scaled n _ _

theorem bounded_readScalar {c : Char} {s rest : List Char} {token : Token}
    (h : readScalar c s = some (token, rest)) : token.Bounded := by
  have single : ∀ v, v.depth = 0 → v.Bounded → (Token.scalar v).Bounded := by
    rintro v single bounded _ ⟨⟩
    exact ⟨single, bounded⟩
  unfold readScalar readString at h
  split_ifs at h with quote t f null
  · split at h
    · cases h
      exact single _ rfl trivial
    · obtain ⟨_, -, same⟩ := Option.map_eq_some_iff.mp h
      cases same
      nofun
  · obtain ⟨_, -, same⟩ := Option.map_eq_some_iff.mp h
    cases same
    exact single _ rfl trivial
  · obtain ⟨_, -, same⟩ := Option.map_eq_some_iff.mp h
    cases same
    exact single _ rfl trivial
  · obtain ⟨_, -, same⟩ := Option.map_eq_some_iff.mp h
    cases same
    exact single _ rfl trivial
  · obtain ⟨⟨numeral, _⟩, -, same⟩ := Option.map_eq_some_iff.mp h
    cases same
    exact single _ numeral.bounded_value.1 numeral.bounded_value.2

theorem bounded_mark {c : Char} {token : Token} (h : mark? c = some token) : token.Bounded := by
  rintro v rfl
  unfold mark? at h
  split_ifs at h <;> cases h

theorem bounded_tokens {s : List Char} {all : List Token} (h : tokens s = some all) :
    ∀ token ∈ all, token.Bounded := by
  fun_induction tokens s generalizing all with
  | case1 =>
    cases h
    simp
  | case2 c rest gap ih => exact ih h
  | case3 c rest gap token mark ih =>
    obtain ⟨later, read, rfl⟩ := Option.map_eq_some_iff.mp h
    exact List.forall_mem_cons.mpr ⟨bounded_mark mark, ih read⟩
  | case4 => cases h
  | case5 c rest gap mark token behind scalar ih =>
    obtain ⟨later, read, rfl⟩ := Option.map_eq_some_iff.mp h
    exact List.forall_mem_cons.mpr ⟨bounded_readScalar scalar, ih read⟩

/-- The parts of a frame are within the bounds. -/
def Frame.Bounded : Frame → Prop
  | array items => ∀ item ∈ items, item.Every Json.Bounded
  | object members _ => ∀ m ∈ members, m.2.Every Json.Bounded

def State.Bounded : State → Prop
  | value stack | itemOrEnd stack | keyOrEnd stack => ∀ frame ∈ stack, frame.Bounded
  | key members stack | colon members _ stack =>
    (∀ m ∈ members, m.2.Every Json.Bounded) ∧ ∀ frame ∈ stack, frame.Bounded
  | after v stack => v.Every Json.Bounded ∧ ∀ frame ∈ stack, frame.Bounded

theorem bounded_startValue {stack : List Frame} {token : Token} {state : State}
    (frames : ∀ frame ∈ stack, frame.Bounded) (bounded : token.Bounded)
    (h : startValue stack token = some state) : state.Bounded := by
  cases token with
  | scalar v =>
    cases h
    obtain ⟨single, within⟩ := bounded v rfl
    exact ⟨.leaf single within, frames⟩
  | broken =>
    cases h
    exact ⟨.leaf rfl trivial, frames⟩
  | arrayStart | objectStart =>
    cases h
    exact frames
  | arrayEnd | objectEnd | comma | colon => cases h

theorem exists_of_mem_mapM {α β : Type} {f : α → Option β} {list : List α} {results : List β}
    (h : list.mapM f = some results) : ∀ b ∈ results, ∃ a ∈ list, f a = some b := by
  induction list generalizing results with
  | nil =>
    cases h
    simp
  | cons a list ih =>
    rw [List.mapM_cons] at h
    obtain ⟨first, of_first, h⟩ := Option.bind_eq_some_iff.mp h
    obtain ⟨later, of_later, h⟩ := Option.bind_eq_some_iff.mp h
    cases h
    refine List.forall_mem_cons.mpr ⟨⟨a, List.mem_cons_self, of_first⟩, fun b there => ?_⟩
    obtain ⟨source, mem, of_source⟩ := ih of_later b there
    exact ⟨source, List.mem_cons_of_mem _ mem, of_source⟩

theorem bounded_ofMembers {members : List (Option String × Json)}
    (all : ∀ m ∈ members, m.2.Every Bounded) : (ofMembers members).Every Bounded := by
  unfold ofMembers
  split
  · next named read =>
    refine .obj fun m there => ?_
    obtain ⟨source, mem, named⟩ := exists_of_mem_mapM read m there
    obtain ⟨_, -, rfl⟩ := Option.map_eq_some_iff.mp named
    exact all source (List.mem_reverse.mp mem)
  · exact .leaf rfl trivial

/-- Every part that is complete stays within the bounds. -/
theorem State.bounded_step {state next : State} {token : Token} (before : state.Bounded)
    (bounded : token.Bounded) (h : state.step token = some next) : next.Bounded := by
  unfold State.step at h
  split at h
  · exact bounded_startValue before bounded h
  · cases h
    exact ⟨.arr (by simp), before⟩
  · refine bounded_startValue ?_ bounded h
    exact List.forall_mem_cons.mpr ⟨by simp [Frame.Bounded], before⟩
  · cases h
    exact ⟨.obj (by simp), before⟩
  · obtain ⟨_, -, rfl⟩ := Option.map_eq_some_iff.mp h
    exact ⟨by simp, before⟩
  · obtain ⟨_, -, rfl⟩ := Option.map_eq_some_iff.mp h
    exact before
  · cases h
    exact List.forall_mem_cons.mpr before
  · cases h
    obtain ⟨item, frames⟩ := before
    obtain ⟨items, frames⟩ := List.forall_mem_cons.mp frames
    exact List.forall_mem_cons.mpr ⟨List.forall_mem_cons.mpr ⟨item, items⟩, frames⟩
  · cases h
    obtain ⟨item, frames⟩ := before
    obtain ⟨items, frames⟩ := List.forall_mem_cons.mp frames
    refine ⟨.arr fun part there => ?_, frames⟩
    exact List.forall_mem_cons.mpr ⟨item, items⟩ part (List.mem_reverse.mp there)
  · cases h
    obtain ⟨value, frames⟩ := before
    obtain ⟨members, frames⟩ := List.forall_mem_cons.mp frames
    exact ⟨List.forall_mem_cons.mpr ⟨value, members⟩, frames⟩
  · cases h
    obtain ⟨value, frames⟩ := before
    obtain ⟨members, frames⟩ := List.forall_mem_cons.mp frames
    exact ⟨bounded_ofMembers (List.forall_mem_cons.mpr ⟨value, members⟩), frames⟩
  · cases h

theorem State.bounded_foldlM {tokens : List Token} (all : ∀ token ∈ tokens, token.Bounded)
    {state last : State} (before : state.Bounded) (h : tokens.foldlM State.step state = some last) :
    last.Bounded := by
  induction tokens generalizing state with
  | nil =>
    cases h
    exact before
  | cons token tokens ih =>
    obtain ⟨first, later⟩ := List.forall_mem_cons.mp all
    rw [List.foldlM_cons] at h
    obtain ⟨next, step, h⟩ := Option.bind_eq_some_iff.mp h
    exact ih later (State.bounded_step before first step) h

/-- The integers of a text that is read are within the bounds. -/
theorem bounded_of_read? {s : String} {v : Json} (h : read? s = some v) : v.Every Bounded := by
  unfold read? readChars at h
  obtain ⟨tokens, split, h⟩ := Option.bind_eq_some_iff.mp h
  obtain ⟨last, fold, result⟩ := Option.bind_eq_some_iff.mp h
  have start : (State.value []).Bounded := List.forall_mem_nil _
  have bounded : last.Bounded := State.bounded_foldlM (bounded_tokens split) start fold
  unfold State.result? at result
  split at result
  · cases result
    exact bounded.1
  · cases result

end PageWalk.Json
