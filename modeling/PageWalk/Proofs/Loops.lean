import PageWalk.Run.Execution

/-!
# Laws of loops

A loop goes on as long as its body works, and its result is that of the last pass through the body.
Hence a loop within a loop is one loop of as many passes in all, and a loop can be cut in two where the
second part is entered only if the first has worked.
-/

namespace PageWalk

set_option autoImplicit false

/-- On every page two programs make the same calls in the same order, end alike and leave it alike. -/
def PageProgram.SameRuns {α : Type} (p q : PageProgram α) : Prop :=
  ∀ {σ : Type} (page : Page σ) (s : σ),
    p.run page s = q.run page s ∧ p.asked page s = q.asked page s

/-- Goes on with a second program only if the first one worked. -/
def ifWorked (p q : PageProgram Result) : PageProgram Result := do
  let result ← p
  if result.isSuccess then q else pure result

theorem PageProgram.sameRuns_of_eq {α : Type} {p q : PageProgram α} (h : p = q) : p.SameRuns q := by
  intro σ page s
  rw [h]
  exact ⟨rfl, rfl⟩

section Passes

variable (p : PageProgram Result)

theorem repeated_zero (last : Result) : repeated p 0 last = .done last := rfl

theorem repeated_succ (n : Nat) (last : Result) :
    repeated p (n + 1) last =
      p.bind fun result => if result.isSuccess then repeated p n result else .done result := rfl

/-- What came before a loop does not matter to it, if it passes through its body at all. -/
theorem repeated_eq_of_pos {n : Nat} (some : 0 < n) (last last' : Result) :
    repeated p n last = repeated p n last' := by
  obtain ⟨k, rfl⟩ := Nat.exists_eq_add_of_lt some
  rw [Nat.zero_add, repeated_succ, repeated_succ]

theorem repeated_one (last : Result) : repeated p 1 last = p := by
  have ends : (fun result : Result =>
      if result.isSuccess then repeated p 0 result else .done result) = Program.done := by
    funext result
    rw [repeated_zero, ite_self]
  rw [repeated_succ, ends, Program.bind_done]

theorem repeated_add (m n : Nat) (locator : Option String) :
    repeated p (m + n) (.success locator) =
      (repeated p m (.success locator)).bind fun result =>
        if result.isSuccess then repeated p n result else .done result := by
  induction m generalizing locator with
  | zero =>
    rw [Nat.zero_add]
    rfl
  | succ m ih =>
    rw [Nat.add_right_comm, repeated_succ, repeated_succ, Program.bind_assoc]
    refine congrArg p.bind (funext fun result => ?_)
    cases result with
    | success found => exact ih found
    | failure error => rfl

theorem repeated_empty (m : Nat) :
    repeated (.done (.success none)) m (.success none) = .done (.success none) := by
  induction m with
  | zero => rfl
  | succ m ih => exact ih

theorem repeated_mul_of_pos {n : Nat} (some : 0 < n) (m : Nat) (locator : Option String) :
    repeated (repeated p n (.success none)) m (.success locator) =
      repeated p (m * n) (.success locator) := by
  induction m generalizing locator with
  | zero =>
    rw [Nat.zero_mul]
    rfl
  | succ m ih =>
    have first : repeated p n (.success locator) = repeated p n (.success none) :=
      repeated_eq_of_pos p some _ _
    rw [Nat.succ_mul, Nat.add_comm (m * n), repeated_succ, repeated_add, first]
    refine congrArg (Program.bind _) (funext fun result => ?_)
    cases result with
    | success found => exact ih found
    | failure error => rfl

theorem repeated_mul (m n : Nat) :
    repeated (repeated p n (.success none)) m (.success none) =
      repeated p (m * n) (.success none) := by
  rcases Nat.eq_zero_or_pos n with rfl | some
  · exact repeated_empty m
  · exact repeated_mul_of_pos p some m none

end Passes

namespace Action

variable (a : Action)

theorem execute_loop (count : UInt32) :
    (loop count a).execute = repeated a.execute count.toNat (.success none) := rfl

theorem execute_loop_loop {m n : UInt32} (fits : m.toNat * n.toNat < UInt32.size) :
    (loop m (loop n a)).execute = (loop (m * n) a).execute := by
  have passes : (m * n).toNat = m.toNat * n.toNat := by
    rw [UInt32.toNat_mul]
    exact Nat.mod_eq_of_lt fits
  rw [execute_loop, execute_loop, execute_loop, passes, repeated_mul]

theorem execute_loop_add {m n : UInt32} (some : 1 ≤ n)
    (fits : m.toNat + n.toNat < UInt32.size) :
    (loop (m + n) a).execute = ifWorked (loop m a).execute (loop n a).execute := by
  have passes : (m + n).toNat = m.toNat + n.toNat := by
    rw [UInt32.toNat_add]
    exact Nat.mod_eq_of_lt fits
  rw [execute_loop, execute_loop, execute_loop, passes, repeated_add, ifWorked]
  refine congrArg (Program.bind _) (funext fun result => ?_)
  rw [repeated_eq_of_pos a.execute (n := n.toNat) some result (.success none)]
  rfl

theorem execute_loop_one : (loop 1 a).execute = a.execute :=
  repeated_one a.execute (.success none)

/-- Loops multiply when they are nested and add up when they follow each other; a single pass is no loop. -/
theorem loop_laws :
    (∀ m n : UInt32, m.toNat * n.toNat < UInt32.size →
      (loop m (loop n a)).execute.SameRuns (loop (m * n) a).execute) ∧
    (∀ m n : UInt32, 1 ≤ n → m.toNat + n.toNat < UInt32.size →
      (loop (m + n) a).execute.SameRuns (ifWorked (loop m a).execute (loop n a).execute)) ∧
    (loop 1 a).execute.SameRuns a.execute := by
  refine ⟨fun m n fits => ?_, fun m n some fits => ?_, ?_⟩
  · exact PageProgram.sameRuns_of_eq (a.execute_loop_loop fits)
  · exact PageProgram.sameRuns_of_eq (a.execute_loop_add some fits)
  · exact PageProgram.sameRuns_of_eq a.execute_loop_one

/-- Counts whose product is the largest one there is, and a loop of no passes before another. -/
theorem loop_laws_largest :
    (65535 : UInt32).toNat * (65537 : UInt32).toNat < UInt32.size ∧
      (loop 65535 (loop 65537 (click "#more"))).execute.SameRuns
        (loop 4294967295 (click "#more")).execute ∧
      (1 : UInt32) ≤ 4294967295 ∧ (0 : UInt32).toNat + (4294967295 : UInt32).toNat < UInt32.size ∧
      (loop 4294967295 (click "#more")).execute.SameRuns
        (ifWorked (loop 0 (click "#more")).execute (loop 4294967295 (click "#more")).execute) := by
  have product : (65535 : UInt32).toNat * (65537 : UInt32).toNat < UInt32.size := by decide
  have sum : (0 : UInt32).toNat + (4294967295 : UInt32).toNat < UInt32.size := by decide
  have some : (1 : UInt32) ≤ 4294967295 := by decide
  obtain ⟨nested, split, -⟩ := (click "#more").loop_laws
  exact ⟨product, nested 65535 65537 product, some, sum, split 0 4294967295 some sum⟩

end Action

end PageWalk
