import PageWalk.Cli.Browse
import PageWalk.World.FileTree

/-!
# Runs on a machine

A machine is a tree of files, a console and a browser driver side by side. A part of a command that
works with one of them leaves the others as they are, and a page that is driven over the wire is a page.
-/

namespace PageWalk

set_option autoImplicit false

namespace Program

variable {S T : Signature} {α β ε : Type} {σ : Type} {world : Responder S σ} {s last : σ}

/-- Questions that are answered by programs are answered by the runs of these. -/
theorem run_through {τ : Type} (answer : (q : S.Ask) → Program T (S.Answer q)) (world : Responder T τ)
    (p : Program S α) (t : τ) :
    (p.through answer).run world t = p.run (fun q t => (answer q).run world t) t := by
  induction p generalizing t with
  | done a => rfl
  | ask q next ih =>
    rw [through, run_bind]
    exact ih _ _

/-- What goes on only after a success succeeds just when the rest succeeds after a success. -/
theorem run_bind_eq_ok_iff {step : Program S (Except ε α)}
    {next : Except ε α → Program S (Except ε β)} {b : β}
    (failed : ∀ e, next (.error e) = .done (.error e)) :
    (step.bind next).run world s = (.ok b, last) ↔
      ∃ a t, step.run world s = (.ok a, t) ∧ (next (.ok a)).run world t = (.ok b, last) := by
  rw [run_bind]
  rcases step.run world s with ⟨e | a, t⟩
  · rw [failed]
    constructor
    · intro h
      cases h
    · rintro ⟨a, t, first, -⟩
      cases first
  · constructor
    · exact fun h => ⟨a, t, rfl, h⟩
    · rintro ⟨a, t, first, later⟩
      cases first
      exact later

theorem run_bind_eq_error {step : Program S (Except ε α)}
    {next : Except ε α → Program S (Except ε β)} {e : ε}
    (h : (step.bind next).run world s = (.error e, last))
    (failed : ∀ e, next (.error e) = .done (.error e)) :
    step.run world s = (.error e, last) ∨
      ∃ a t, step.run world s = (.ok a, t) ∧ (next (.ok a)).run world t = (.error e, last) := by
  rw [run_bind] at h
  rcases ran : step.run world s with ⟨e | a, t⟩ <;> rw [ran] at h
  · rw [failed] at h
    cases h
    exact .inl rfl
  · exact .inr ⟨a, t, rfl, h⟩

end Program

namespace Machine

section Parts

variable {τ ω α : Type}

/-- A machine with a console and a browser driver. -/
abbrev world (console : Responder consoleSignature τ) (driver : Responder wireSignature ω) :
    Responder machineSignature ((FileTree × τ) × ω) :=
  (FileTree.respond.beside console).beside driver

variable (console : Responder consoleSignature τ) (driver : Responder wireSignature ω)

theorem run_desk (p : DeskProgram α) (d : FileTree × τ) (w : ω) :
    (desk p).run (world console driver) (d, w) =
      ((p.run (FileTree.respond.beside console) d).1,
        ((p.run (FileTree.respond.beside console) d).2, w)) :=
  Program.run_left _ driver p d w

theorem run_files (p : FileProgram α) (tree : FileTree) (c : τ) (w : ω) :
    (files p).run (world console driver) ((tree, c), w) =
      ((p.run FileTree.respond tree).1, (((p.run FileTree.respond tree).2, c), w)) := by
  have first : (Desk.files p).run (FileTree.respond.beside console) (tree, c) = _ :=
    Program.run_left FileTree.respond console p tree c
  rw [files, run_desk, first]

theorem run_console (p : ConsoleProgram α) (tree : FileTree) (c : τ) (w : ω) :
    (desk p.right).run (world console driver) ((tree, c), w) =
      ((p.run console c).1, ((tree, (p.run console c).2), w)) := by
  have second : Program.run (FileTree.respond.beside console) p.right (tree, c) = _ :=
    Program.run_right FileTree.respond console p tree c
  have whole := run_desk console driver p.right (tree, c) w
  exact whole.trans (by rw [second])

theorem run_wire (p : WireProgram α) (d : FileTree × τ) (w : ω) :
    (wire p).run (world console driver) (d, w) =
      ((p.run driver w).1, (d, (p.run driver w).2)) :=
  Program.run_right _ driver p d w

end Parts

end Machine

/-- The page of a browser, as it is driven over the wire. -/
def Browser.page {ω : Type} (driver : Responder wireSignature ω) : Page ω :=
  fun call => call.driven.run driver

namespace Browse

variable {τ ω α : Type} (console : Responder consoleSignature τ) (driver : Responder wireSignature ω)

theorem run_driven (p : PageProgram α) (w : ω) :
    p.driven.run driver w = p.run (Browser.page driver) w :=
  Program.run_through (S := pageSignature) (T := wireSignature) PageCall.driven driver p w

/-- The interactive loop talks to the page of the browser and to the console. -/
theorem run_talk (p : Interactive.TalkProgram α) (tree : FileTree) (c : τ) (w : ω) :
    let talked := p.run ((Browser.page driver).beside console) (w, c)
    (talk p).run (Machine.world console driver) ((tree, c), w) =
      (talked.1, ((tree, talked.2.2), talked.2.1)) := by
  unfold talk
  rw [Program.run_through]
  induction p generalizing c w with
  | done a => rfl
  | ask q next ih =>
    cases q with
    | inl call =>
      have answered : (answer (.inl call)).run (Machine.world console driver) ((tree, c), w) = _ :=
        Machine.run_wire console driver call.driven (tree, c) w
      simp only [Program.run, answered]
      exact ih _ _ _
    | inr call =>
      have answered : (answer (.inr call)).run (Machine.world console driver) ((tree, c), w) = _ :=
        Machine.run_console console driver call.make tree c w
      simp only [Program.run, answered]
      exact ih _ _ _

end Browse

end PageWalk
