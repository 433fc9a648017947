import PageWalk.Proofs.CommandCalls
import PageWalk.Proofs.FailStop
import PageWalk.Report.Exploration

/-!
# Watching that is not noticed

What watches a page for errors is asked of the page itself, between the commands and after them. Where
the page answers such a question and answers nothing else differently for it, an exploration reports the
same as one that does not watch, and asks the same besides.
-/

namespace PageWalk

set_option autoImplicit false

open Program (Matches Alike)

/-- The call starts to watch the page or takes the errors that were seen. -/
def PageCall.isWatch : PageCall → Bool
  | evaluate .installMonitor _ => true
  | evaluate .collectErrors _ => true
  | _ => false

/-- The call succeeds, and errors that were seen are told in a form that can be read. -/
def PageCall.Works : (call : PageCall) → Except Fault call.Reply → Prop
  | evaluate .collectErrors _, reply => ∃ value errors,
      reply = .ok value ∧ Json.answered {} PageErrors.ofJson value = .ok errors
  | _, reply => ∃ value, reply = .ok value

theorem PageCall.exists_of_isWatch {call : PageCall} (h : call.isWatch = true) :
    ∃ args, call = .evaluate .installMonitor args ∨ call = .evaluate .collectErrors args := by
  cases call with
  | evaluate script args =>
    cases script with
    | installMonitor => exact ⟨args, .inl rfl⟩
    | collectErrors => exact ⟨args, .inr rfl⟩
    | _ => cases h
  | _ => cases h

/-- What remains of some calls when those are left out by which the page is watched. -/
def PageCall.unwatched (calls : List PageCall) : List PageCall :=
  calls.filter fun call => !call.isWatch

/-- Watching the page works at any time, and changes no answer to any other call. -/
structure Page.Unnoticing {σ : Type} (page : Page σ) (s : σ) : Prop where
  works : ∀ (calls : List PageCall) (call : PageCall), call.isWatch = true →
    call.Works (page call (page.after calls s)).1
  same : ∀ (calls : List PageCall) (call : PageCall), call.isWatch = false →
    (page call (page.after calls s)).1 = (page call (page.after (PageCall.unwatched calls) s)).1

namespace Exploration

/-- A watched run beside one that is not watched. -/
def unwatched : Program.Comparison pageSignature where
  isSilent := PageCall.isWatch
  Admits := PageCall.Works
  Agree _ a b := a = b

theorem matches_andThen {c : Program.Comparison pageSignature} {α β γ δ : Type} {R : α → β → Prop}
    {R' : γ → δ → Prop} {p : PageProgram (Except Fault α)} {p' : PageProgram (Except Fault β)}
    {f : α → PageProgram (Except Fault γ)} {g : β → PageProgram (Except Fault δ)}
    (first : Matches c (Alike R) p p') (later : ∀ a b, R a b → Matches c (Alike R') (f a) (g b)) :
    Matches c (Alike R') (andThen p f) (andThen p' g) := by
  apply first.bind
  rintro _ _ (related | fault)
  · exact later _ _ related
  · exact .done (.error fault)

/-- Errors are known to the run that watches, and to it alone. -/
def OnlyFirst (watched plain : Option PageErrors) : Prop :=
  watched.isSome ∧ plain = none

theorem matches_watch : Matches unwatched (Alike OnlyFirst) (watch true) (watch false) := by
  apply Matches.silent rfl
  rintro _ ⟨value, rfl⟩
  exact .done (.ok ⟨rfl, rfl⟩)

theorem matches_note {e e' : Option PageErrors} (h : OnlyFirst e e') :
    Matches unwatched (Alike OnlyFirst) (note e) (note e') := by
  obtain ⟨known, rfl⟩ := Option.isSome_iff_exists.mp h.1
  obtain rfl := h.2
  -- the errors are taken, and the page is watched anew
  apply Matches.silent rfl
  rintro _ ⟨value, errors, rfl, read⟩
  simp only [Except.within, Except.mapError, Program.bind, bind, Except.bind,
    read, pure]
  apply Matches.silent rfl
  rintro _ ⟨value, rfl⟩
  exact .done (.ok ⟨rfl, rfl⟩)

theorem matches_of_asks {α : Type} {p : PageProgram α}
    (h : p.Asks fun call => PageCall.isWatch call = false) : Matches unwatched Eq p p := by
  apply Program.Asks.matches
  exact h.imp fun call plain => ⟨plain, fun a b same => same⟩

theorem matches_of_scriptless {α : Type} {p : PageProgram α} (h : p.Scriptless) :
    Matches unwatched Eq p p := by
  apply matches_of_asks
  refine h.imp fun call plain => ?_
  cases call with
  | evaluate script args => cases plain
  | _ => rfl

theorem matches_perform (commands : List String) {e e' : Option PageErrors} (h : OnlyFirst e e') :
    Matches unwatched (Alike fun a b => a.1 = b.1 ∧ OnlyFirst a.2 b.2) (perform commands e)
      (perform commands e') := by
  induction commands generalizing e e' with
  | nil => exact .done (.ok ⟨rfl, h⟩)
  | cons command rest ih =>
    apply (matches_of_scriptless (Batch.scriptless_execute command)).bind
    rintro outcome _ rfl
    apply matches_andThen (matches_note h)
    intro noted noted' h
    apply matches_andThen (ih h)
    rintro ⟨outcomes, last⟩ ⟨_, last'⟩ ⟨rfl, h⟩
    exact .done (.ok ⟨rfl, h⟩)

theorem matches_step {α : Type} {p : PageProgram (Except Fault α)}
    (h : p.Asks fun call => PageCall.isWatch call = false) : Matches unwatched (Alike Eq) p p := by
  apply (matches_of_asks h).imp
  rintro reply _ rfl
  exact .refl reply

theorem asks_summary : Summary.take.Asks fun call => PageCall.isWatch call = false :=
  ⟨rfl, fun _ => trivial⟩

theorem asks_forms (wanted : Bool) :
    (forms wanted).Asks fun call => PageCall.isWatch call = false := by
  cases wanted with
  | false => trivial
  | true => exact ⟨rfl, fun _ => trivial⟩

theorem matches_run (commands expectations : List String) (forms : Bool) :
    Matches unwatched (Alike fun r r' => { r with errors := none } = r')
      (run commands expectations { monitor := true, forms })
      (run commands expectations { monitor := false, forms }) := by
  apply matches_andThen matches_watch
  intro e e' h
  apply matches_andThen (matches_perform commands h)
  rintro ⟨actions, e⟩ ⟨_, e'⟩ ⟨rfl, h⟩
  apply (matches_of_scriptless (Batch.scriptless_checkAll expectations)).bind
  rintro checks _ rfl
  apply matches_andThen (matches_step asks_summary)
  rintro page _ rfl
  apply matches_andThen (matches_step (asks_forms forms))
  rintro found _ rfl
  apply matches_andThen (matches_note h)
  rintro e e' ⟨-, rfl⟩
  exact .done (.ok rfl)

/-- The pages of the two runs: one has been asked what the other was asked, and was watched besides. -/
def Beside {σ : Type} (page : Page σ) (s watched plain : σ) : Prop :=
  ∃ calls, watched = page.after calls s ∧ plain = page.after (PageCall.unwatched calls) s

end Exploration

section Histories

variable (calls : List PageCall) {call : PageCall}

theorem PageCall.unwatched_concat_watch (h : call.isWatch = true) :
    unwatched (calls ++ [call]) = unwatched calls := by
  simp [unwatched, h]

theorem PageCall.unwatched_concat (h : call.isWatch = false) :
    unwatched (calls ++ [call]) = unwatched calls ++ [call] := by
  simp [unwatched, h]

end Histories

section Reports

variable {σ : Type} {page : Page σ} {s : σ}

theorem Page.Unnoticing.keeps (h : page.Unnoticing s) :
    Exploration.unwatched.Keeps page page (Exploration.Beside page s) where
  shared := by
    rintro (call : PageCall) _ _ plain ⟨calls, rfl, rfl⟩
    refine ⟨h.same calls call plain, calls ++ [call], ?_, ?_⟩
    · rw [page.after_concat]
    · rw [PageCall.unwatched_concat calls plain, page.after_concat]
  silent := by
    rintro (call : PageCall) _ _ watch ⟨calls, rfl, rfl⟩
    refine ⟨h.works calls call watch, calls ++ [call], ?_, ?_⟩
    · rw [page.after_concat]
    · rw [PageCall.unwatched_concat_watch calls watch]

/-- Watching has a part of the state to itself, and no other answer depends on that part. -/
theorem Page.Unnoticing.of_view {τ : Type} (view : σ → τ)
    (works : ∀ (call : PageCall) t, call.isWatch = true → call.Works (page call t).1)
    (kept : ∀ (call : PageCall) t, call.isWatch = true → view (page call t).2 = view t)
    (same : ∀ (call : PageCall) t t', call.isWatch = false → view t = view t' →
      (page call t).1 = (page call t').1 ∧ view (page call t).2 = view (page call t').2) :
    page.Unnoticing s := by
  have seen (calls : List PageCall) :
      view (page.after calls s) = view (page.after (PageCall.unwatched calls) s) := by
    -- by the last call: a state is reached by one more call, not by one less
    induction calls using List.reverseRecOn with
    | nil => rfl
    | append_singleton calls call ih =>
      rw [page.after_concat]
      cases h : call.isWatch with
      | true => rw [kept call _ h, PageCall.unwatched_concat_watch calls h, ih]
      | false => rw [PageCall.unwatched_concat calls h, page.after_concat, (same call _ _ h ih).2]
  refine ⟨fun calls call => works call _, fun calls call h => ?_⟩
  exact (same call _ _ h (seen calls)).1

/-- On a page that can be watched unnoticed, watching it changes neither what is reported nor the other
calls. -/
theorem report_unwatched (h : page.Unnoticing s) (commands expectations : List String) (forms : Bool) :
    let watched := Exploration.run commands expectations { monitor := true, forms }
    let plain := Exploration.run commands expectations { monitor := false, forms }
    ((∃ r r', (watched.run page s).1 = .ok r ∧ (plain.run page s).1 = .ok r' ∧
          r.actions = r'.actions ∧ r.checks = r'.checks ∧ r.page = r'.page ∧ r.forms = r'.forms) ∨
        ∃ fault, (watched.run page s).1 = .error fault ∧ (plain.run page s).1 = .error fault) ∧
      PageCall.unwatched (watched.asked page s) = plain.asked page s := by
  intro watched plain
  have start : Exploration.Beside page s s s := ⟨[], rfl, rfl⟩
  obtain ⟨alike, asked⟩ := (Exploration.matches_run commands expectations forms).run h.keeps start
  refine ⟨?_, asked⟩
  generalize (watched.run page s).1 = ended, (plain.run page s).1 = ended' at alike
  rcases alike with related | fault
  · subst related
    exact .inl ⟨_, _, rfl, rfl, rfl, rfl, rfl, rfl⟩
  · exact .inr ⟨fault, rfl, rfl⟩

end Reports

/-- A counter that can be clicked, shows how often, and complains of clicks on its console. -/
def countingPage : Page (Nat × Bool)
  | .evaluate .collectErrors _, (count, true) =>
    (.ok (.obj [("console", .arr [.str "clicked"])]), (count, false))
  | .evaluate .scrape _, (count, clicked) =>
    (.ok (.obj [("title", .str (toString count))]), (count, clicked))
  | .evaluate _ _, s => (.ok .null, s)
  | .click _, (count, _) => (.ok (), (count + 1, true))
  | _, s => (.error ⟨"No such element", []⟩, s)

theorem countingPage_unnoticing : countingPage.Unnoticing (0, false) := by
  apply Page.Unnoticing.of_view Prod.fst
  · rintro call ⟨count, clicked⟩ watch
    obtain ⟨args, rfl | rfl⟩ := PageCall.exists_of_isWatch watch
    · exact ⟨_, rfl⟩
    · cases clicked <;> exact ⟨_, _, rfl, rfl⟩
  · rintro call ⟨count, clicked⟩ watch
    obtain ⟨args, rfl | rfl⟩ := PageCall.exists_of_isWatch watch
    · rfl
    · cases clicked <;> rfl
  · rintro call ⟨count, clicked⟩ ⟨_, clicked'⟩ plain ⟨⟩
    cases call with
    | evaluate script args =>
      cases script with
      | installMonitor | collectErrors => cases plain
      | _ => exact ⟨rfl, rfl⟩
    | _ => exact ⟨rfl, rfl⟩

/-- Three clicks, two of them in a loop, and an expectation that fails. -/
theorem report_unwatched_clicks :
    let commands := ["click:#more", "loop:2:click:#more"]
    let watched := Exploration.run commands ["expect:text:3"] { monitor := true, forms := true }
    let plain := Exploration.run commands ["expect:text:3"] { monitor := false, forms := true }
    countingPage.Unnoticing (0, false) ∧
      (watched.run countingPage (0, false)).1.toOption.bind (·.errors) =
        some { console := ["clicked", "clicked"] } ∧
      ((∃ r r', (watched.run countingPage (0, false)).1 = .ok r ∧
          (plain.run countingPage (0, false)).1 = .ok r' ∧
          r.actions = r'.actions ∧ r.checks = r'.checks ∧ r.page = r'.page ∧ r.forms = r'.forms) ∨
        ∃ fault, (watched.run countingPage (0, false)).1 = .error fault ∧
          (plain.run countingPage (0, false)).1 = .error fault) ∧
      PageCall.unwatched (watched.asked countingPage (0, false)) =
        plain.asked countingPage (0, false) := by
  intro commands watched plain
  have noted : (watched.run countingPage (0, false)).1.toOption.bind (·.errors) =
      some { console := ["clicked", "clicked"] } := by decide +kernel
  exact ⟨countingPage_unnoticing, noted, report_unwatched countingPage_unnoticing commands _ true⟩

end PageWalk
