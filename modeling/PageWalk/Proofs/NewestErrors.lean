import Mathlib.Data.List.Infix
import PageWalk.Proofs.Exploring

/-!
# The errors that are kept

Errors are taken from a page in batches, and after each batch only the newest of each kind are kept.
That comes to the same as keeping the newest of all batches together: what was dropped before is older
than what would be dropped now. A batch that cannot be taken or read changes nothing.
-/

namespace PageWalk

set_option autoImplicit false

/-- The last items of a list, at most so many. -/
structure LastOf {α : Type} (n : Nat) (all items : List α) : Prop where
  suffix : items <:+ all
  length : items.length = min all.length n

section Lists

variable {α : Type} {n : Nat} {all items more later : List α}

theorem lastOf_nil (n : Nat) : LastOf n ([] : List α) [] :=
  ⟨List.nil_suffix, (Nat.zero_min n).symm⟩

/-- Items that were dropped before are dropped later on, too. -/
theorem LastOf.append (h : LastOf n all items) (next : LastOf n (items ++ more) later) :
    LastOf n (all ++ more) later := by
  obtain ⟨dropped, rfl⟩ := h.suffix
  have before := h.length
  have after := next.length
  refine ⟨next.suffix.trans ⟨dropped, (List.append_assoc _ _ _).symm⟩, ?_⟩
  simp only [List.length_append] at before after ⊢
  omega

theorem LastOf.length_le (h : LastOf n all items) : items.length ≤ n := by
  have length := h.length
  omega

theorem LastOf.eq_of_length_le (h : LastOf n all items) (few : all.length ≤ n) : items = all := by
  apply h.suffix.eq_of_length
  have length := h.length
  omega

end Lists

namespace PageErrors

theorem lastOf_newest {α : Type} (items : List α) : LastOf capacity items (newest items) := by
  refine ⟨List.drop_suffix _ _, ?_⟩
  rw [newest, List.length_drop]
  omega

/-- What is kept of the errors known and of a batch of later ones; addresses are kept without secrets. -/
structure Keeps (known batch errors : PageErrors) : Prop where
  console : LastOf capacity (known.console ++ batch.console) errors.console
  network : LastOf capacity (known.network ++ batch.network.map NetworkError.redacted) errors.network

theorem keeps_append (known batch : PageErrors) :
    Keeps known batch (known.append batch.redacted) := by
  constructor
  · simp only [append, redacted]
    exact lastOf_newest _
  · simp only [append, redacted]
    exact lastOf_newest _

/-- All batches as one. -/
def together (batches : List PageErrors) : PageErrors :=
  ⟨batches.flatMap (·.console), batches.flatMap (·.network)⟩

theorem keeps_together_nil : Keeps {} (together []) {} :=
  ⟨lastOf_nil _, lastOf_nil _⟩

theorem Keeps.together {batches : List PageErrors} {known batch errors : PageErrors}
    (h : Keeps {} (together batches) known) (next : Keeps known batch errors) :
    Keeps {} (PageErrors.together (batches ++ [batch])) errors := by
  constructor
  · have all := h.console.append next.console
    simpa [PageErrors.together] using all
  · have all := h.network.append next.network
    simpa [PageErrors.together] using all

theorem Keeps.eq_of_nothing {all known errors : PageErrors} (h : Keeps {} all known)
    (next : Keeps known {} errors) : errors = known := by
  have console : errors.console = known.console ++ [] :=
    next.console.eq_of_length_le (by simpa using h.console.length_le)
  have network : errors.network = known.network ++ [] :=
    next.network.eq_of_length_le (by simpa using h.network.length_le)
  rw [List.append_nil] at console network
  cases errors
  cases known
  simp_all

/-- A batch without errors changes nothing. -/
theorem Keeps.keeps_nothing {all known : PageErrors} (h : Keeps {} all known) :
    Keeps known {} known := by
  have keeps := keeps_append known {}
  rwa [h.eq_of_nothing keeps] at keeps

end PageErrors

namespace Monitor

variable {σ : Type} (page : Page σ)

/-- The call that takes the errors out of a page. -/
def collectCall : PageCall :=
  .evaluate .collectErrors []

def installCall : PageCall :=
  .evaluate .installMonitor [.int PageErrors.capacity]

/-- The errors that can be taken from a page in some state; nothing stands for none. -/
def batchAt (s : σ) : Option PageErrors :=
  match (page collectCall s).1 with
  | .error _ => none
  | .ok .null => some {}
  | .ok value => (PageErrors.ofJson value).toOption

/-- What comes of watching a page on after errors were taken from it. -/
def watchedOn (s : σ) : Except Fault Unit :=
  match (page installCall (page collectCall s).2).1 with
  | .error fault => .error (fault.within "Failed to install error monitor")
  | .ok _ => .ok ()

/-- How it ends to take the errors of a page in some state: the calls, the result and what is known. -/
inductive Drains (known : PageErrors) (s : σ) :
    List PageCall → Except Fault Unit → PageErrors → Prop where
  | uncollected {fault : Fault} (failed : (page collectCall s).1 = .error fault) :
    Drains known s [collectCall] (.error (fault.within "Failed to collect page errors")) known
  | unread {value : Json} {e : DecodeError} (answered : (page collectCall s).1 = .ok value)
      (given : value ≠ .null) (malformed : PageErrors.ofJson value = .error e) :
    Drains known s [collectCall] (.error ⟨"Unexpected error monitor result", [e.message]⟩) known
  | nothing (answered : (page collectCall s).1 = .ok .null) :
    Drains known s [collectCall, installCall] (watchedOn page s) known
  | kept {value : Json} {batch errors : PageErrors} (answered : (page collectCall s).1 = .ok value)
      (given : value ≠ .null) (read : PageErrors.ofJson value = .ok batch)
      (keeps : known.Keeps batch errors) :
    Drains known s [collectCall, installCall] (watchedOn page s) errors

/-- What a new monitor knows after draining a page when it was in these states, one after the other. -/
def drainedAt (states : List σ) : PageErrors :=
  states.foldl (fun known s => ((drain known).run page s).1.2) {}

theorem drainedAt_concat (states : List σ) (s : σ) :
    drainedAt page (states ++ [s]) = ((drain (drainedAt page states)).run page s).1.2 := by
  rw [drainedAt, List.foldl_append]
  rfl

variable {page} {known : PageErrors} {s : σ}

/-- What is made of the errors that a page gave. -/
def taken (answer : Except Fault Json) : Except Fault PageErrors := do
  let value ← Except.within "Failed to collect page errors" answer
  let errors ← Except.within "Unexpected error monitor result"
    (value.answered {} PageErrors.ofJson)
  pure errors.redacted

theorem drain_of_taken_error (known : PageErrors) {fault : Fault}
    (h : taken (page collectCall s).1 = .error fault) :
    ((drain known).run page s).1 = (.error fault, known) ∧
      (drain known).asked page s = [collectCall] := by
  have gives : (collect.run page s).1 = .error fault := h
  simp only [drain, bind, Program.run_bind, Program.asked_bind, gives]
  exact ⟨rfl, rfl⟩

theorem drain_of_taken_ok (known : PageErrors) {errors : PageErrors}
    (h : taken (page collectCall s).1 = .ok errors) :
    ((drain known).run page s).1 = (watchedOn page s, known.append errors) ∧
      (drain known).asked page s = [collectCall, installCall] := by
  have gives : (collect.run page s).1 = .ok errors := h
  have left : (collect.run page s).2 = (page collectCall s).2 := rfl
  have again : (install.run page (page collectCall s).2).1 = watchedOn page s := by
    show Except.map _ (Except.within _ (page installCall (page collectCall s).2).1) = _
    unfold watchedOn
    cases (page installCall (page collectCall s).2).1 <;> rfl
  simp only [drain, bind, Program.run_bind, Program.asked_bind, gives, left, again]
  exact ⟨rfl, rfl⟩

theorem taken_of_malformed {value : Json} {e : DecodeError} (given : value ≠ .null)
    (malformed : PageErrors.ofJson value = .error e) :
    taken (.ok value) = .error ⟨"Unexpected error monitor result", [e.message]⟩ := by
  have read := Json.answered_of_ne_null given {} PageErrors.ofJson
  rw [malformed] at read
  show Except.within _ (value.answered _ _) >>= _ = _
  rw [read]
  rfl

theorem taken_of_read {value : Json} {batch : PageErrors} (given : value ≠ .null)
    (read : PageErrors.ofJson value = .ok batch) : taken (.ok value) = .ok batch.redacted := by
  have answered := Json.answered_of_ne_null given {} PageErrors.ofJson
  rw [read] at answered
  show Except.within _ (value.answered _ _) >>= _ = _
  rw [answered]
  rfl

/-- What a monitor knows that has kept the newest of some errors before. -/
theorem drains_of_keeps {all : PageErrors} (h : PageErrors.Keeps {} all known) (s : σ) :
    Drains page known s ((drain known).asked page s) ((drain known).run page s).1.1
      ((drain known).run page s).1.2 := by
  cases answered : (page collectCall s).1 with
  | error fault =>
    have lost : taken (page collectCall s).1 =
        .error (fault.within "Failed to collect page errors") := by
      rw [answered]
      rfl
    obtain ⟨ran, asked⟩ := drain_of_taken_error known lost
    rw [ran, asked]
    exact .uncollected answered
  | ok value =>
    by_cases given : value = .null
    · have empty : taken (page collectCall s).1 = .ok (PageErrors.redacted {}) := by
        rw [answered, given]
        rfl
      obtain ⟨ran, asked⟩ := drain_of_taken_ok known empty
      rw [ran, asked, h.eq_of_nothing (PageErrors.keeps_append known {})]
      exact .nothing (given ▸ answered)
    · cases read : PageErrors.ofJson value with
      | error e =>
        have lost := answered ▸ taken_of_malformed given read
        obtain ⟨ran, asked⟩ := drain_of_taken_error known lost
        rw [ran, asked]
        exact .unread answered given read
      | ok batch =>
        have gives := answered ▸ taken_of_read given read
        obtain ⟨ran, asked⟩ := drain_of_taken_ok known gives
        rw [ran, asked]
        exact .kept answered given read (PageErrors.keeps_append known batch)

theorem batchAt_of_ne_null {value : Json} (answered : (page collectCall s).1 = .ok value)
    (given : value ≠ .null) : batchAt page s = (PageErrors.ofJson value).toOption := by
  unfold batchAt
  rw [answered]
  cases value with
  | null => exact absurd rfl given
  | _ => rfl

/-- A state of the page adds its batch to all batches, if there is one. -/
theorem Drains.keeps {batches : List PageErrors} {calls : List PageCall}
    {result : Except Fault Unit} {errors : PageErrors}
    (h : PageErrors.Keeps {} (.together batches) known)
    (drains : Drains page known s calls result errors) :
    PageErrors.Keeps {} (.together (batches ++ (batchAt page s).toList)) errors := by
  have unchanged (none : batchAt page s = none) :
      PageErrors.Keeps {} (.together (batches ++ (batchAt page s).toList)) known := by
    rw [none]
    simpa using h
  cases drains with
  | uncollected failed => exact unchanged (by rw [batchAt, failed])
  | unread answered given malformed =>
    exact unchanged (by rw [batchAt_of_ne_null answered given, malformed]; rfl)
  | nothing answered =>
    have empty : batchAt page s = some {} := by rw [batchAt, answered]
    rw [empty]
    exact h.together h.keeps_nothing
  | kept answered given read keeps =>
    have some_batch := batchAt_of_ne_null answered given
    rw [some_batch, read]
    exact h.together keeps

theorem keeps_drainedAt (page : Page σ) (states : List σ) :
    PageErrors.Keeps {} (.together (states.filterMap (batchAt page))) (drainedAt page states) := by
  induction states using List.reverseRecOn with
  | nil => exact PageErrors.keeps_together_nil
  | append_singleton states s ih =>
    have last : [s].filterMap (batchAt page) = (batchAt page s).toList := by
      rw [List.filterMap_cons]
      cases batchAt page s <;> rfl
    rw [drainedAt_concat, List.filterMap_append, last]
    exact (drains_of_keeps ih s).keeps ih

/-- A new monitor knows the last thousand errors of each kind of all batches that could be taken and
read. -/
theorem newest_of_drainedAt (page : Page σ) (states : List σ) :
    let batches := states.filterMap (batchAt page)
    let known := drainedAt page states
    LastOf 1000 (batches.flatMap fun batch => batch.console) known.console ∧
      LastOf 1000 ((batches.flatMap fun batch => batch.network).map fun error =>
        { error with url := Url.redact error.url }) known.network ∧
      ∀ s, ∃ result errors, ((drain known).run page s).1 = (result, errors) ∧
        Drains page known s ((drain known).asked page s) result errors ∧
        errors = drainedAt page (states ++ [s]) := by
  intro batches known
  have keeps := keeps_drainedAt page states
  refine ⟨?_, ?_, fun s => ?_⟩
  · exact keeps.console
  · exact keeps.network
  · exact ⟨_, _, rfl, drains_of_keeps keeps s, (drainedAt_concat page states s).symm⟩

end Monitor

namespace Exploration

open Monitor (drain drainedAt)

variable {σ : Type} {page : Page σ} {s s' : σ}

theorem errors_of_watch {errors : Option PageErrors}
    (h : (watch true).run page s = (.ok errors, s')) : errors = some {} := by
  simp only [watch, if_true, bind, Program.run_bind] at h
  generalize Monitor.install.run page s = installed at h
  obtain ⟨_ | _, left⟩ := installed
  · cases h
  · cases h
    rfl

theorem errors_of_note {states : List σ} {errors : Option PageErrors}
    (h : (note (some (drainedAt page states))).run page s = (.ok errors, s')) :
    errors = some (drainedAt page (states ++ [s])) := by
  rw [Monitor.drainedAt_concat]
  simp only [note, bind, Program.run_bind] at h
  generalize (drain (drainedAt page states)).run page s = drained at h ⊢
  obtain ⟨⟨_ | _, known⟩, left⟩ := drained
  · cases h
  · cases h
    rfl

theorem errors_of_perform {commands : List String} {states : List σ} {outcomes : List Outcome}
    {errors : Option PageErrors}
    (h : (perform commands (some (drainedAt page states))).run page s =
      (.ok (outcomes, errors), s')) :
    ∃ more, more.length = commands.length ∧ errors = some (drainedAt page (states ++ more)) := by
  induction commands generalizing s states outcomes with
  | nil =>
    cases h
    exact ⟨[], rfl, by rw [List.append_nil]⟩
  | cons command rest ih =>
    rw [perform] at h
    simp only [bind, Program.run_bind] at h
    obtain ⟨known, s₁, noted, h⟩ := run_andThen_iff.mp h
    obtain ⟨⟨later, last⟩, s₂, performed, h⟩ := run_andThen_iff.mp h
    cases h
    obtain rfl := errors_of_note noted
    obtain ⟨more, length, rfl⟩ := ih performed
    exact ⟨_ :: more, congrArg (· + 1) length, by rw [List.append_assoc]; rfl⟩

/-- A report tells what is known after the errors were taken after each command and once in the end. -/
theorem errors_of_run {commands expectations : List String} {options : ExploreOptions} {r : Report}
    (watches : options.monitor = true)
    (h : (run commands expectations options).run page s = (.ok r, s')) :
    ∃ states, states.length = commands.length + 1 ∧ r.errors = some (drainedAt page states) := by
  obtain ⟨watched, performed, -, -, -, noted⟩ := reports_iff.mpr h
  rw [watches] at watched
  obtain rfl := errors_of_watch watched
  have fromNew : (perform commands (some (drainedAt page []))).run page _ = _ := performed
  obtain ⟨states, length, rfl⟩ := errors_of_perform fromNew
  refine ⟨states ++ [_], ?_, errors_of_note noted⟩
  rw [List.length_append, length]
  rfl

end Exploration

end PageWalk
