import PageWalk.Proofs.FailStop
import PageWalk.Proofs.Grammar
import PageWalk.Run.Batch

/-!
# Expectations only look

An expectation is read as a command that begins with the word `expect`, so whatever its text holds, it is
one look at the page or it cannot be read. Main statement: the calls of a list of expectations are these
looks, in order, whatever the page answers, and each check ends as its own look ends.
-/

namespace PageWalk

set_option autoImplicit false

/-- A call that looks at the page and changes nothing. -/
def PageCall.isLook : PageCall → Bool
  | hasText _ => true
  | isVisible _ => true
  | currentUrl => true
  | _ => false

theorem PageStep.isLook_expect (value : String) (aspect : Aspect) :
    (PageStep.expect value aspect).call.isLook = true := by
  cases aspect <;> rfl

namespace Batch

/-- The look by which an expectation is decided, if it can be read. -/
def look? (text : String) : Option PageStep :=
  match Command.parse (expectation text) with
  | .ok (.expect aspect value) => some (.expect value aspect)
  | _ => none

def looks (texts : List String) : List PageCall :=
  (texts.filterMap look?).map PageStep.call

section Reading

variable {text : String}

theorem expectation_of_begins (h : "expect:".toList <+: text.toList) : expectation text = text :=
  if_pos (List.isPrefixOf_iff_prefix.mpr h)

theorem expectation_of_not_begins (h : ¬ "expect:".toList <+: text.toList) :
    expectation text = "expect:" ++ text :=
  if_neg (mt List.isPrefixOf_iff_prefix.mp h)

theorem begins_expectation (text : String) : "expect:".toList <+: (expectation text).toList := by
  by_cases there : "expect:".toList <+: text.toList
  · rw [expectation_of_begins there]
    exact there
  · rw [expectation_of_not_begins there, String.toList_append]
    exact List.prefix_append _ _

theorem expectation_expectation (text : String) :
    expectation (expectation text) = expectation text :=
  expectation_of_begins (begins_expectation text)

/-- What begins with the word `expect` is read as an expectation or not at all. -/
theorem exists_expect_of_parse {a : Action} (h : Command.parse (expectation text) = .ok a) :
    ∃ aspect value, a = .expect aspect value := by
  obtain ⟨params, spelled⟩ := begins_expectation text
  have command : (expectation text).toList = Command.spell .expect params := spelled.symm
  rw [Command.parse, command, Command.parseChars_eq, Command.readOne_spell] at h
  cases read : Command.readParams .expect params with
  | error e =>
    rw [read] at h
    cases h
  | ok reading =>
    rw [read] at h
    cases Command.reads_of_readParams read with
    | single one => cases one
    | @expect _ _ _ aspect value => exact ⟨aspect, value, (Except.ok.inj h).symm⟩

theorem look?_of_error {e : CommandError} (h : Command.parse (expectation text) = .error e) :
    look? text = none := by
  rw [look?, h]

theorem look?_of_ok {aspect : Aspect} {value : String}
    (h : Command.parse (expectation text) = .ok (.expect aspect value)) :
    look? text = some (.expect value aspect) := by
  rw [look?, h]

theorem isSome_look?_iff : (look? text).isSome = true ↔ ∃ a, Command.parse (expectation text) = .ok a := by
  cases parsed : Command.parse (expectation text) with
  | error e =>
    rw [look?_of_error parsed]
    exact iff_of_false Bool.false_ne_true nofun
  | ok a =>
    obtain ⟨aspect, value, rfl⟩ := exists_expect_of_parse parsed
    rw [look?_of_ok parsed]
    exact iff_of_true rfl ⟨_, rfl⟩

theorem isLook_of_mem_looks {texts : List String} {call : PageCall} (h : call ∈ looks texts) :
    call.isLook = true := by
  obtain ⟨k, decided, rfl⟩ := List.mem_map.mp h
  obtain ⟨text, -, found⟩ := List.mem_filterMap.mp decided
  unfold look? at found
  split at found
  · next aspect value _ =>
    obtain rfl := Option.some.inj found
    exact PageStep.isLook_expect value aspect
  · cases found

theorem looks_cons (text : String) (rest : List String) :
    looks (text :: rest) = looks [text] ++ looks rest := by
  have apart : text :: rest = [text] ++ rest := rfl
  rw [looks, apart, List.filterMap_append, List.map_append]
  rfl

end Reading

section Runs

variable {σ : Type} (page : Page σ)

/-- How one check ends: it cannot be read, or its look stands or falls. -/
structure Judged (text : String) (s : σ) (o : Outcome) : Prop where
  command : o.command = expectation text
  unread : ∀ e, Command.parse (expectation text) = .error e → o.result = .failure e.message
  looked : ∀ k, look? text = some k → o.result.outcome = (k.outcome page s).map fun _ => ()

theorem execute_expect (aspect : Aspect) (value : String) (s : σ) :
    ((Action.expect aspect value).execute.run page s).2 =
        (page (PageStep.expect value aspect).call s).2 ∧
      (Action.expect aspect value).execute.asked page s = [(PageStep.expect value aspect).call] ∧
      ((Action.expect aspect value).execute.run page s).1.outcome =
        ((PageStep.expect value aspect).outcome page s).map fun _ => () := by
  have ends : ((Action.expect aspect value).execute.run page s).1.outcome =
      ((PageStep.expect value aspect).outcome page s).map fun _ => () :=
    ((Action.expect aspect value).run_outcome page s).1.symm.trans (PagePlan.run_single page _ s)
  refine ⟨?_, ?_, ends⟩
  · cases aspect <;> rfl
  · cases aspect <;> rfl

theorem run_check (text : String) (s : σ) :
    Judged page text s ((check text).run page s).1 ∧
      ((check text).run page s).2 = page.after (looks [text]) s ∧
      (check text).asked page s = looks [text] := by
  rw [looks]
  cases parsed : Command.parse (expectation text) with
  | error e =>
    have unread : check text =
        pure { command := expectation text, result := .failure e.message } := by
      rw [check, parsed]
    rw [unread, List.filterMap_cons_none (look?_of_error parsed)]
    refine ⟨⟨rfl, ?_, ?_⟩, rfl, rfl⟩
    · intro other same
      cases parsed.symm.trans same
      rfl
    · intro k some
      cases (look?_of_error parsed).symm.trans some
  | ok a =>
    obtain ⟨aspect, value, rfl⟩ := exists_expect_of_parse parsed
    have read : check text = (Action.expect aspect value).execute.bind fun result =>
        .done { command := expectation text, result } := by
      rw [check, parsed]
      rfl
    obtain ⟨left, asked, ends⟩ := execute_expect page aspect value s
    rw [read, Program.run_bind, Program.asked_bind, left, asked,
      List.filterMap_cons_some (look?_of_ok parsed)]
    refine ⟨⟨rfl, ?_, ?_⟩, rfl, rfl⟩
    · intro e same
      cases parsed.symm.trans same
    · intro k some
      cases (look?_of_ok parsed).symm.trans some
      exact ends

theorem run_checkAll_cons (text : String) (rest : List String) (s : σ) :
    ((checkAll (text :: rest)).run page s).1 = ((check text).run page s).1 ::
        ((checkAll rest).run page ((check text).run page s).2).1 ∧
      (checkAll (text :: rest)).asked page s = (check text).asked page s ++
        (checkAll rest).asked page ((check text).run page s).2 := by
  rw [checkAll]
  simp only [bind, Program.run_bind, Program.asked_bind]
  exact ⟨rfl, congrArg (_ ++ ·) (List.append_nil _)⟩

theorem asked_checkAll (texts : List String) (s : σ) : (checkAll texts).asked page s = looks texts := by
  induction texts generalizing s with
  | nil => rfl
  | cons text rest ih =>
    rw [(run_checkAll_cons page text rest s).2, ih, (run_check page text s).2.2]
    exact (looks_cons text rest).symm

/-- Each check is judged in the state that the looks before it have left. -/
theorem judged_checkAll (texts : List String) (s : σ) {i : Nat} {text : String}
    (h : texts[i]? = some text) :
    ∃ o, ((checkAll texts).run page s).1[i]? = some o ∧
      Judged page text (page.after (looks (texts.take i)) s) o := by
  induction texts generalizing s i with
  | nil => cases h
  | cons first rest ih =>
    obtain ⟨judged, left, -⟩ := run_check page first s
    rw [(run_checkAll_cons page first rest s).1]
    cases i with
    | zero =>
      obtain rfl := Option.some.inj h
      exact ⟨_, rfl, judged⟩
    | succ i =>
      rw [List.take_succ_cons, looks_cons, page.after_append, ← left]
      exact ih _ h

theorem length_checkAll (texts : List String) (s : σ) :
    ((checkAll texts).run page s).1.length = texts.length := by
  induction texts generalizing s with
  | nil => rfl
  | cons text rest ih =>
    rw [(run_checkAll_cons page text rest s).1, List.length_cons, ih, List.length_cons]

end Runs

theorem allPassed_iff_failedCount (checks : List Outcome) :
    allPassed checks = true ↔ failedCount checks = 0 := by
  rw [allPassed, failedCount, List.length_eq_zero_iff, List.filter_eq_nil_iff, List.all_eq_true]
  simp only [Bool.not_eq_true', Bool.not_eq_false]

/-- Whatever its text holds, an expectation is one look at the page, or cannot be read and makes no call. -/
theorem checkAll_only_looks {σ : Type} (page : Page σ) (texts : List String) (s : σ) :
    let checks := ((checkAll texts).run page s).1
    (checkAll texts).asked page s = (texts.filterMap look?).map PageStep.call ∧
      (∀ call ∈ (checkAll texts).asked page s, call.isLook = true) ∧
      (∀ text, (look? text).isSome = true ↔ ∃ a, Command.parse (expectation text) = .ok a) ∧
      checks.length = texts.length ∧
      (∀ i text, texts[i]? = some text → ∃ o, checks[i]? = some o ∧
        Judged page text (page.after (looks (texts.take i)) s) o) ∧
      (∀ text, ("expect:".toList <+: text.toList → expectation text = text) ∧
        (¬ "expect:".toList <+: text.toList → expectation text = "expect:" ++ text) ∧
        "expect:".toList <+: (expectation text).toList ∧
        expectation (expectation text) = expectation text) ∧
      (allPassed checks = true ↔ failedCount checks = 0) := by
  intro checks
  have asked : (checkAll texts).asked page s = looks texts := asked_checkAll page texts s
  refine ⟨asked, fun call there => ?_, fun text => isSome_look?_iff, length_checkAll page texts s,
    fun i text there => judged_checkAll page texts s there, fun text => ?_,
    allPassed_iff_failedCount checks⟩
  · rw [asked] at there
    exact isLook_of_mem_looks there
  · exact ⟨expectation_of_begins, expectation_of_not_begins, begins_expectation text,
      expectation_expectation text⟩

end Batch

end PageWalk
