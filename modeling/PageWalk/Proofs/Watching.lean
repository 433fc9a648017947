import Mathlib.Logic.Basic
import PageWalk.Cli.Dispatch
import PageWalk.Proofs.Numeral
import PageWalk.Proofs.Program
import PageWalk.Proofs.Words

/-!
# The exit code of a watched run

A run whose expectations hold fails all the same when errors were seen on the page. The failure is
told by a message that holds the texts of those errors, and its exit code goes by the words in it:
`exitCode_of_watched` says which texts of the page lead to which code.
-/

namespace PageWalk

set_option autoImplicit false

/-- What the page itself says in its errors. -/
def PageErrors.texts (errors : PageErrors) : List String :=
  errors.console ++ errors.network.map NetworkError.text

/-- One of some words stands in the text of an error. -/
def PageErrors.mention (words : List String) (errors : PageErrors) : Bool :=
  errors.texts.any (Verdict.mentions words)

namespace Verdict

/-- A word that the fixed parts of a report of errors neither hold nor complete. -/
def Unframed (word : List Char) : Prop :=
  word ≠ [] ∧ '\n' ∉ word ∧ Text.Misses word "Console Error: ".toList ∧
    Text.Misses word "Network Error: ".toList ∧
    ¬ word.all fun c =>
      c.isDigit || c ∈ "Monitoring failed with ".toList || c ∈ " errors:".toList

instance (word : List Char) : Decidable (Unframed word) :=
  inferInstanceAs (Decidable (_ ∧ _))

theorem unframed_of_mem_unreachableWords : ∀ word ∈ unreachableWords, Unframed word.toList := by
  decide

theorem unframed_of_mem_timeoutWords : ∀ word ∈ timeoutWords, Unframed word.toList := by
  decide

variable {words : List String} {errors : PageErrors}

theorem mentions_eq_true_iff {message : String} :
    mentions words message = true ↔ ∃ word ∈ words, word.toList <:+: message.toList := by
  rw [mentions, List.any_eq_true]
  simp only [Text.occursIn_iff]

end Verdict

/-- What is reported of a page on which errors were seen. -/
def PageErrors.report (errors : PageErrors) : String :=
  s!"Monitoring failed with {errors.count} errors:\n" ++ joined "\n" errors.messages

theorem PageErrors.toList_report (errors : PageErrors) :
    errors.report.toList =
      ("Monitoring failed with ".toList ++ Text.Numeral.write errors.count ++ " errors:".toList) ++
        '\n' :: List.intercalate ['\n'] (errors.messages.map String.toList) := by
  have number : (toString errors.count).toList = Text.Numeral.write errors.count :=
    Nat.toList_repr
  have ends : " errors:\n".toList = " errors:".toList ++ ['\n'] := rfl
  have separator : "\n".toList = ['\n'] := rfl
  show (("Monitoring failed with " ++ toString errors.count ++ " errors:\n") ++
    joined "\n" errors.messages).toList = _
  rw [String.toList_append, String.toList_append, String.toList_append, number, ends,
    String.toList_intercalate, separator, ← List.append_assoc, List.append_assoc _ ['\n']]
  rfl

theorem PageErrors.exists_message_iff {word : List Char} (h : Verdict.Unframed word)
    (errors : PageErrors) :
    (∃ message ∈ errors.messages, word <:+: message.toList) ↔
      ∃ text ∈ errors.texts, word <:+: text.toList := by
  obtain ⟨-, -, console, network, -⟩ := h
  have console_iff (text : String) :
      word <:+: ("Console Error: " ++ text).toList ↔ word <:+: text.toList := by
    rw [String.toList_append, Text.infix_lead_append_iff console]
  have network_iff (error : NetworkError) :
      word <:+: ("Network Error: " ++ error.text).toList ↔ word <:+: error.text.toList := by
    rw [String.toList_append, Text.infix_lead_append_iff network]
  simp only [messages, texts, List.mem_append, List.mem_map, or_and_right, exists_or,
    exists_exists_and_eq_and, console_iff, network_iff]

theorem PageErrors.infix_report_iff {word : List Char} (h : Verdict.Unframed word)
    (errors : PageErrors) :
    word <:+: errors.report.toList ↔ ∃ text ∈ errors.texts, word <:+: text.toList := by
  rw [← exists_message_iff h, toList_report]
  obtain ⟨some, unbroken, -, -, foreign⟩ := h
  have lead : ¬ word <:+: "Monitoring failed with ".toList ++ Text.Numeral.write errors.count ++
      " errors:".toList := by
    intro occurs
    apply foreign
    rw [List.all_eq_true]
    intro c here
    have fixed := occurs.subset here
    rw [List.mem_append, List.mem_append] at fixed
    rw [Bool.or_eq_true, Bool.or_eq_true, decide_eq_true_iff, decide_eq_true_iff]
    rcases fixed with (before | number) | after
    · exact .inl (.inr before)
    · exact .inl (.inl (Text.Numeral.isDigit_of_mem_write number))
    · exact .inr after
  rw [Text.infix_separated_iff unbroken some, Text.infix_intercalate_iff unbroken some,
    or_iff_right lead]
  simp only [List.mem_map, exists_exists_and_eq_and]

theorem PageErrors.mentions_report {words : List String}
    (h : ∀ word ∈ words, Verdict.Unframed word.toList) (errors : PageErrors) :
    Verdict.mentions words errors.report = errors.mention words := by
  rw [Bool.eq_iff_iff, Verdict.mentions_eq_true_iff, mention, List.any_eq_true]
  constructor
  · rintro ⟨word, telling, occurs⟩
    obtain ⟨text, seen, here⟩ := (infix_report_iff (h word telling) errors).mp occurs
    exact ⟨text, seen, Verdict.mentions_eq_true_iff.mpr ⟨word, telling, here⟩⟩
  · rintro ⟨text, seen, said⟩
    obtain ⟨word, telling, here⟩ := Verdict.mentions_eq_true_iff.mp said
    exact ⟨word, telling, (infix_report_iff (h word telling) errors).mpr ⟨text, seen, here⟩⟩

/-- The exit code that the errors of a watched page lead to. -/
def PageErrors.exitCode (errors : PageErrors) : Nat :=
  if errors.mention Verdict.unreachableWords then 4
  else if errors.mention Verdict.timeoutWords then 5
  else 1

theorem PageErrors.exitCode_of_report (errors : PageErrors) :
    (Verdict.of (.ofMessage errors.report)).exitCode = errors.exitCode := by
  have unreachable := errors.mentions_report Verdict.unframed_of_mem_unreachableWords
  have timeout := errors.mentions_report Verdict.unframed_of_mem_timeoutWords
  unfold exitCode
  rw [← unreachable, ← timeout]
  show Verdict.exitCode
    (if Verdict.mentions _ errors.report then _
      else if Verdict.mentions _ errors.report then _ else _) = _
  split
  · rfl
  · split <;> rfl

theorem verdict_of_watched {r : Report} {errors : PageErrors}
    (passed : Batch.allPassed r.checks = true) (watched : r.errors = some errors)
    (seen : errors.isEmpty = false) :
    RunReport.verdict r = .error (.ofMessage errors.report) := by
  have failure : r.monitoringFailure? = some errors.report := by
    rw [Report.monitoringFailure?, watched]
    exact if_neg (by rw [seen]; decide)
  rw [RunReport.verdict, if_pos passed, failure]

/-- The exit code after errors on the page depends on their own texts: 4 or 5 by what they mention, and 1
only if they mention neither. -/
theorem exitCode_of_watched {r : Report} {errors : PageErrors}
    (passed : Batch.allPassed r.checks = true) (watched : r.errors = some errors)
    (seen : errors.isEmpty = false) :
    (∃ failure, RunReport.verdict r = .error failure ∧
      (Verdict.of failure).exitCode = errors.exitCode) ∧
    (Cli.conclude (RunReport.verdict r)).Always fun code => code = errors.exitCode := by
  have failed := verdict_of_watched passed watched seen
  refine ⟨⟨_, failed, errors.exitCode_of_report⟩, ?_⟩
  rw [failed]
  intro _ _
  exact errors.exitCode_of_report

/-- A script that could not be loaded, from a place whose name holds that of a driver. -/
theorem exitCode_of_watched_driver_name :
    let missing : NetworkError :=
      { status := some 404, method := "GET", url := "http://h.test/geckodriver.js" }
    let errors : PageErrors := { network := [missing] }
    let r : Report :=
      { actions := [], checks := [], page := {}, forms := none, errors := some errors }
    Batch.allPassed r.checks = true ∧ r.errors = some errors ∧ errors.isEmpty = false ∧
      (Cli.conclude (RunReport.verdict r)).Always fun code => code = 4 := by
  intro missing errors r
  have code : errors.exitCode = 4 := by decide
  rw [← code]
  exact ⟨rfl, rfl, rfl, (exitCode_of_watched (r := r) rfl rfl rfl).2⟩

/-- A page that notes a text on its console again and again, and shows nothing. -/
def noisyPage (text : String) : Page Unit
  | .evaluate .collectErrors _, s => (.ok (.obj [("console", .arr [.str text])]), s)
  | .evaluate _ _, s => (.ok .null, s)
  | _, s => (.error ⟨"No such element", []⟩, s)

/-- A run that meets its expectations, on a page that tells of a timeout of its own. -/
theorem exitCode_of_timeout_message :
    ∃ r errors failure,
      ((Exploration.run [] [] { monitor := true }).run (noisyPage "Request timeout") ()).1 = .ok r ∧
        Batch.allPassed r.checks = true ∧ r.errors = some errors ∧ errors.isEmpty = false ∧
        RunReport.verdict r = .error failure ∧ (Verdict.of failure).exitCode ≠ 1 := by
  refine ⟨_, { console := ["Request timeout"] }, _, rfl, rfl, rfl, rfl, rfl, ?_⟩
  decide

end PageWalk
