import Mathlib.Data.List.TakeWhile
import PageWalk.Cli.CommandFile
import PageWalk.Proofs.Lines
import PageWalk.Proofs.Replay
import PageWalk.Proofs.Utf8
import PageWalk.World.FileTree

/-!
# The commands in a text

A text that is typed into the loop, line by line from its bytes, and a text that is read from a file
of commands come to the same batch of commands.
-/

namespace PageWalk

set_option autoImplicit false

namespace Console

open Text.Utf8

theorem splitLine_append {bytes : List UInt8} (feed : lineFeed ∉ bytes)
    (ret : carriageReturn ∉ bytes) (rest : List UInt8) :
    splitLine (bytes ++ rest) = (bytes ++ (splitLine rest).1, (splitLine rest).2) := by
  induction bytes with
  | nil => rfl
  | cons b bytes ih =>
    rw [List.mem_cons, not_or] at feed ret
    rw [List.cons_append, splitLine, if_neg (Ne.symm feed.1),
      if_neg (fun h => ret.1 h.1.symm), ih feed.2 ret.2]
    rfl

theorem head?_encode {s : List Char} (h : (encode s).head? = some lineFeed) :
    s.head? = some '\n' := by
  cases s with
  | nil => cases h
  | cons c s =>
    have first : lineFeed ∈ String.utf8EncodeChar c := by
      rw [encode_cons] at h
      cases bytes : String.utf8EncodeChar c with
      | nil => exact absurd bytes String.utf8EncodeChar_ne_nil
      | cons b more =>
        rw [bytes] at h
        exact Option.some.inj h ▸ List.mem_cons_self
    have same := (encodeChar_of_mem first (by decide)).1
    exact congrArg some (Char.toNat_inj.mp same)

/-- The bytes of a text are taken apart where its first line ends. -/
theorem exists_splitLine {s : List Char} (nonempty : s ≠ []) :
    ∃ line rest, Text.lines s = line :: Text.lines rest ∧ rest.length < s.length ∧
      splitLine (encode s) = (encode line, encode rest) := by
  induction s with
  | nil => exact absurd rfl nonempty
  | cons c s ih =>
    by_cases feed : c = '\n'
    · subst feed
      exact ⟨[], s, rfl, Nat.lt_succ_self _, rfl⟩
    by_cases both : c = '\r' ∧ s.head? = some '\n'
    · obtain ⟨rfl, next⟩ := both
      obtain ⟨rest, rfl⟩ := List.head?_eq_some_iff.mp next
      refine ⟨[], rest, rfl, by simp only [List.length_cons]; omega, rfl⟩
    have noFeed : lineFeed ∉ String.utf8EncodeChar c := by
      intro there
      exact feed (Char.toNat_inj.mp (encodeChar_of_mem there (by decide)).1)
    have step : splitLine (encode (c :: s)) =
        (String.utf8EncodeChar c ++ (splitLine (encode s)).1, (splitLine (encode s)).2) := by
      rw [encode_cons]
      by_cases ret : c = '\r'
      · subst ret
        have next : (encode s).head? ≠ some lineFeed := fun h => both ⟨rfl, head?_encode h⟩
        show splitLine (carriageReturn :: encode s) = _
        rw [splitLine, if_neg (by decide), if_neg (fun h => next h.2)]
        rfl
      · refine splitLine_append noFeed (fun there => ret ?_) _
        exact Char.toNat_inj.mp (encodeChar_of_mem there (by decide)).1
    have lines := Text.lines.eq_4 c s feed fun rest hc hs => both ⟨hc, by rw [hs]; rfl⟩
    rw [step, lines]
    by_cases last : s = []
    · subst last
      exact ⟨[c], [], rfl, Nat.succ_pos _, by rw [encode_cons]; rfl⟩
    · obtain ⟨line, rest, first, shorter, split⟩ := ih last
      rw [split, first]
      exact ⟨c :: line, rest, rfl, Nat.lt_succ_of_lt shorter, by rw [encode_cons]⟩

theorem exists_readLine {s : List Char} (nonempty : s ≠ []) (c : Console) (input : c.input = encode s) :
    ∃ line rest, Text.lines s = line :: Text.lines rest ∧ rest.length < s.length ∧
      c.readLine = (.ok (some line), { c with input := encode rest }) := by
  obtain ⟨line, rest, first, shorter, split⟩ := exists_splitLine nonempty
  refine ⟨line, rest, first, shorter, ?_⟩
  have more : encode s ≠ [] := by
    obtain ⟨d, s, rfl⟩ := List.exists_cons_of_ne_nil nonempty
    rw [encode_cons]
    exact List.append_ne_nil_of_left_ne_nil String.utf8EncodeChar_ne_nil _
  rw [readLine, input, if_neg more, split]
  simp only [decode?_encode]

end Console

/-- A console whose input is known, however it answers to what is written to it and tells the time. -/
structure Console.Reads {τ : Type} (console : Responder consoleSignature τ)
    (input : τ → List UInt8) : Prop where
  bound : ∀ t, (input t).length ≤ (console .lineBound t).1
  line : ∀ t, (console .readLine t).1 = (Console.readLine { input := input t }).1
  rest : ∀ t, input (console .readLine t).2 = (Console.readLine { input := input t }).2.input
  /-- Nothing else takes anything off the input. -/
  counted : ∀ t, input (console .lineBound t).2 = input t
  written : ∀ text t, input (console (.write text) t).2 = input t
  timed : ∀ t, input (console .clock t).2 = input t

theorem Console.reads_respond : Console.Reads Console.respond Console.input := by
  refine ⟨fun t => Nat.le_refl _, fun t => ?_, fun t => ?_, fun _ => rfl, fun _ _ => rfl,
    fun _ => rfl⟩
  · show t.readLine.1 = _
    unfold readLine
    split <;> rfl
  · show t.readLine.2.input = _
    unfold readLine
    split <;> rfl

namespace Interactive

/-- The lines of a text without the blanks around them. -/
def entries (text : List Char) : List String :=
  (Text.lines text).map fun line => String.ofList (Text.trim line)

/-- What ends the loop. -/
def leaveWords : List String := ["exit", "quit"]

/-- What asks about the record. -/
def askWords : List String := ["help", "history", "codegen", "prompt"]

def isCommand (entry : String) : Bool :=
  entry ≠ "" ∧ entry ∉ askWords

/-- The commands among entries, up to the first entry that ends the loop. -/
def commandsAmong (entries : List String) : List String :=
  (entries.takeWhile (· ∉ leaveWords)).filter isCommand

def commandsIn (text : List Char) : List String :=
  commandsAmong (entries text)

theorem commandsAmong_cons (line : List Char) (rest : List String) :
    commandsAmong (String.ofList (Text.trim line) :: rest) =
      match Request.ofLine line with
      | .command command => command :: commandsAmong rest
      | .leave => []
      | _ => commandsAmong rest := by
  fun_cases Request.ofLine line
  case case8 blank exit quit help history codegen prompt =>
    generalize String.ofList (Text.trim line) = entry at *
    have stays : entry ∉ leaveWords := by
      simp only [leaveWords, List.mem_cons, List.not_mem_nil, or_false, not_or]
      exact ⟨exit, quit⟩
    have asks : entry ∉ askWords := by
      simp only [askWords, List.mem_cons, List.not_mem_nil, or_false, not_or]
      exact ⟨help, history, codegen, prompt⟩
    have goesOn : decide (entry ∉ leaveWords) = true := decide_eq_true stays
    have kept : isCommand entry = true := decide_eq_true ⟨blank, asks⟩
    rw [commandsAmong, List.takeWhile_cons, if_pos goesOn, List.filter_cons, if_pos kept]
    rfl
  all_goals
    next word =>
      rw [word]
      rfl

section Loop

variable {σ τ : Type} (page : Page σ) (console : Responder consoleSignature τ)

theorem run_perform_state (history : History) (command : String) (s : σ) (t : τ) :
    let outcome := (Batch.execute command).run page s
    let written := (console (.write (report outcome.1)) t).2
    (perform history command).run (page.beside console) (s, t) =
      (history.note (console .clock written).1 outcome.1,
        (outcome.2, (console .clock written).2)) := by
  unfold perform
  simp only [bind, Program.run_bind, Program.run_left]
  rfl

theorem command?_perform (history : History) (command : String) (s : σ) (t : τ) :
    let heard : List Exchange := (perform history command).transcript (page.beside console) (s, t)
    heard.filterMap Exchange.command? = [] := by
  obtain ⟨_, _, -, commands, -, -⟩ := run_perform page console history command s t
  exact commands

/-- A run of the loop that ends well and is given these commands. -/
def Enters (p : TalkProgram (Except LineError Unit × History)) (s : σ) (t : τ)
    (commands : List String) : Prop :=
  let heard : List Exchange := p.transcript (page.beside console) (s, t)
  (p.run (page.beside console) (s, t)).1.1 = .ok () ∧
    heard.filterMap Exchange.command? = commands

variable {page console} {s : σ} {t : τ} {commands : List String}

theorem enters_done (history : History) :
    Enters page console (.done (.ok (), history)) s t [] :=
  ⟨rfl, rfl⟩

theorem enters_ask {q : consoleSignature.Ask}
    {next : consoleSignature.Answer q → TalkProgram (Except LineError Unit × History)}
    (nothing : Exchange.command? ⟨.inr q, (console q t).1⟩ = none)
    (h : Enters page console (next (console q t).1) s (console q t).2 commands) :
    Enters page console (.ask (S := pageSignature.sum consoleSignature) (.inr q) next) s t
      commands := by
  refine ⟨h.1, Eq.trans ?_ h.2⟩
  exact List.filterMap_cons_none nothing

theorem enters_write {text : String} {next : TalkProgram (Except LineError Unit × History)}
    (h : Enters page console next s (console (.write text) t).2 commands) :
    Enters page console ((write text).bind fun _ => next) s t commands :=
  enters_ask rfl h

theorem enters_readLine
    {next : Except LineError (Option (List Char)) → TalkProgram (Except LineError Unit × History)}
    (nothing : Exchange.entered? (console .readLine t).1 = none)
    (h : Enters page console (next (console .readLine t).1) s (console .readLine t).2 commands) :
    Enters page console (readLine.bind next) s t commands :=
  enters_ask nothing h

variable {input : τ → List UInt8}

theorem enters_command (reads : Console.Reads console input) {command : String}
    {next : Except LineError (Option (List Char)) → TalkProgram (Except LineError Unit × History)}
    {rest : History → TalkProgram (Except LineError Unit × History)} {history : History}
    (entered : Exchange.entered? (console .readLine t).1 = some command)
    (performs : next (console .readLine t).1 = (perform history command).bind rest)
    (h : ∀ history s t', input t' = input (console .readLine t).2 →
      Enters page console (rest history) s t' commands) :
    Enters page console (readLine.bind next) s t (command :: commands) := by
  have state := run_perform_state page console history command s (console .readLine t).2
  have asked := command?_perform page console history command s (console .readLine t).2
  dsimp only at state asked
  have opens : readLine.bind next =
    .ask (S := pageSignature.sum consoleSignature) (.inr .readLine) next := rfl
  unfold Enters
  simp only [opens, Program.run, Program.transcript, Responder.beside, performs, Program.run_bind,
    Program.transcript_bind, state, List.filterMap_cons, List.filterMap_append, asked,
    Exchange.command?, entered, List.nil_append]
  obtain ⟨ends, later⟩ := h _ _ _ ((reads.timed _).trans (reads.written _ _))
  exact ⟨ends, congrArg _ later⟩

theorem enters_loop (reads : Console.Reads console input) (n : Nat) (history : History)
    (text : List Char) (s : σ) (t : τ) (fed : input t = Text.Utf8.encode text)
    (enough : text.length < n) :
    Enters page console (loop n history) s t (commandsIn text) := by
  -- each turn takes the first line off the text, so the bound never ends the loop
  induction n generalizing history text s t with
  | zero => omega
  | succ n ih =>
    rw [loop]
    refine enters_write ?_
    have fed : input (console (.write promptMark) t).2 = Text.Utf8.encode text :=
      (reads.written _ t).trans fed
    generalize (console (.write promptMark) t).2 = t at fed ⊢
    by_cases ended : text = []
    · have reply : (console .readLine t).1 = .ok none := by
        rw [reads.line, fed, ended]
        rfl
      rw [ended]
      refine enters_readLine (by rw [reply]; rfl) ?_
      rw [reply]
      exact enters_write (enters_write (enters_done history))
    · obtain ⟨line, rest, first, shorter, read⟩ :=
        Console.exists_readLine ended { input := input t } fed
      have reply : (console .readLine t).1 = .ok (some line) := by rw [reads.line, read]
      have fed : input (console .readLine t).2 = Text.Utf8.encode rest := by rw [reads.rest, read]
      have split : commandsIn text =
          commandsAmong (String.ofList (Text.trim line) :: entries rest) := by
        rw [commandsIn, entries, first]
        rfl
      rw [split, commandsAmong_cons]
      cases request : Request.ofLine line with
      | command command =>
        refine enters_command reads (by rw [reply, Exchange.entered?, request])
          (by simp only [reply, request]; rfl) fun history s t' same => ?_
        exact ih history rest s t' (same.trans fed) (by omega)
      | nothing =>
        refine enters_readLine (by rw [reply, Exchange.entered?, request]) ?_
        simp only [reply, request]
        exact ih history rest s _ fed (by omega)
      | leave =>
        refine enters_readLine (by rw [reply, Exchange.entered?, request]) ?_
        simp only [reply, request]
        exact enters_write (enters_done history)
      | help | history | test | prompt =>
        refine enters_readLine (by rw [reply, Exchange.entered?, request]) ?_
        simp only [reply, request]
        refine enters_write (ih history rest s _ ?_ (by omega))
        exact (reads.written _ _).trans fed

end Loop

/-- No line of the text is a word of the loop, or a line that a file of commands passes over. -/
def IsPlain (text : List Char) : Prop :=
  ∀ entry ∈ entries text,
    entry ∉ leaveWords ∧ entry ∉ askWords ∧ entry.toList.head? ≠ some '#'

instance (text : List Char) : Decidable (IsPlain text) :=
  inferInstanceAs (Decidable (∀ entry ∈ entries text, _))

theorem commands_eq_commandsIn {text : List Char} (plain : IsPlain text) :
    CommandFile.commands (String.ofList text) = commandsIn text := by
  have stays : (entries text).takeWhile (· ∉ leaveWords) = entries text :=
    List.takeWhile_eq_self_iff.mpr fun entry there => decide_eq_true (plain entry there).1
  rw [commandsIn, commandsAmong, stays, CommandFile.commands, String.toList_ofList]
  have same : ∀ line ∈ (Text.lines text).map Text.trim,
      decide (line ≠ [] ∧ line.head? ≠ some '#') = (isCommand ∘ String.ofList) line := by
    intro line there
    have entered : String.ofList line ∈ entries text := by
      obtain ⟨raw, of, rfl⟩ := List.mem_map.mp there
      exact List.mem_map.mpr ⟨raw, of, rfl⟩
    obtain ⟨-, asks, comment⟩ := plain _ entered
    rw [String.toList_ofList] at comment
    simp [isCommand, asks, comment]
  have split : entries text = ((Text.lines text).map Text.trim).map String.ofList := by
    rw [List.map_map]
    rfl
  rw [List.filter_congr same, split]
  exact List.filter_map.symm

/-- An argument that names a file stands for the commands in its text. -/
theorem run_expand {τ : Type} (files : Responder fileSignature τ) (f : τ) (path text : String)
    (holds : (files (.read path) f).1 = .ok text) :
    ((CommandFile.expand ["@" ++ path]).run files f).1 = .ok (CommandFile.commands text) := by
  have named : Text.after? ['@'] ("@" ++ path).toList = some path.toList := by
    rw [String.toList_append]
    exact Text.after?_append ['@'] path.toList
  have one : (CommandFile.expandOne ("@" ++ path)).run files f =
      (.ok (CommandFile.commands text), (files (.read path) f).2) := by
    unfold CommandFile.expandOne
    rw [named]
    simp only [String.ofList_toList]
    show ((FileError.within _ (files (.read path) f).1).map _, (files (.read path) f).2) = _
    rw [holds]
    rfl
  unfold CommandFile.expand
  simp only [bind, Program.run_bind, one]
  exact congrArg Except.ok (List.append_nil _)

/-- The loop over a text does what a batch of the commands in the text does, and so does a file of commands
with that text. -/
theorem run_eq_perform_commandsIn {σ τ : Type} (page : Page σ)
    (console : Responder consoleSignature τ) (input : τ → List UInt8)
    (reads : Console.Reads console input) (history : History) (text : List Char) (s : σ) (t : τ)
    (fed : input t = Text.Utf8.encode text) :
    let ran := (run history).run (page.beside console) (s, t)
    let heard : List Exchange := (run history).transcript (page.beside console) (s, t)
    let batch := Batch.perform (commandsIn text)
    ran.1.1 = .ok () ∧
      heard.filterMap Exchange.call? = batch.asked page s ∧
      ran.2.1 = (batch.run page s).2 ∧
      (∃ records, ran.1.2 = history ++ records ∧
        records.map (fun r => (r.command, r.locator)) =
          (batch.run page s).1.filterMap Outcome.kept?) ∧
      (IsPlain text → ∀ {υ : Type} (files : Responder fileSignature υ) (f : υ) (path : String),
        (files (.read path) f).1 = .ok (String.ofList text) →
        ((CommandFile.expand ["@" ++ path]).run files f).1 = .ok (commandsIn text)) := by
  intro ran heard batch
  have enters : Enters page console (run history) s t (commandsIn text) := by
    refine enters_write (enters_ask rfl (enters_loop reads _ history text s _ ?_ ?_))
    · rw [reads.counted, reads.written, fed]
    · have bound := reads.bound (console (.write greeting) t).2
      rw [reads.written, fed] at bound
      exact Nat.lt_succ_of_le ((Text.Utf8.length_le_encode text).trans bound)
  obtain ⟨ends, entered⟩ := enters
  obtain ⟨told, noted, left, asked⟩ := run_eq_batch page console history s t
  rw [entered] at told noted left asked
  refine ⟨ends, asked, left, ?_, ?_⟩
  · obtain ⟨records, grown, kept⟩ := History.exists_noteAll told history
    exact ⟨records, noted.trans grown, kept⟩
  · intro plain υ files f path holds
    rw [run_expand files f path _ holds, commands_eq_commandsIn plain]

/-- A text with both line ends and a blank line, on a page with nothing but a button that is only found by
its text. -/
theorem run_eq_perform_commandsIn_renamed :
    let text := "click:#save\r\n\n\t wait:5 \nclick:\"#gone\"".toList
    let commands := ["click:#save", "wait:5", "click:\"#gone\""]
    let input : Console := { input := Text.Utf8.encode text }
    let ran := (run []).run ((renamedPage "Save").beside Console.respond) ((), input)
    commandsIn text = commands ∧ IsPlain text ∧
      ran.1.2.map (fun r => (r.command, r.locator)) = [("click:text=\"Save\"", none)] ∧
      ((CommandFile.expand ["@steps"]).run FileTree.respond
        { files := [(["steps"], .text (String.ofList text))] }).1 = .ok commands := by
  intro text commands input ran
  have entered : commandsIn text = commands := by decide +kernel
  have plain : IsPlain text := by decide +kernel
  have played := run_eq_perform_commandsIn (renamedPage "Save") Console.respond Console.input
    Console.reads_respond [] text () input rfl
  obtain ⟨-, -, -, ⟨records, grown, kept⟩, expands⟩ := played
  refine ⟨entered, plain, ?_, ?_⟩
  · rw [show ran.1.2 = records from grown, kept, entered]
    decide +kernel
  · rw [← entered]
    exact expands plain FileTree.respond _ "steps" rfl

end Interactive

end PageWalk
