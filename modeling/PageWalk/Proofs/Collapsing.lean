import PageWalk.Proofs.Grammar
import PageWalk.Proofs.PromptLines

/-!
# Which records are kept

The steps of a test carry on the place of the step before. Seen from the history alone, a record is left
out just if it and the record right before it, kept or not, go to the same place. Main statement: a test and
a prompt tell of the records that are kept, each on its own lines, and of these none is left out again.
-/

namespace PageWalk.TestSource

set_option autoImplicit false

/-- The command of a record goes to an address. -/
def Goes (r : Record) (url : String) : Prop :=
  Command.parse r.command = .ok (.goto url)

/-- The record at a position goes where the record right before it has gone. -/
def Repeats (history : History) (i : Nat) : Prop :=
  0 < i ∧ ∃ before r url, history[i - 1]? = some before ∧ history[i]? = some r ∧
    Goes before url ∧ Goes r url

/-- Where a record goes, if its command goes anywhere. -/
def place? (r : Record) : Option String :=
  (Step.ofRecord r).place?

section Places

variable {r : Record} {url : String}

theorem asksFor_goto_iff {s : List Char} : Command.AsksFor s (.goto url) ↔
    ∃ field, s = Command.spell .goto field ∧ Field.unquote field = url.toList ∧ url ≠ "" := by
  constructor
  · generalize asked : Action.goto url = action
    intro said
    cases said with
    | @leaf kind params _ reads =>
      subst asked
      generalize known : Command.Reading.leaf (.goto url) = reading at reads
      cases reads with
      | single one text some =>
        cases one with
        | goto =>
          cases known
          exact ⟨params, rfl, text, some⟩
        | click | press | scroll => cases known
      | fill | wait | expect | loop | when => cases known
    | @nested _ _ _ wrapper => cases wrapper <;> cases asked
  · rintro ⟨field, rfl, text, some⟩
    exact .leaf (.single .goto text some)

/-- A record goes to an address just if its command is the word `goto` with a field that says the address. -/
theorem goes_iff : Goes r url ↔ ∃ field, r.command.toList = Command.spell .goto field ∧
    Field.unquote field = url.toList ∧ url ≠ "" :=
  Command.parse_eq_ok_iff.trans asksFor_goto_iff

theorem place?_eq_some_iff : place? r = some url ↔ Goes r url := by
  unfold place? Step.place? Step.ofRecord Goes
  dsimp only
  split
  · next other parsed =>
    rw [parsed, Option.some.injEq, Except.ok.injEq, Action.goto.injEq]
  · next other =>
    exact iff_of_false nofun fun parsed => other url parsed

end Places

section Positions

variable {last : Option String} {r : Record}

theorem repeats_iff (history : History) (i : Nat) : Repeats history i ↔
    0 < i ∧ (history[i]?.bind place?).isSome ∧
      history[i]?.bind place? = history[i - 1]?.bind place? := by
  refine and_congr_right fun _ => ⟨?_, ?_⟩
  · rintro ⟨before, r, url, there, here, went, goes⟩
    rw [there, here, Option.bind_some, Option.bind_some, place?_eq_some_iff.mpr went,
      place?_eq_some_iff.mpr goes]
    exact ⟨rfl, rfl⟩
  · rintro ⟨some, same⟩
    obtain ⟨url, visits⟩ := Option.isSome_iff_exists.mp some
    obtain ⟨r, here, goes⟩ := Option.bind_eq_some_iff.mp visits
    obtain ⟨before, there, went⟩ := Option.bind_eq_some_iff.mp (same.symm.trans visits)
    exact ⟨before, r, url, there, here, place?_eq_some_iff.mp went, place?_eq_some_iff.mp goes⟩

instance (history : History) (i : Nat) : Decidable (Repeats history i) :=
  decidable_of_iff _ (repeats_iff history i).symm

/-- The records that do not repeat the one before them, in order. -/
def kept (history : History) : History :=
  (history.zipIdx.filter fun (_, i) => ¬ Repeats history i).map Prod.fst

/-- A record that comes after one which went to `last` goes there again. -/
def Again (last : Option String) (r : Record) : Prop :=
  (place? r).isSome ∧ place? r = last

instance (last : Option String) (r : Record) : Decidable (Again last r) :=
  inferInstanceAs (Decidable (_ ∧ _))

/-- Nothing is gone to again after a record that goes nowhere. -/
theorem not_again_none (r : Record) : ¬ Again none r := by
  rintro ⟨some, none⟩
  rw [none] at some
  cases some

theorem stepsAfter_of_again (h : Again last r) (rest : History) :
    stepsAfter last (r :: rest) = stepsAfter last rest := by
  rw [stepsAfter]
  exact if_pos h

theorem stepsAfter_of_not_again (h : ¬ Again last r) (rest : History) :
    stepsAfter last (r :: rest) = Step.ofRecord r :: stepsAfter (place? r) rest := by
  rw [stepsAfter]
  exact if_neg h

theorem repeats_length_iff (before : History) (r : Record) (rest : History) :
    Repeats (before ++ r :: rest) before.length ↔ Again (before.getLast?.bind place?) r := by
  have here : (before ++ r :: rest)[before.length]? = some r := by simp
  rw [repeats_iff, here, Option.bind_some, Again]
  rcases List.eq_nil_or_concat before with rfl | ⟨earlier, b, rfl⟩
  · exact iff_of_false (fun h => absurd h.1 (Nat.lt_irrefl 0)) (not_again_none r)
  · have there : (earlier.concat b ++ r :: rest)[(earlier.concat b).length - 1]? = some b := by
      simp
    rw [there, List.concat_eq_append, List.getLast?_concat]
    exact and_iff_right (by simp)

/-- The place that is carried on is that of the record right before, so the steps are the records that do not
repeat it. -/
theorem stepsAfter_eq (before rest : History) :
    stepsAfter (before.getLast?.bind place?) rest =
      ((rest.zipIdx before.length).filter fun (_, i) => ¬ Repeats (before ++ rest) i).map
        fun (r, _) => Step.ofRecord r := by
  induction rest generalizing before with
  | nil => rfl
  | cons r rest ih =>
    have later := ih (before ++ [r])
    rw [List.getLast?_concat, List.length_append, List.length_singleton, List.append_assoc,
      List.singleton_append, Option.bind_some] at later
    rw [List.zipIdx_cons, List.filter_cons]
    -- kept or not, the record leaves its own place behind: a repeated one went to the same
    by_cases again : Again (before.getLast?.bind place?) r
    · have out : Repeats (before ++ r :: rest) before.length := (repeats_length_iff before r rest).mpr again
      rw [stepsAfter_of_again again, ← again.2, later]
      simp [out]
    · have stays : ¬ Repeats (before ++ r :: rest) before.length :=
        fun out => again ((repeats_length_iff before r rest).mp out)
      rw [stepsAfter_of_not_again again, later]
      simp [stays]

theorem steps_eq_kept (history : History) : steps history = (kept history).map Step.ofRecord := by
  rw [kept, List.map_map]
  exact stepsAfter_eq [] history

theorem kept_eq_map_steps (history : History) : kept history = (steps history).map Step.record := by
  rw [steps_eq_kept, List.map_map]
  exact (List.map_id (kept history)).symm

theorem stepsAfter_kept (last : Option String) (history : History) :
    stepsAfter last ((stepsAfter last history).map Step.record) = stepsAfter last history := by
  induction history generalizing last with
  | nil => rfl
  | cons r rest ih =>
    by_cases again : Again last r
    · rw [stepsAfter_of_again again, ih]
    · rw [stepsAfter_of_not_again again, List.map_cons]
      exact (stepsAfter_of_not_again again _).trans (congrArg _ (ih (place? r)))

theorem steps_kept (history : History) : steps (kept history) = steps history := by
  rw [kept_eq_map_steps]
  exact stepsAfter_kept none history

theorem kept_eq_nil_iff {history : History} : kept history = [] ↔ history = [] := by
  rw [kept_eq_map_steps, List.map_eq_nil_iff]
  cases history with
  | nil => exact iff_of_true rfl rfl
  | cons r rest =>
    refine iff_of_false ?_ (List.cons_ne_nil r rest)
    rw [steps, stepsAfter_of_not_again (not_again_none r)]
    exact List.cons_ne_nil _ _

end Positions

section Shown

/-- What a test says of a record. -/
def rows (r : Record) : List String :=
  match Command.parse r.command with
  | .ok a => a.linesFrom 0 r.locator
  | .error e => ["// Failed to parse command '" ++ oneLine r.command ++ "': " ++ oneLine e.message]

/-- The lines on which a test says it. A locator may have line breaks, so the rows are cut once more. -/
def shown (r : Record) : List (List Char) :=
  (Text.linesWithin (joined "\n" (rows r)).toList).map fun line => ' ' :: ' ' :: line

theorem toList_oneLine (s : String) :
    (oneLine s).toList = s.toList.map fun c => if c = '\r' ∨ c = '\n' then ' ' else c :=
  String.toList_ofList

theorem toList_rows (r : Record) :
    (joined "\n" (rows r)).toList = (Step.ofRecord r).statement.toList := by
  rw [rows, Step.statement, Step.ofRecord]
  dsimp only
  cases Command.parse r.command with
  | ok a =>
    dsimp only
    rw [a.toList_statement, String.toList_intercalate]
    rfl
  | error e =>
    exact congrArg String.toList String.intercalate_singleton

theorem pieces_block (r : Record) : Text.pieces '\n' (Step.ofRecord r).block.toList = shown r := by
  rw [Step.pieces_block_eq, shown, toList_rows]

end Shown

theorem pieces_test_kept (history : History) : Text.pieces '\n' (test history).toList =
    opening.map String.toList ++ (kept history).flatMap shown ++ [closing.toList] := by
  have head : ∀ line ∈ opening.map String.toList, '\n' ∉ line := by decide
  have last : '\n' ∉ closing.toList := by decide
  have some : opening.map String.toList ++ ((steps history).map Step.block).map String.toList ++
      [closing.toList] ≠ [] := List.append_ne_nil_of_right_ne_nil _ (List.cons_ne_nil _ _)
  rw [toList_test, Text.pieces_intercalate some, List.flatMap_append, List.flatMap_append,
    Text.flatMap_pieces head, List.flatMap_singleton, Text.pieces_of_not_mem last, steps_eq_kept,
    List.flatMap_map, List.flatMap_map, List.flatMap_map]
  simp only [pieces_block]

theorem prompt_kept (history : History) : prompt history = guidelines ++
    String.join ((kept history).mapIdx fun i r =>
      Step.entry (i + 1) ⟨r, Command.parse r.command⟩ ++ "\n") ++
    (if kept history = [] then "(no steps recorded)\n" else "") ++
    "\nReturn only the TypeScript source.\n" := by
  have listed : itemsFrom 1 (steps history) = (kept history).mapIdx fun i r =>
      Step.entry (i + 1) ⟨r, Command.parse r.command⟩ ++ "\n" := by
    rw [itemsFrom_steps, entries, steps_eq_kept]
    refine List.ext_getElem (by simp) fun i _ _ => ?_
    simp [Step.ofRecord]
  simp only [prompt, listed, kept_eq_nil_iff]

/-- A test and a prompt say, in order, just what is kept, and written from that alone they are the same. -/
theorem written_from_kept (history : History) :
    Text.pieces '\n' (test history).toList =
        opening.map String.toList ++ (kept history).flatMap shown ++ [closing.toList] ∧
      prompt history = guidelines ++
          String.join ((kept history).mapIdx fun i r =>
            Step.entry (i + 1) ⟨r, Command.parse r.command⟩ ++ "\n") ++
          (if kept history = [] then "(no steps recorded)\n" else "") ++
          "\nReturn only the TypeScript source.\n" ∧
      (∀ s, (oneLine s).toList = s.toList.map fun c => if c = '\r' ∨ c = '\n' then ' ' else c) ∧
      (∀ r, (∀ l ∈ r.locator, Text.Unbroken l.toList) →
        shown r = (Step.lines ⟨r, Command.parse r.command⟩).map String.toList) ∧
      (∀ r url, Goes r url ↔ ∃ field, r.command.toList = Command.spell .goto field ∧
        Field.unquote field = url.toList ∧ url ≠ "") ∧
      test (kept history) = test history ∧ prompt (kept history) = prompt history := by
  refine ⟨pieces_test_kept history, prompt_kept history, toList_oneLine, fun r single => ?_,
    fun r url => goes_iff, ?_, ?_⟩
  · rw [← pieces_block]
    exact Step.pieces_block single
  · rw [test, test, steps_kept]
  · simp only [prompt, steps_kept, kept_eq_nil_iff]

/-- The second record is spelled otherwise; after what is no command, or goes there inside a loop, a place is
gone to anew. -/
example :
    kept [⟨"goto:a", none, 0⟩, ⟨"goto:\"\\u0061\"", none, 1⟩, ⟨"away", none, 2⟩, ⟨"goto:a", none, 3⟩,
      ⟨"loop:1:goto:a", none, 4⟩, ⟨"goto:a", none, 5⟩] =
    [⟨"goto:a", none, 0⟩, ⟨"away", none, 2⟩, ⟨"goto:a", none, 3⟩, ⟨"loop:1:goto:a", none, 4⟩,
      ⟨"goto:a", none, 5⟩] := by
  decide +kernel

end PageWalk.TestSource
