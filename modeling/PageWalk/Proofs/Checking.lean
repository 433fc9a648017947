import Mathlib.Data.List.Forall2
import PageWalk.Cli.Check
import PageWalk.Proofs.Contexts
import PageWalk.Proofs.JsonText

/-!
# Checked commands

A check tells of each command whether it can be read, all the way to the last, and ends with the error
of the first that cannot. Main statement: what is told of each command in either format, and that the
error comes out as it is, whatever contexts are put around the failure.
-/

namespace PageWalk

set_option autoImplicit false

namespace Json

variable {v : Json} {members : List (String × Json)}

/-- The member of an object with this key. -/
def member? (key : String) : Json → Option Json
  | obj members => members.lookup key
  | _ => none

theorem normal_obj (sorted : Sorted members) :
    (obj members).normal = obj (members.map fun (key, value) => (key, value.normal)) := by
  have kept : Sorted (members.map fun (key, value) => (key, value.normal)) :=
    List.pairwise_map.mpr sorted
  rw [normal, normalMembers_eq, kept.sortMembers_eq]

/-- A value is read back from a text of its own that ends in a line feed. -/
theorem read?_pretty_line (whole : v.Exact) : read? (v.pretty ++ "\n") = some v := by
  have back := whole.readsBack 0 (.value []) [] ['\n'] (awaits_value []) (pastNumeral_cons _ (by decide))
  have chars : (v.pretty ++ "\n").toList = v.prettyChars 0 ++ ['\n'] := by
    rw [String.toList_append, pretty, String.toList_ofList]
    rfl
  rw [read?, chars, readChars_eq, back, State.read_gap _ (by decide)]
  simp [State.read, tokens, State.result?]

end Json

theorem Goal.exact_toJson (goal : Goal) : goal.toJson.Exact := by
  cases goal with
  | top => exact .leaf rfl trivial
  | bottom => exact .leaf rfl trivial
  | element selector => exact .obj (List.forall_mem_singleton.mpr (.leaf rfl trivial))

theorem Action.exact_toJson (a : Action) : a.toJson.Exact := by
  have text (s : String) : (Json.str s).Exact := .leaf rfl trivial
  have number {n : Nat} (small : n < UInt64.size) : (Json.int n).Exact := by
    have bound : UInt64.size = 0x10000000000000000 := rfl
    exact .leaf rfl ⟨by omega, by omega⟩
  induction a with
  | click selector => exact .obj (by simp [text])
  | goto url => exact .obj (by simp [text])
  | press key => exact .obj (by simp [text])
  | fill selector value => exact .obj (by simp [text])
  | expect aspect value => exact .obj (by simp [text])
  | wait ms => exact .obj (by simp [text, number ms.toNat_lt_size])
  | scroll goal => exact .obj (by simp [text, goal.exact_toJson])
  | loop count body ih =>
    have small : count.toNat < UInt64.size := count.toNat_lt_size.trans (by decide)
    exact .obj (by simp [text, number small, ih])
  | when selector body ih => exact .obj (by simp [text, ih])

namespace Check

open Command (parse)

/-- What is wrong with a command, if anything is. -/
def refusal? (command : String) : Option CommandError :=
  match parse command with
  | .ok _ => none
  | .error e => some e

/-- What is told of a command in JSON. -/
structure Lists (command : String) (item : Json) : Prop where
  name : item.member? "command" = some (.str command)
  valid : item.member? "valid" = some (.bool (parse command).isOk)
  canonical : item.member? "canonical" = (parse command).toOption.map fun a => .str a.command
  action : item.member? "action" = (parse command).toOption.map fun a => a.toJson.normal
  error : item.member? "error" = (refusal? command).map fun e => .str e.message

/-- What is told of a command on a line. -/
inductive IsLineFor (command : String) : String → Prop where
  | read {a : Action} : parse command = .ok a →
    IsLineFor command ("✓ " ++ command ++ "  =>  " ++ a.statement none ++ "\n")
  | refused {e : CommandError} : parse command = .error e →
    IsLineFor command ("✗ " ++ command ++ ": " ++ e.message ++ "\n")

/-- How the check of some commands ends. -/
inductive ChecksTo (commands : List String) : Except Failure Unit → Prop where
  | allRead : (∀ command ∈ commands, ∃ a, parse command = .ok a) → ChecksTo commands (.ok ())
  | refused {before after : List String} {command : String} {e : CommandError} {f : Failure} :
    commands = before ++ command :: after → (∀ command ∈ before, ∃ a, parse command = .ok a) →
    parse command = .error e →
    (∀ contexts : List String, Verdict.of (contexts.foldr Failure.within f) = .command e ∧
      (Verdict.of (contexts.foldr Failure.within f)).exitCode = 2) →
    ChecksTo commands (.error f)

section

variable {command : String} {commands : List String} {e : CommandError}

theorem refusal?_eq_some_iff : refusal? command = some e ↔ parse command = .error e := by
  unfold refusal?
  cases parse command <;> simp

theorem refusal?_eq_none_iff : refusal? command = none ↔ ∃ a, parse command = .ok a := by
  unfold refusal?
  cases parse command <;> simp

theorem firstError?_map_find (commands : List String) :
    firstError? (commands.map find) = commands.findSome? refusal? := by
  rw [firstError?, List.findSome?_map]
  congr 1
  funext command
  unfold refusal?
  simp only [Function.comp, find]
  cases parse command <;> rfl

theorem lists_find (command : String) : Lists command (find command).toJson.normal := by
  rw [Finding.toJson, find]
  dsimp only
  -- the members are in the order of their keys, so each is where it was written
  cases parsed : parse command with
  | ok a =>
    have nothing : refusal? command = none := refusal?_eq_none_iff.mpr ⟨a, parsed⟩
    dsimp only
    have sorted : ["action", "canonical", "command", "valid"].Pairwise (· < ·) := by decide
    rw [Json.normal_obj (by exact List.pairwise_map.mp sorted)]
    exact {
      name := rfl
      valid := by rw [parsed]; rfl
      canonical := by rw [parsed]; rfl
      action := by rw [parsed]; rfl
      error := by rw [nothing]; rfl }
  | error e =>
    have refused : refusal? command = some e := refusal?_eq_some_iff.mpr parsed
    dsimp only
    have sorted : ["command", "error", "valid"].Pairwise (· < ·) := by decide
    rw [Json.normal_obj (by exact List.pairwise_map.mp sorted)]
    exact {
      name := rfl
      valid := by rw [parsed]; rfl
      canonical := by rw [parsed]; rfl
      action := by rw [parsed]; rfl
      error := by rw [refused]; rfl }

theorem exact_toJson_find (command : String) : (find command).toJson.Exact := by
  have leaf (s : String) : (Json.str s).Exact := .leaf rfl trivial
  have flag (b : Bool) : (Json.bool b).Exact := .leaf rfl trivial
  rw [Finding.toJson, find]
  dsimp only
  cases parse command with
  | ok a => exact .obj (by simp [leaf, flag, a.exact_toJson])
  | error e => exact .obj (by simp [leaf, flag])

theorem read?_report (commands : List String) :
    Json.read? (report .json (commands.map find)) =
      some (.arr (commands.map fun command => (find command).toJson.normal)) := by
  have whole : (Json.arr ((commands.map find).map Finding.toJson)).Exact := by
    refine .arr ?_
    rw [List.map_map, List.forall_mem_map]
    exact fun command _ => exact_toJson_find command
  rw [report, Json.read?_pretty_line whole.normal, Json.normal, Json.normalItems_eq, List.map_map,
    List.map_map]
  rfl

theorem isLineFor_find (command : String) : IsLineFor command (find command).text := by
  rw [Finding.text, find]
  dsimp only
  cases parsed : parse command with
  | ok a => exact .read parsed
  | error e => exact .refused parsed

theorem checksTo_verdict (commands : List String) : ChecksTo commands (verdict (commands.map find)) := by
  rw [verdict, firstError?_map_find]
  cases first : commands.findSome? refusal? with
  | none =>
    refine .allRead fun command there => ?_
    exact refusal?_eq_none_iff.mp (List.findSome?_eq_none_iff.mp first command there)
  | some e =>
    obtain ⟨before, command, after, whole, refused, read⟩ := List.findSome?_eq_some_iff.mp first
    refine .refused whole (fun earlier there => refusal?_eq_none_iff.mp (read earlier there))
      (refusal?_eq_some_iff.mp refused) fun contexts => ?_
    have known := Verdict.of_eq_command (Failure.cause_foldr_within contexts ⟨[], .command e⟩)
    exact ⟨known, congrArg Verdict.exitCode known⟩

theorem ChecksTo.eq_ok_iff {result : Except Failure Unit} (h : ChecksTo commands result) :
    result = .ok () ↔ ∀ command ∈ commands, ∃ a, parse command = .ok a := by
  cases h with
  | allRead read => exact iff_of_true rfl read
  | refused whole _ refused _ =>
    constructor
    · intro same
      cases same
    · intro read
      obtain ⟨a, reads⟩ := read _ (whole ▸ List.mem_append_right _ List.mem_cons_self)
      rw [refused] at reads
      cases reads

end

/-- A check tells of each command whether it can be read, and fails just with the error of the first that
cannot. -/
theorem run_reports {σ : Type} (world : Responder deskSignature σ) (s : σ) (commands : List String)
    (format : OutputFormat) :
    let result := ((run commands format).run world s).1
    (∃ text, (run commands format).asked world s = [.inr (.write text)] ∧
        match format with
        | .json => ∃ items, Json.read? text = some (.arr items) ∧ List.Forall₂ Lists commands items
        | .simple => ∃ lines, text = String.join lines ∧ List.Forall₂ IsLineFor commands lines) ∧
      (result = .ok () ↔ ∀ command ∈ commands, ∃ a, parse command = .ok a) ∧
      ChecksTo commands result := by
  intro result
  have ends : ChecksTo commands result := checksTo_verdict commands
  refine ⟨⟨report format (commands.map find), rfl, ?_⟩, ends.eq_ok_iff, ends⟩
  cases format with
  | json =>
    refine ⟨_, read?_report commands, ?_⟩
    exact List.forall₂_map_right_iff.mpr (List.forall₂_same.mpr fun command _ => lists_find command)
  | simple =>
    refine ⟨(commands.map find).map Finding.text, rfl, ?_⟩
    rw [List.map_map]
    exact List.forall₂_map_right_iff.mpr (List.forall₂_same.mpr fun command _ => isLineFor_find command)

end Check

end PageWalk
