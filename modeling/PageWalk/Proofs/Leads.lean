import Mathlib.Data.List.Forall2
import PageWalk.Proofs.RoundTrip

/-!
# What stands before a command

A loop or a condition is opened by a text that ends at the colon before the command inside. Main
statement: behind any number of such texts, a command is read as it is on its own, and what is wrong
with it is reported as it is on its own.
-/

namespace PageWalk

set_option autoImplicit false

/-- A condition looks for something. -/
def Wrapper.IsNamed : Wrapper → Prop
  | loop _ => True
  | when selector => selector ≠ ""

instance : (w : Wrapper) → Decidable w.IsNamed
  | .loop _ => .isTrue trivial
  | .when _ => inferInstanceAs (Decidable (_ ≠ _))

end PageWalk

namespace PageWalk.Command

set_option autoImplicit false

/-- The texts that open a loop or a condition, with its parameter in any spelling. -/
inductive Leads : Wrapper → List Char → Prop where
  | loop {count : UInt32} {numeral field : List Char} :
    Text.Numeral.Denotes (Text.trim numeral) count.toNat → InnerField numeral field →
    Leads (.loop count) ("loop:".toList ++ field ++ [':'])
  | when {selector : String} {field : List Char} :
    selector ≠ "" → InnerField selector.toList field →
    Leads (.when selector) ("if:".toList ++ field ++ [':'])

section

variable {w : Wrapper} {ws : List Wrapper} {lead s : List Char} {leads : List (List Char)}

theorem leads_lead (named : w.IsNamed) : Leads w w.lead := by
  cases w with
  | loop count => exact .loop (Text.Numeral.denotes_trim_write _) (.bare (isBare_write _))
  | when selector => exact .when named (innerField_written _)

theorem Leads.readOne_append (h : Leads w lead) (some : s ≠ []) :
    readOne (lead ++ s) = .ok (.nested w s) := by
  cases h with
  | loop value spelled =>
    have opens : "loop:".toList = Kind.loop.name.toList ++ [':'] := rfl
    rw [lead_append opens]
    exact readOne_of_reads (spelled.reads_loop value some)
  | when named spelled =>
    have opens : "if:".toList = Kind.when.name.toList ++ [':'] := rfl
    rw [lead_append opens]
    exact readOne_of_reads (spelled.reads_when named some)

theorem parseChars_behind (opened : List.Forall₂ Leads ws leads) (some : s ≠ []) :
    parseChars (leads.flatten ++ s) = (parseChars s).map fun a => ws.foldr Wrapper.wrap a := by
  induction opened with
  | nil =>
    rw [List.flatten_nil, List.nil_append]
    cases parseChars s <;> rfl
  | @cons w lead ws leads first _ ih =>
    have more : leads.flatten ++ s ≠ [] := List.append_ne_nil_of_right_ne_nil _ some
    rw [List.flatten_cons, List.append_assoc, parseChars_of_nested (first.readOne_append more), ih]
    cases parseChars s <;> rfl

theorem forall₂_leads_lead (named : ∀ w ∈ ws, w.IsNamed) :
    List.Forall₂ Leads ws (ws.map Wrapper.lead) :=
  List.forall₂_map_right_iff.mpr (List.forall₂_same.mpr fun w there => leads_lead (named w there))

end

/-- A command behind any number of openings is read, or refused, as on its own, inside the loops and
conditions that they open. -/
theorem parse_behind_leads {command : String} (some : command ≠ "") :
    (∀ ws : List Wrapper, (∀ w ∈ ws, w.IsNamed) →
        parse (String.ofList (ws.flatMap Wrapper.lead ++ command.toList)) =
          (parse command).map fun a => ws.foldr Wrapper.wrap a) ∧
      ∀ ws leads, List.Forall₂ Leads ws leads →
        parse (String.ofList (leads.flatten ++ command.toList)) =
          (parse command).map fun a => ws.foldr Wrapper.wrap a := by
  have behind : ∀ ws leads, List.Forall₂ Leads ws leads →
      parse (String.ofList (leads.flatten ++ command.toList)) =
        (parse command).map fun a => ws.foldr Wrapper.wrap a := by
    intro ws leads opened
    rw [parse, String.toList_ofList]
    exact parseChars_behind opened (toList_ne_nil some)
  refine ⟨fun ws named => ?_, behind⟩
  rw [List.flatMap_def]
  exact behind ws _ (forall₂_leads_lead named)

/-- A selector with a colon and a quote in it, and a numeral in quotes; what stands behind is no command. -/
theorem parse_behind_leads_unknown :
    "hover:\"a:b" ≠ "" ∧ (∀ w ∈ [Wrapper.loop 3, .when "li:\"x"], w.IsNamed) ∧
      parse "loop:3:if:\"li:\\\"x\":hover:\"a:b" = .error (.unknownType "hover") ∧
      List.Forall₂ Leads [.loop 3] ["loop:\"+03\":".toList] ∧
      parse "loop:\"+03\":hover:\"a:b" = .error (.unknownType "hover") := by
  have unknown : parse "hover:\"a:b" = .error (.unknownType "hover") := parseChars_of_error rfl
  have named : ∀ w ∈ [Wrapper.loop 3, .when "li:\"x"], w.IsNamed := by decide
  have three : Text.Numeral.Denotes (Text.trim "+03".toList) (3 : UInt32).toNat :=
    Text.Numeral.value?_eq_some_iff.mp (by decide)
  have opened : List.Forall₂ Leads [.loop 3] ["loop:\"+03\":".toList] :=
    .cons (.loop three (.wrapped _)) .nil
  have some : "hover:\"a:b" ≠ "" := by decide
  obtain ⟨canonical, spelled⟩ := parse_behind_leads some
  refine ⟨some, named, ?_, opened, ?_⟩
  · exact (canonical _ named).trans (by rw [unknown]; rfl)
  · exact (spelled _ _ opened).trans (by rw [unknown]; rfl)

end PageWalk.Command
