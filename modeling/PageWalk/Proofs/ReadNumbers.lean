import Mathlib.Algebra.Group.Nat.Defs
import PageWalk.Browser.Viewport
import PageWalk.Proofs.CommandErrors
import PageWalk.Proofs.Lines

/-!
# Numbers that are read

A wait, a loop and the size of a window are given by numerals of any length. Main statement: each is read
as the very number that its numeral denotes, up to the greatest of its width, and nothing else is read as
a number.
-/

namespace PageWalk

set_option autoImplicit false

namespace Text.Numeral

variable {s : List Char} {limit n m : Nat}

theorem Denotes.unique (h : Denotes s n) (h' : Denotes s m) : n = m :=
  Option.some.inj ((value?_eq_some_iff.mpr h).symm.trans (value?_eq_some_iff.mpr h'))

theorem Denotes.notMem {c : Char} (h : Denotes s n) (digit : c.isDigit = false) (sign : c ≠ '+') :
    c ∉ s := by
  obtain ⟨digits, whole, -, all, -⟩ := h
  intro there
  have among : c ∈ digits := by
    rcases whole with rfl | rfl
    · exact there
    · exact (List.mem_cons.mp there).resolve_left sign
  rw [all c among] at digit
  cases digit

end Text.Numeral

namespace Command

open Text.Numeral (Denotes)

/-- A number is read where the text is a numeral, with blanks around it or not, up to the greatest; any
other text is named as invalid. -/
structure Takes (kind : Kind) (greatest : Nat) (text : List Char) (Made : Nat → Action → Prop)
    (result : Except CommandError Action) : Prop where
  taken : ∀ n, (∃ a, Made n a ∧ result = .ok a) ↔ Denotes (Text.trim text) n ∧ n ≤ greatest
  refused : (∀ n ≤ greatest, ¬ Denotes (Text.trim text) n) →
    result = .error (.invalidNumber kind (String.ofList text))

section

variable {kind : Kind} {limit greatest : Nat} {field : List Char}

theorem takes_number {Made : Nat → Action → Prop} {make : Nat → Action}
    (exact : ∀ m ≤ greatest, ∀ n, Made n (make m) ↔ n = m) :
    Takes kind greatest (Field.unquote field) Made
      ((number kind (greatest + 1) field).map make) := by
  cases read : number kind (greatest + 1) field with
  | ok m =>
    obtain ⟨counts, small⟩ := number_eq_ok_iff.mp read
    have small : m ≤ greatest := Nat.le_of_lt_succ small
    refine ⟨fun n => ⟨?_, ?_⟩, fun none => absurd counts (none m small)⟩
    · rintro ⟨a, made, same⟩
      obtain rfl := Except.ok.inj same
      obtain rfl := (exact m small n).mp made
      exact ⟨counts, small⟩
    · rintro ⟨denotes, -⟩
      exact ⟨make m, (exact m small n).mpr (denotes.unique counts), rfl⟩
  | error e =>
    rw [eq_of_number_eq_error read]
    refine ⟨fun n => ⟨?_, ?_⟩, fun _ => rfl⟩
    · rintro ⟨a, -, same⟩
      cases same
    · rintro ⟨denotes, small⟩
      rw [number_eq_ok_iff.mpr ⟨denotes, Nat.lt_succ_of_le small⟩] at read
      cases read

theorem exists_made_iff {β : Type} {make : β → Action} {toNat : β → Nat} {b : β} {m n : Nat}
    (inj : Function.Injective make) (kept : toNat b = m) :
    (∃ b', make b = make b' ∧ toNat b' = n) ↔ n = m := by
  constructor
  · rintro ⟨b', same, rfl⟩
    rw [← inj same, kept]
  · rintro rfl
    exact ⟨b, rfl, kept⟩

theorem parseChars_wait (params : List Char) :
    parseChars (spell .wait params) =
      (number .wait UInt64.size params).map fun n => .wait (UInt64.ofNat n) := by
  rw [parseChars_eq, readOne_spell, readParams]
  cases number .wait UInt64.size params <;> rfl

theorem parseChars_loop {inner : List Char} {body : Action}
    (split : Field.split (field ++ ':' :: inner) = (field, some inner))
    (reads : parseChars inner = .ok body) :
    parseChars (spell .loop (field ++ ':' :: inner)) =
      (number .loop UInt32.size field).map fun n => .loop (UInt32.ofNat n) body := by
  cases inner with
  | nil =>
    rw [parseChars_eq] at reads
    cases reads
  | cons c inner =>
    rw [parseChars_eq, readOne_spell, readParams, readLoop, split]
    dsimp only
    cases number .loop UInt32.size field with
    | error e => rfl
    | ok n =>
      show (parseChars (c :: inner)).map _ = _
      rw [reads]
      rfl

end

end Command

namespace Viewport

open Text.Numeral (Denotes)

variable {s : List Char} {size : Viewport}

theorem pieces_of_denotes {w h : List Char} {n m : Nat} (wide : Denotes w n) (high : Denotes h m) :
    Text.pieces 'x' (w ++ 'x' :: h) = [w, h] := by
  rw [Text.pieces_append_mark, Text.pieces_of_not_mem (wide.notMem rfl (by decide)),
    Text.pieces_of_not_mem (high.notMem rfl (by decide))]
  rfl

theorem exists_of_parseChars (h : parseChars s = .ok size) :
    ∃ w h, s = w ++ 'x' :: h ∧ Denotes w size.width.toNat ∧ Denotes h size.height.toNat := by
  unfold parseChars at h
  split at h
  · next w h' cut =>
    split at h
    · cases h
    · next width wide =>
      split at h
      · cases h
      · next height high =>
        obtain rfl := Except.ok.inj h
        obtain ⟨wide, fits⟩ := Text.Numeral.below?_eq_some_iff.mp wide
        obtain ⟨high, fits'⟩ := Text.Numeral.below?_eq_some_iff.mp high
        refine ⟨w, h', ?_, ?_, ?_⟩
        · rw [← Text.intercalate_pieces 'x' s, cut]
          simp [List.intercalate]
        · rwa [UInt32.toNat_ofNat_of_lt' fits]
        · rwa [UInt32.toNat_ofNat_of_lt' fits']
  · cases h

theorem parseChars_of_denotes {w h : List Char} (wide : Denotes w size.width.toNat)
    (high : Denotes h size.height.toNat) : parseChars (w ++ 'x' :: h) = .ok size := by
  have width : Text.Numeral.below? UInt32.size w = some size.width.toNat :=
    Text.Numeral.below?_eq_some_iff.mpr ⟨wide, size.width.toNat_lt_size⟩
  have height : Text.Numeral.below? UInt32.size h = some size.height.toNat :=
    Text.Numeral.below?_eq_some_iff.mpr ⟨high, size.height.toNat_lt_size⟩
  simp only [parseChars, pieces_of_denotes wide high, width, height, UInt32.ofNat_toNat]

/-- A size is two numerals with an `x` between them. -/
theorem parse_eq_ok_iff {text : String} :
    parse text = .ok size ↔ ∃ w h, text.toList = w ++ 'x' :: h ∧
      Denotes w size.width.toNat ∧ Denotes h size.height.toNat := by
  refine ⟨exists_of_parseChars, ?_⟩
  rintro ⟨w, h, whole, wide, high⟩
  rw [parse, whole]
  exact parseChars_of_denotes wide high

end Viewport

namespace Command

open Text.Numeral (Denotes)

/-- Numbers of commands and window sizes are read just if they fit, and as what they denote: none is wrapped
or cut. -/
theorem numbers_exact :
    (∀ s : String, Takes .wait (2 ^ 64 - 1) (Field.unquote s.toList)
        (fun n a => ∃ ms : UInt64, a = .wait ms ∧ ms.toNat = n) (parse ("wait:" ++ s))) ∧
      (∀ field command : String, ∀ body,
        Field.split (field ++ ":" ++ command).toList = (field.toList, some command.toList) →
        parse command = .ok body →
        Takes .loop (2 ^ 32 - 1) (Field.unquote field.toList)
          (fun n a => ∃ count : UInt32, a = .loop count body ∧ count.toNat = n)
          (parse ("loop:" ++ field ++ ":" ++ command))) ∧
      ∀ (text : String) (w h : Nat),
        (∃ size, Viewport.parse text = .ok size ∧ size.width.toNat = w ∧ size.height.toNat = h) ↔
          ∃ before after, text.toList = before ++ 'x' :: after ∧ Denotes before w ∧ w ≤ 2 ^ 32 - 1 ∧
            Denotes after h ∧ h ≤ 2 ^ 32 - 1 := by
  refine ⟨fun s => ?_, fun field command body split reads => ?_, fun text w h => ?_⟩
  · have spelled : ("wait:" ++ s).toList = spell .wait s.toList := String.toList_append
    rw [parse, spelled, parseChars_wait]
    refine takes_number fun m small n => ?_
    have kept : (UInt64.ofNat m).toNat = m := UInt64.toNat_ofNat_of_lt' (Nat.lt_succ_of_le small)
    exact exists_made_iff (fun _ _ => Action.wait.inj) kept
  · have cut : (field ++ ":" ++ command).toList = field.toList ++ ':' :: command.toList := by
      rw [String.toList_append, String.toList_append, List.append_assoc]
      rfl
    have spelled : ("loop:" ++ field ++ ":" ++ command).toList =
        spell .loop (field.toList ++ ':' :: command.toList) := by
      have whole : "loop:" ++ field ++ ":" ++ command = "loop:" ++ (field ++ ":" ++ command) := by
        simp only [String.append_assoc]
      rw [whole, String.toList_append, cut]
      rfl
    rw [cut] at split
    rw [parse, spelled, parseChars_loop split reads]
    refine takes_number fun m small n => ?_
    have kept : (UInt32.ofNat m).toNat = m := UInt32.toNat_ofNat_of_lt' (Nat.lt_succ_of_le small)
    exact exists_made_iff (fun _ _ same => (Action.loop.inj same).1) kept
  · constructor
    · rintro ⟨size, read, rfl, rfl⟩
      obtain ⟨before, after, whole, wide, high⟩ := Viewport.parse_eq_ok_iff.mp read
      exact ⟨before, after, whole, wide, Nat.le_of_lt_succ size.width.toNat_lt_size, high,
        Nat.le_of_lt_succ size.height.toNat_lt_size⟩
    · rintro ⟨before, after, whole, wide, small, high, small'⟩
      have width : (UInt32.ofNat w).toNat = w := UInt32.toNat_ofNat_of_lt' (Nat.lt_succ_of_le small)
      have height : (UInt32.ofNat h).toNat = h := UInt32.toNat_ofNat_of_lt' (Nat.lt_succ_of_le small')
      refine ⟨⟨UInt32.ofNat w, UInt32.ofNat h⟩, ?_, width, height⟩
      exact Viewport.parse_eq_ok_iff.mpr ⟨before, after, whole, width.symm ▸ wide, height.symm ▸ high⟩

/-- The greatest number of turns, in quotes, with a sign, zeros and blanks; one more is none. -/
theorem numbers_exact_greatest :
    let field := "\" +004294967295 \""
    let wider := "4294967296"
    Field.split (field ++ ":" ++ "wait:1").toList = (field.toList, some "wait:1".toList) ∧
      Field.split (wider ++ ":" ++ "wait:1").toList = (wider.toList, some "wait:1".toList) ∧
      parse "wait:1" = .ok (.wait 1) ∧
      parse ("loop:" ++ field ++ ":" ++ "wait:1") = .ok (.loop 4294967295 (.wait 1)) ∧
      parse ("loop:" ++ wider ++ ":" ++ "wait:1") = .error (.invalidNumber .loop wider) := by
  intro field wider
  have inside : parse "wait:1" = .ok (.wait 1) := parseChars_of_leaf rfl
  have split : Field.split (field ++ ":" ++ "wait:1").toList = (field.toList, some "wait:1".toList) := by
    decide
  have split' : Field.split (wider ++ ":" ++ "wait:1").toList =
      (wider.toList, some "wait:1".toList) := by
    decide
  refine ⟨split, split', inside, ?_, ?_⟩
  · have stands : Denotes (Text.trim (Field.unquote field.toList)) 4294967295 :=
      Text.Numeral.value?_eq_some_iff.mp (by decide +kernel)
    have reads := numbers_exact.2.1 field "wait:1" (.wait 1) split inside
    obtain ⟨_, ⟨count, rfl, same⟩, read⟩ := (reads.taken 4294967295).mpr ⟨stands, by decide⟩
    rw [read, show count = 4294967295 from UInt32.toNat_inj.mp same]
  · have stands : Denotes (Text.trim (Field.unquote wider.toList)) 4294967296 :=
      Text.Numeral.value?_eq_some_iff.mp (by decide +kernel)
    have reads := numbers_exact.2.1 wider "wait:1" (.wait 1) split' inside
    have plain : String.ofList (Field.unquote wider.toList) = wider := by decide
    have refused := reads.refused fun n small denotes => by
      have same : n = 4294967296 := denotes.unique stands
      omega
    rwa [plain] at refused

end Command

end PageWalk
