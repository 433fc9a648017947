import PageWalk.Proofs.Lines
import PageWalk.Proofs.Utf8
import PageWalk.Url.Query

/-!
# Queries read back

Names and values may hold any characters, separators and percent signs among them, and may be empty.
Written as a query they are read as they were, pair by pair.
-/

namespace PageWalk.Url

set_option autoImplicit false

namespace Percent

section Decoding

variable {c : Char} (rest : List Char)

theorem decode_byte (b : UInt8) : decode (byte b ++ rest) = b :: decode rest := by
  have bound : b.toNat < 256 := b.toNat_lt
  have high := Text.hexValue_upperHexDigit (b.toNat / 16) (by omega)
  have low := Text.hexValue_upperHexDigit (b.toNat % 16) (by omega)
  have whole : UInt8.ofNat (16 * (b.toNat / 16) + b.toNat % 16) = b := by
    rw [Nat.div_add_mod, UInt8.ofNat_toNat]
  show decode ('%' :: _ :: _ :: rest) = _
  rw [decode, high, low]
  exact congrArg (· :: decode rest) whole

theorem decode_bytes (bytes : List UInt8) :
    decode (bytes.flatMap byte ++ rest) = bytes ++ decode rest := by
  induction bytes with
  | nil => rfl
  | cons b bytes ih => rw [List.flatMap_cons, List.append_assoc, decode_byte, ih, List.cons_append]

theorem decode_cons_of_ne (plain : c ≠ '%') :
    decode (c :: rest) = Text.Utf8.encode [c] ++ decode rest :=
  decode.eq_3 c rest fun _ _ _ percent _ => plain percent

end Decoding

/-- What bytes are written with. -/
def byteChars : List Char :=
  '%' :: (List.range 16).map Text.upperHexDigit

theorem upperHexDigit_mem_byteChars {n : Nat} (h : n < 16) : Text.upperHexDigit n ∈ byteChars :=
  List.mem_cons_of_mem _ (List.mem_map_of_mem (List.mem_range.mpr h))

theorem forall_mem_byteChars {P : Char → Prop} (percent : P '%')
    (digits : ∀ n < 16, P (Text.upperHexDigit n)) : ∀ c ∈ byteChars, P c := by
  refine List.forall_mem_cons.mpr ⟨percent, List.forall_mem_map.mpr fun n there => ?_⟩
  exact digits n (List.mem_range.mp there)

theorem mem_byteChars_of_mem_byte {c : Char} {b : UInt8} (h : c ∈ byte b) : c ∈ byteChars := by
  have bound : b.toNat < 256 := b.toNat_lt
  simp only [byte, List.mem_cons, List.not_mem_nil, or_false] at h
  rcases h with rfl | rfl | rfl
  · exact List.mem_cons_self
  · exact upperHexDigit_mem_byteChars (by omega)
  · exact upperHexDigit_mem_byteChars (by omega)

/-- What is written stands for itself, or belongs to a byte. -/
theorem of_mem_encode {keeps : Char → Bool} {s : List Char} {c : Char} (h : c ∈ encode keeps s) :
    (c ∈ s ∧ keeps c = true) ∨ c ∈ byteChars := by
  obtain ⟨d, there, h⟩ := List.mem_flatMap.mp h
  split at h
  · next kept =>
    obtain rfl := List.mem_singleton.mp h
    exact .inl ⟨there, kept⟩
  · obtain ⟨b, -, h⟩ := List.mem_flatMap.mp h
    exact .inr (mem_byteChars_of_mem_byte h)

/-- Where bytes may stand for themselves, whatever is written may. -/
theorem keeps_of_mem_encode {keeps : Char → Bool} (bytes : ∀ c ∈ byteChars, keeps c = true)
    {s : List Char} {c : Char} (h : c ∈ encode keeps s) : keeps c = true := by
  rcases of_mem_encode h with ⟨-, kept⟩ | byte
  · exact kept
  · exact bytes c byte

theorem length_le_encode (keeps : Char → Bool) (s : List Char) :
    s.length ≤ (encode keeps s).length := by
  induction s with
  | nil => exact Nat.le_refl _
  | cons c s ih =>
    have some : 1 ≤ (encode keeps [c]).length := by
      rw [encode, List.flatMap_singleton]
      split
      · exact Nat.le_refl _
      · have bytes : Text.Utf8.encode [c] ≠ [] := by
          rw [Text.Utf8.encode, List.flatMap_singleton]
          exact String.utf8EncodeChar_ne_nil
        obtain ⟨b, more, written⟩ := List.exists_cons_of_ne_nil bytes
        rw [written, List.flatMap_cons, byte]
        exact Nat.le_add_left _ _
    have split : encode keeps (c :: s) = encode keeps [c] ++ encode keeps s := by
      simp only [encode, List.flatMap_cons, List.flatMap_nil, List.append_nil]
    rw [split, List.length_append, List.length_cons]
    omega

theorem encode_of_kept {keeps : Char → Bool} {s : List Char} (h : ∀ c ∈ s, keeps c = true) :
    encode keeps s = s := by
  induction s with
  | nil => rfl
  | cons c s ih =>
    obtain ⟨kept, later⟩ := List.forall_mem_cons.mp h
    rw [encode, List.flatMap_cons, if_pos kept]
    exact congrArg (c :: ·) (ih later)

end Percent

namespace Query

/-- A character of a name or of a value as it is written. -/
def writtenChar (c : Char) : List Char :=
  if c = ' ' then ['+'] else Percent.encode keeps [c]

theorem encodePart_eq (s : String) : encodePart s = s.toList.flatMap writtenChar := rfl

def plusAsSpace (c : Char) : Char :=
  if c = '+' then ' ' else c

theorem keeps_or_eq_of_mem_byteChars :
    ∀ c ∈ Percent.byteChars, keeps c = true ∨ c = '+' ∨ c = '%' :=
  Percent.forall_mem_byteChars (by decide) (by decide)

theorem of_mem_writtenChar {c d : Char} (h : d ∈ writtenChar c) :
    keeps d = true ∨ d = '+' ∨ d = '%' := by
  unfold writtenChar at h
  split at h
  · exact .inr (.inl (List.mem_singleton.mp h))
  · rcases Percent.of_mem_encode h with ⟨-, kept⟩ | byte
    · exact .inl kept
    · exact keeps_or_eq_of_mem_byteChars d byte

theorem of_mem_encodePart {s : String} {c : Char} (h : c ∈ encodePart s) :
    keeps c = true ∨ c = '+' ∨ c = '%' := by
  rw [encodePart_eq] at h
  obtain ⟨d, -, h⟩ := List.mem_flatMap.mp h
  exact of_mem_writtenChar h

theorem ampersand_notMem_encodePart (s : String) : '&' ∉ encodePart s :=
  fun there => absurd (of_mem_encodePart there) (by decide)

theorem equals_notMem_encodePart (s : String) : '=' ∉ encodePart s :=
  fun there => absurd (of_mem_encodePart there) (by decide)

theorem plusAsSpace_of_ne {c : Char} (plain : c ≠ '+') : plusAsSpace c = c :=
  if_neg plain

/-- Whatever follows it, a character is read as it was before it was written. -/
theorem decode_writtenChar (c : Char) (rest : List Char) :
    Percent.decode ((writtenChar c ++ rest).map plusAsSpace) =
      Text.Utf8.encode [c] ++ Percent.decode (rest.map plusAsSpace) := by
  rw [List.map_append, writtenChar]
  split
  · next space =>
    obtain rfl := space
    exact Percent.decode_cons_of_ne _ (by decide)
  · by_cases kept : keeps c = true
    · have plain : c ≠ '+' ∧ c ≠ '%' := by
        constructor <;> rintro rfl <;> exact absurd kept (by decide)
      rw [Percent.encode_of_kept (List.forall_mem_singleton.mpr kept), List.map_singleton,
        plusAsSpace_of_ne plain.1, List.singleton_append, Percent.decode_cons_of_ne _ plain.2]
    · have bytes : Percent.encode keeps [c] = (Text.Utf8.encode [c]).flatMap Percent.byte := by
        rw [Percent.encode, List.flatMap_singleton, if_neg kept]
      have same : (Percent.encode keeps [c]).map plusAsSpace = Percent.encode keeps [c] := by
        refine (List.map_congr_left fun d there => plusAsSpace_of_ne ?_).trans (List.map_id _)
        rintro rfl
        rcases Percent.of_mem_encode there with ⟨-, kept⟩ | byte
        · exact absurd kept (by decide)
        · exact absurd byte (by decide)
      rw [same, bytes, Percent.decode_bytes]

theorem decode_encodePart (s : List Char) :
    Percent.decode ((s.flatMap writtenChar).map plusAsSpace) = Text.Utf8.encode s := by
  induction s with
  | nil => rfl
  | cons c s ih =>
    rw [List.flatMap_cons, decode_writtenChar, ih, ← Text.Utf8.encode_append]
    rfl

theorem decodePart_encodePart (s : String) : decodePart (encodePart s) = s := by
  have bytes : Percent.decode ((encodePart s).map plusAsSpace) = Text.Utf8.encode s.toList := by
    rw [encodePart_eq, decode_encodePart]
  show String.ofList (Text.Utf8.decodeLossy (Percent.decode ((encodePart s).map plusAsSpace))) = s
  rw [bytes, Text.Utf8.decodeLossy_encode, String.ofList_toList]

def writtenPair (pair : String × String) : List Char :=
  encodePart pair.1 ++ '=' :: encodePart pair.2

theorem pair_writtenPair (p : String × String) : pair (writtenPair p) = p := by
  rw [pair, writtenPair, Text.splitFirst_append (equals_notMem_encodePart p.1)]
  simp only [decodePart_encodePart]

theorem write_eq (list : List (String × String)) :
    write list = String.ofList (List.intercalate ['&'] (list.map writtenPair)) := rfl

theorem notMem_writtenPair (pair : String × String) : '&' ∉ writtenPair pair := by
  rw [writtenPair, List.mem_append, List.mem_cons, not_or, not_or]
  exact ⟨ampersand_notMem_encodePart pair.1, by decide, ampersand_notMem_encodePart pair.2⟩

theorem pieces_write {list : List (String × String)} (some : list ≠ []) :
    Text.pieces '&' (write list).toList = list.map writtenPair := by
  have whole : ∀ part ∈ list.map writtenPair, '&' ∉ part :=
    List.forall_mem_map.mpr fun pair _ => notMem_writtenPair pair
  rw [write_eq, String.toList_ofList, Text.pieces_intercalate (by simpa using some),
    Text.flatMap_pieces whole]

/-- A written query is read as the pairs that it was written from. -/
theorem pairs_write (list : List (String × String)) : pairs (write list) = list := by
  by_cases some : list = []
  · subst some
    rfl
  · have full : ∀ part ∈ list.map writtenPair, decide (part ≠ []) = true :=
      List.forall_mem_map.mpr fun pair _ =>
        decide_eq_true (List.append_ne_nil_of_right_ne_nil _ (List.cons_ne_nil _ _))
    have read : (list.map writtenPair).map pair = list := by
      rw [List.map_map]
      exact (List.map_congr_left fun p _ => pair_writtenPair p).trans (List.map_id list)
    rw [pairs, pieces_write some, List.filter_eq_self.mpr full, read]

theorem of_mem_write {list : List (String × String)} {c : Char} (h : c ∈ (write list).toList) :
    keeps c = true ∨ c ∈ ['%', '&', '+', '='] := by
  by_cases ampersand : c = '&'
  · subst ampersand
    exact .inr (by decide)
  · have some : list ≠ [] := by
      rintro rfl
      exact absurd h List.not_mem_nil
    obtain ⟨piece, there, mem⟩ := Text.exists_mem_pieces h ampersand
    rw [pieces_write some] at there
    obtain ⟨pair, -, rfl⟩ := List.mem_map.mp there
    have part {s : String} (h : c ∈ encodePart s) : keeps c = true ∨ c ∈ ['%', '&', '+', '='] := by
      rcases of_mem_encodePart h with kept | rfl | rfl
      · exact .inl kept
      · exact .inr (by decide)
      · exact .inr (by decide)
    rw [writtenPair, List.mem_append, List.mem_cons] at mem
    rcases mem with name | rfl | value
    · exact part name
    · exact .inr (by decide)
    · exact part value

end Query

end PageWalk.Url
