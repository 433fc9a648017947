import PageWalk.Proofs.TextPart
import PageWalk.Run.Healing

/-!
# The keyword of a selector

Letters and digits of ASCII make the words of a selector, and all else only parts them. `Runs` puts a text
together from its words and gaps, and `KnownBy` says by which word a list of them is known. Main statement:
the keyword is that word in lower case, so neither gaps nor case matter, and healing always looks for a
keyword that is in lower case as the texts are with which it is compared.
-/

namespace PageWalk

set_option autoImplicit false

namespace Text

variable {c : Char} {s t word text : List Char}

section Letters

theorem lt_of_isAlphanum (h : c.isAlphanum = true) : c.toNat < 0x80 := by
  have range := bounds_of_isAlphanum h
  omega

theorem isAlphanum_asciiLower (c : Char) : (asciiLower c).isAlphanum = c.isAlphanum := by
  by_cases ascii : c.toNat < 0x80
  · exact forall_ascii (by decide +kernel) c ascii
  · rw [asciiLower_of_le (Nat.le_of_not_lt ascii)]

theorem isAlphanum_of_small (h : c.isLower = true ∨ c.isDigit = true) : c.isAlphanum = true := by
  delta Char.isAlphanum Char.isAlpha
  rcases h with lower | digit
  · simp [lower]
  · simp [digit]

theorem asciiLower_eq_of_small (h : c.isLower = true ∨ c.isDigit = true) : asciiLower c = c := by
  have all : c.isLower = true ∨ c.isDigit = true → asciiLower c = c :=
    forall_ascii (by decide +kernel) c (lt_of_isAlphanum (isAlphanum_of_small h))
  exact all h

theorem map_asciiLower_of_small (h : ∀ c ∈ s, c.isLower = true ∨ c.isDigit = true) :
    s.map asciiLower = s := by
  rw [List.map_congr_left fun c there => asciiLower_eq_of_small (h c there), List.map_id']

theorem small_asciiLower (h : c.isAlphanum = true) :
    (asciiLower c).isLower = true ∨ (asciiLower c).isDigit = true := by
  have all : c.isAlphanum = true → (asciiLower c).isLower = true ∨ (asciiLower c).isDigit = true :=
    forall_ascii (by decide +kernel) c (lt_of_isAlphanum h)
  exact all h

end Letters

section Lower

theorem lowerAt_of_lt (h : c.toNat < 0x80) (before rest : List Char) :
    lowerAt before c rest = [asciiLower c] := by
  have other : c ≠ 'Σ' := by
    rintro rfl
    exact absurd h (by decide)
  rw [lowerAt, if_neg other, lowerChar, if_pos h]

theorem lowerFrom_append (before s t : List Char) :
    ∃ image, lowerFrom before (s ++ t) = image ++ lowerFrom (s.reverse ++ before) t := by
  induction s generalizing before with
  | nil => exact ⟨[], rfl⟩
  | cons c s ih =>
    obtain ⟨image, whole⟩ := ih (c :: before)
    refine ⟨lowerAt before c (s ++ t) ++ image, ?_⟩
    rw [List.cons_append, lowerFrom_cons, whole]
    simp

theorem lowerFrom_append_of_lt (h : ∀ c ∈ s, c.toNat < 0x80) (before t : List Char) :
    lowerFrom before (s ++ t) = s.map asciiLower ++ lowerFrom (s.reverse ++ before) t := by
  induction s generalizing before with
  | nil => rfl
  | cons c s ih =>
    obtain ⟨first, more⟩ := List.forall_mem_cons.mp h
    rw [List.cons_append, lowerFrom_cons, lowerAt_of_lt first, ih more]
    simp

/-- The lower-case form of a text holds that of each word of ASCII in it, whatever is around the word. -/
theorem map_asciiLower_infix_lower (ascii : ∀ c ∈ word, c.toNat < 0x80) (h : word <:+: text) :
    word.map asciiLower <:+: lower text := by
  obtain ⟨before, after, rfl⟩ := h
  obtain ⟨image, whole⟩ := lowerFrom_append [] before (word ++ after)
  rw [lower, List.append_assoc, whole, lowerFrom_append_of_lt ascii, ← List.append_assoc]
  exact ⟨image, _, rfl⟩

theorem lower_of_small (h : ∀ c ∈ s, c.isLower = true ∨ c.isDigit = true) : lower s = s := by
  have ascii : ∀ c ∈ s, HasAsciiCase c :=
    fun c there => .inl (lt_of_isAlphanum (isAlphanum_of_small (h c there)))
  exact ((lowerFrom_eq_map_iff [] s).mpr ascii).trans (map_asciiLower_of_small h)

theorem occursIn_lower_of_small (h : ∀ c ∈ s, c.isLower = true ∨ c.isDigit = true)
    (spelled : word.map asciiLower = s) (holds : word <:+: text) :
    occursIn s (lower text) = true := by
  have ascii : ∀ c ∈ word, c.toNat < 0x80 := by
    intro c there
    apply lt_of_isAlphanum
    rw [← isAlphanum_asciiLower]
    exact isAlphanum_of_small (h _ (spelled ▸ List.mem_map_of_mem there))
  rw [occursIn_iff, ← spelled]
  exact map_asciiLower_infix_lower ascii holds

end Lower

end Text

namespace Healing

def IsGap (s : List Char) : Prop :=
  ∀ c ∈ s, c.isAlphanum = false

def IsWord (s : List Char) : Prop :=
  s ≠ [] ∧ ∀ c ∈ s, c.isAlphanum = true

/-- Words with a gap after each, which is empty only at the end of the text. -/
inductive RunsOn : List (List Char) → List Char → Prop where
  | nil : RunsOn [] []
  | cons {word gap rest : List Char} {more : List (List Char)} (isWord : IsWord word)
      (isGap : IsGap gap) (parted : more ≠ [] → gap ≠ []) (behind : RunsOn more rest) :
    RunsOn (word :: more) (word ++ (gap ++ rest))

/-- The words of a text in order, each as long as it can be. -/
def Runs (runs : List (List Char)) (s : List Char) : Prop :=
  ∃ lead rest, s = lead ++ rest ∧ IsGap lead ∧ RunsOn runs rest

/-- The word by which a list of words is known: the last, or the one before a generic last one. -/
inductive KnownBy : List (List Char) → List Char → Prop where
  | last {before : List (List Char)} {word : List Char}
      (telling : before = [] ∨ word.map Text.asciiLower ∉ genericWords) :
    KnownBy (before ++ [word]) word
  | beforeGeneric {before : List (List Char)} {word generic : List Char}
      (isGeneric : generic.map Text.asciiLower ∈ genericWords) :
    KnownBy (before ++ [word, generic]) word

/-- What can be searched for: it is in lower case, as the texts are with which it is compared. -/
structure IsKeyword (keyword : String) : Prop where
  long : 2 ≤ keyword.length
  small : ∀ c ∈ keyword.toList, c.isLower = true ∨ c.isDigit = true
  lower_eq : Text.lower keyword.toList = keyword.toList
  own : keyword? keyword = some keyword
  /-- A text is seen to hold it, in whatever case it stands there. -/
  seen : ∀ text word, word.map Text.asciiLower = keyword.toList → word <:+: text →
    Text.occursIn keyword.toList (Text.lower text) = true

section Words

variable {s t gap word rest : List Char} {runs more : List (List Char)}

theorem words_gap_append (h : IsGap gap) (rest : List Char) : words (gap ++ rest) = words rest := by
  induction gap with
  | nil => rfl
  | cons c gap ih =>
    obtain ⟨first, later⟩ := List.forall_mem_cons.mp h
    rw [words, List.cons_append, wordsFrom, first]
    exact ih later

theorem wordsFrom_append (h : ∀ c ∈ word, c.isAlphanum = true) (begun rest : List Char) :
    wordsFrom begun (word ++ rest) = wordsFrom (word.reverse ++ begun) rest := by
  induction word generalizing begun with
  | nil => rfl
  | cons c word ih =>
    obtain ⟨first, later⟩ := List.forall_mem_cons.mp h
    rw [List.cons_append, wordsFrom, if_pos first, ih later]
    simp

theorem wordsFrom_apart {begun : List Char} (some : begun ≠ [])
    (apart : ∀ c ∈ rest.head?, c.isAlphanum = false) :
    wordsFrom begun rest = begun.reverse :: words rest := by
  cases rest with
  | nil =>
    cases begun with
    | nil => exact absurd rfl some
    | cons c begun => rfl
  | cons d rest =>
    have gap : d.isAlphanum = false := apart d rfl
    rw [words, wordsFrom, wordsFrom, gap, if_neg some]
    rfl

theorem words_word_append (h : IsWord word) (apart : ∀ c ∈ rest.head?, c.isAlphanum = false) :
    words (word ++ rest) = word :: words rest := by
  have some : word.reverse ++ [] ≠ [] := by simpa using h.1
  rw [words, wordsFrom_append h.2, wordsFrom_apart some apart]
  simp

theorem words_of_isWord (h : IsWord word) : words word = [word] := by
  have alone : words (word ++ []) = word :: words [] :=
    words_word_append h fun _ first => absurd first (by simp)
  rwa [List.append_nil] at alone

theorem RunsOn.words_eq (h : RunsOn runs s) : words s = runs := by
  induction h with
  | nil => rfl
  | @cons word gap rest more isWord isGap parted behind ih =>
    have apart : ∀ c ∈ (gap ++ rest).head?, c.isAlphanum = false := by
      intro c first
      cases gap with
      | cons d gap => exact isGap c (List.mem_of_mem_head? first)
      | nil =>
        -- with nothing after the word, no word follows it
        cases behind with
        | nil => cases first
        | cons => exact absurd rfl (parted (List.cons_ne_nil _ _))
    rw [words_word_append isWord apart, words_gap_append isGap, ih]

theorem exists_runs (s : List Char) : ∃ runs, Runs runs s := by
  -- a letter in front of a text makes its first word longer, unless a gap or nothing follows the letter
  induction s with
  | nil => exact ⟨[], [], [], rfl, List.forall_mem_nil _, .nil⟩
  | cons c s ih =>
    obtain ⟨runs, lead, rest, rfl, isGap, on⟩ := ih
    cases letter : c.isAlphanum with
    | false => exact ⟨runs, c :: lead, rest, rfl, List.forall_mem_cons.mpr ⟨letter, isGap⟩, on⟩
    | true =>
      have none : IsGap [] := List.forall_mem_nil _
      have single : IsWord [c] := ⟨List.cons_ne_nil _ _, List.forall_mem_singleton.mpr letter⟩
      cases lead with
      | cons d lead =>
        have parted : runs ≠ [] → d :: lead ≠ [] := fun _ => List.cons_ne_nil _ _
        exact ⟨[c] :: runs, [], _, rfl, none, .cons single isGap parted on⟩
      | nil =>
        cases on with
        | nil => exact ⟨[[c]], [], _, rfl, none, .cons single none (fun some => absurd rfl some) .nil⟩
        | @cons word gap rest more isWord after parted behind =>
          have longer : IsWord (c :: word) :=
            ⟨List.cons_ne_nil _ _, List.forall_mem_cons.mpr ⟨letter, isWord.2⟩⟩
          exact ⟨(c :: word) :: more, [], _, rfl, none, .cons longer after parted behind⟩

theorem Runs.words_eq (h : Runs runs s) : words s = runs := by
  obtain ⟨lead, rest, rfl, isGap, on⟩ := h
  rw [words_gap_append isGap, on.words_eq]

theorem runs_iff : Runs runs s ↔ words s = runs := by
  constructor
  · exact Runs.words_eq
  · rintro rfl
    obtain ⟨runs, h⟩ := exists_runs s
    exact h.words_eq ▸ h

theorem RunsOn.isWord_of_mem (h : RunsOn runs s) (there : word ∈ runs) : IsWord word := by
  induction h with
  | nil => cases there
  | cons isWord _ _ _ ih =>
    rcases List.mem_cons.mp there with rfl | later
    · exact isWord
    · exact ih later

theorem isWord_of_mem_words (there : word ∈ words s) : IsWord word := by
  have runs : Runs (words s) s := runs_iff.mpr rfl
  obtain ⟨_, _, _, _, on⟩ := runs
  exact on.isWord_of_mem there

theorem wordsFrom_map_asciiLower (begun s : List Char) :
    wordsFrom (begun.map Text.asciiLower) (s.map Text.asciiLower) =
      (wordsFrom begun s).map (·.map Text.asciiLower) := by
  induction s generalizing begun with
  | nil => cases begun <;> simp [wordsFrom]
  | cons c s ih =>
    have none := ih []
    rw [List.map_cons, wordsFrom, wordsFrom, Text.isAlphanum_asciiLower]
    split
    · exact ih (c :: begun)
    · simp only [List.map_eq_nil_iff]
      split
      · exact none
      · rw [List.map_cons, List.map_reverse]
        exact congrArg _ none

theorem words_map_asciiLower (s : List Char) :
    words (s.map Text.asciiLower) = (words s).map (·.map Text.asciiLower) :=
  wordsFrom_map_asciiLower [] s

end Words

section Choice

variable {s t word k : List Char} {runs : List (List Char)}

theorem exists_knownBy (h : runs ≠ []) : ∃ word, KnownBy runs word := by
  obtain ⟨before, last, rfl⟩ := List.eq_nil_or_concat' runs |>.resolve_left h
  by_cases generic : last.map Text.asciiLower ∈ genericWords
  · rcases List.eq_nil_or_concat' before with rfl | ⟨before, word, rfl⟩
    · exact ⟨last, .last (.inl rfl)⟩
    · refine ⟨word, ?_⟩
      rw [List.append_assoc]
      exact .beforeGeneric generic
  · exact ⟨last, .last (.inr generic)⟩

theorem KnownBy.mem (h : KnownBy runs word) : word ∈ runs := by
  cases h with
  | last => simp
  | beforeGeneric => simp

theorem keywordChars_of_knownBy (h : KnownBy (words s) word) :
    keywordChars s =
      if 2 ≤ word.length then some (word.map Text.asciiLower) else none := by
  generalize whole : words s = runs at h
  rw [keywordChars, whole]
  cases h with
  | @last before word telling =>
    rcases telling with rfl | telling
    · simp [minKeyword]
    · rw [List.map_append, List.reverse_append]
      cases (before.map (·.map Text.asciiLower)).reverse with
      | nil => simp [minKeyword]
      | cons => simp [minKeyword, telling]
  | beforeGeneric isGeneric => simp [minKeyword, isGeneric]

theorem keywordChars_eq_some_iff : keywordChars s = some k ↔
    2 ≤ k.length ∧ ∃ word, KnownBy (words s) word ∧ k = word.map Text.asciiLower := by
  constructor
  · intro h
    have some : words s ≠ [] := by
      intro none
      simp [keywordChars, none, minKeyword] at h
    obtain ⟨word, tells⟩ := exists_knownBy some
    rw [keywordChars_of_knownBy tells] at h
    split at h
    · next long =>
      obtain rfl := Option.some.inj h
      exact ⟨by rwa [List.length_map], word, tells, rfl⟩
    · cases h
  · rintro ⟨long, word, tells, rfl⟩
    rw [List.length_map] at long
    rw [keywordChars_of_knownBy tells, if_pos long]

theorem keyword?_eq_some_iff {selector keyword : String} : keyword? selector = some keyword ↔
    2 ≤ keyword.length ∧ ∃ word, KnownBy (words selector.toList) word ∧
      keyword.toList = word.map Text.asciiLower := by
  rw [keyword?, Option.map_eq_some_iff, ← String.length_toList, ← keywordChars_eq_some_iff]
  constructor
  · rintro ⟨chars, found, rfl⟩
    rwa [String.toList_ofList]
  · intro found
    exact ⟨_, found, String.ofList_toList⟩

theorem small_of_knownBy (h : KnownBy (words s) word) :
    ∀ c ∈ word.map Text.asciiLower, c.isLower = true ∨ c.isDigit = true := by
  intro c there
  obtain ⟨d, within, rfl⟩ := List.mem_map.mp there
  exact Text.small_asciiLower ((isWord_of_mem_words h.mem).2 d within)

theorem isKeyword_of_small {keyword : String} (long : 2 ≤ keyword.length)
    (small : ∀ c ∈ keyword.toList, c.isLower = true ∨ c.isDigit = true) : IsKeyword keyword := by
  have isWord : IsWord keyword.toList := by
    refine ⟨?_, fun c there => Text.isAlphanum_of_small (small c there)⟩
    intro none
    rw [← String.length_toList, none, List.length_nil] at long
    omega
  have tells : KnownBy (words keyword.toList) keyword.toList := by
    rw [words_of_isWord isWord, ← List.nil_append [keyword.toList]]
    exact .last (.inl rfl)
  have own : keyword? keyword = some keyword :=
    keyword?_eq_some_iff.mpr ⟨long, _, tells, (Text.map_asciiLower_of_small small).symm⟩
  exact ⟨long, small, Text.lower_of_small small, own,
    fun _ _ spelled holds => Text.occursIn_lower_of_small small spelled holds⟩

theorem isKeyword_of_keyword? {selector keyword : String} (h : keyword? selector = some keyword) :
    IsKeyword keyword := by
  obtain ⟨long, word, tells, spelled⟩ := keyword?_eq_some_iff.mp h
  apply isKeyword_of_small long
  rw [spelled]
  exact small_of_knownBy tells

theorem keyword?_congr {selector other : String}
    (h : (words other.toList).map (·.map Text.asciiLower) =
      (words selector.toList).map (·.map Text.asciiLower)) :
    keyword? other = keyword? selector := by
  rw [keyword?, keyword?, keywordChars, keywordChars, h]

end Choice

section Search

variable {σ : Type}

/-- What the search for a keyword comes to on a page. -/
def foundBy (page : Page σ) (s : σ) (keyword : String) : Option String × σ :=
  match page (.queryAll candidateSelectors) s with
  | (.ok candidates, s') => ((replacement? candidates keyword).map Replacement.selector, s')
  | (.error _, s') => (none, s')

theorem run_heal_of_none {selector : String} (h : keyword? selector = none) (page : Page σ) (s : σ) :
    (heal selector).run page s = (none, s) := by
  rw [heal, h]
  rfl

theorem run_heal_of_some {selector keyword : String} (h : keyword? selector = some keyword)
    (page : Page σ) (s : σ) : (heal selector).run page s = foundBy page s keyword := by
  have asked : (PageCall.make (.queryAll candidateSelectors)).run page s =
      page (.queryAll candidateSelectors) s := rfl
  simp only [heal, h, bind, Program.run_bind, asked, foundBy]
  rcases page (.queryAll candidateSelectors) s with ⟨_ | candidates, s'⟩
  · rfl
  · rfl

end Search

/-- The keyword of a selector is made from its words alone, whatever is between or around them and whatever
their case. -/
theorem keyword_of_runs (selector : String) :
    ∃ runs, (∀ list, Runs list selector.toList ↔ list = runs) ∧
      (∀ keyword, keyword? selector = some keyword ↔
        IsKeyword keyword ∧
          ∃ word, KnownBy runs word ∧ keyword.toList = word.map Text.asciiLower) ∧
      (∀ other list, Runs list other.toList →
        list.map (·.map Text.asciiLower) = runs.map (·.map Text.asciiLower) →
          keyword? other = keyword? selector) ∧
      (∀ other, other.toList.map Text.asciiLower = selector.toList.map Text.asciiLower →
        keyword? other = keyword? selector) ∧
      ∀ (σ : Type) (page : Page σ) (s : σ),
        keyword? selector = none ∧ (heal selector).run page s = (none, s) ∨
          ∃ keyword, keyword? selector = some keyword ∧ IsKeyword keyword ∧
            (heal selector).run page s = foundBy page s keyword := by
  refine ⟨words selector.toList, fun list => runs_iff.trans eq_comm, fun keyword => ?_,
    fun other list runs same => ?_, fun other same => ?_, fun σ page s => ?_⟩
  · constructor
    · intro found
      exact ⟨isKeyword_of_keyword? found, (keyword?_eq_some_iff.mp found).2⟩
    · rintro ⟨isKeyword, told⟩
      exact keyword?_eq_some_iff.mpr ⟨isKeyword.long, told⟩
  · apply keyword?_congr
    rw [runs.words_eq, same]
  · apply keyword?_congr
    rw [← words_map_asciiLower, ← words_map_asciiLower, same]
  · cases found : keyword? selector with
    | none => exact .inl ⟨rfl, run_heal_of_none found page s⟩
    | some keyword =>
      exact .inr ⟨keyword, rfl, isKeyword_of_keyword? found, run_heal_of_some found page s⟩

/-- A generic word is passed over in any case, but it is a keyword where it stands alone. -/
example : keyword? "#search-BUTTON" = some "search" ∧ keyword? "button" = some "button" ∧
    keyword? "#x-btn" = none := by
  decide +kernel

end Healing

end PageWalk
