import PageWalk.Text.Basic

/-!
# Where a cookie belongs

A cookie of a domain may be set on that domain and on every domain below it; one without a domain
belongs to any page. A domain is below another if the labels of the other are its last ones.
-/

namespace PageWalk.CookieScope

set_option autoImplicit false

/-- A domain without the dots before it. -/
def bare (domain : List Char) : List Char :=
  domain.dropWhile (· = '.')

def covers (domain host : List Char) : Bool :=
  host == bare domain || ('.' :: bare domain).isSuffixOf host

/-- Whether a cookie stored for a domain may be set while on a host. -/
def applies (domain : Option String) (host : String) : Bool :=
  match domain with
  | none => true
  | some domain => covers domain.toList host.toList

/-- The labels of a domain or a host, the topmost last. -/
def labels (s : List Char) : List (List Char) :=
  Text.pieces '.' s

section

variable {domain host : List Char}

theorem labels_below (sub host : List Char) : labels (sub ++ '.' :: host) = labels sub ++ labels host :=
  Text.pieces_append_mark '.' sub host

theorem covers_iff : covers domain host = true ↔ labels (bare domain) <:+ labels host := by
  rw [covers, Bool.or_eq_true, beq_iff_eq, List.isSuffixOf_iff_suffix, labels, labels,
    Text.pieces_suffix_iff]

theorem exists_dots (domain : List Char) :
    ∃ dots, domain = dots ++ bare domain ∧ (∀ c ∈ dots, c = '.') ∧ (bare domain).head? ≠ some '.' := by
  refine ⟨domain.takeWhile (· = '.'), List.takeWhile_append_dropWhile.symm, fun c there => ?_, ?_⟩
  · exact of_decide_eq_true (List.all_eq_true.mp List.all_takeWhile c there)
  · intro first
    have other := List.head?_dropWhile_not (· = '.') domain
    rw [bare] at first
    rw [first] at other
    exact absurd rfl (of_decide_eq_false other)

/-- A host that has a domain at its end, but only within a label, is not covered. -/
theorem covers_within_label {before : List Char} {c : Char} (other : c ≠ '.')
    (ends : host = before ++ c :: bare domain) : covers domain host = false := by
  rw [Bool.eq_false_iff, Ne, covers_iff, labels, labels, Text.pieces_suffix_iff, ends]
  rintro (whole | behind)
  · have counted := congrArg List.length whole
    rw [List.length_append, List.length_cons] at counted
    omega
  · obtain ⟨dotted, same⟩ := behind
    have last := List.append_inj_right' same rfl
    exact other (List.cons.inj last).1.symm

theorem covers_below (sub : List Char) (h : covers domain host = true) :
    covers domain (sub ++ '.' :: host) = true := by
  rw [covers_iff] at h ⊢
  rw [labels_below]
  exact List.suffix_append_of_suffix h

end

end PageWalk.CookieScope
