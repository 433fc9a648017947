import PageWalk.Browser.Storage

/-!
# Domains by their labels

A host is read as its labels, which have dots between them. Main statement: a cookie of a domain may be
set on the hosts whose last labels are those of the domain, so never on one that ends in the domain
within a label, and with a host on every host below it.
-/

namespace PageWalk.CookieScope

set_option autoImplicit false

/-- A cookie may be set on the hosts whose last labels are those of its domain, without the dots in
front. -/
theorem applies_iff_labels (domain host : String) :
    ∃ dots rest, domain.toList = dots ++ rest ∧ (∀ c ∈ dots, c = '.') ∧ rest.head? ≠ some '.' ∧
      (applies (some domain) host = true ↔ labels rest <:+ labels host.toList) ∧
      (∀ before c, c ≠ '.' → host.toList = before ++ c :: rest →
        applies (some domain) host = false) ∧
      ∀ sub : String, applies (some domain) host = true →
        applies (some domain) (sub ++ "." ++ host) = true := by
  obtain ⟨dots, whole, dotted, first⟩ := exists_dots domain.toList
  refine ⟨dots, bare domain.toList, whole, dotted, first, covers_iff, ?_, ?_⟩
  · intro before c other ends
    exact covers_within_label other ends
  · intro sub covered
    have below : (sub ++ "." ++ host).toList = sub.toList ++ '.' :: host.toList := by
      rw [String.toList_append, String.toList_append, List.append_assoc]
      rfl
    rw [applies, below]
    exact covers_below sub.toList covered

example : applies (some ".h.test") "a.b.h.test" = true ∧ applies (some "h.test") "ah.test" = false ∧
    applies (some "a.h.test") "h.test" = false := by
  decide

section Pages

variable {url : Url} {c : Cookie}

def hostText (url : Url) : List Char :=
  match url.host? with
  | some host => host.text.toList
  | none => []

/-- A cookie may be set on a page: it has no domain, or one whose labels the host ends with. -/
def MaySet (url : Url) (c : Cookie) : Prop :=
  ∀ domain ∈ c.domain, labels (domain.toList.dropWhile (· = '.')) <:+ labels (hostText url)

theorem belongs_iff : Storage.belongs url c = true ↔ MaySet url c := by
  have host : ((url.host?.map Url.Host.text).getD "").toList = hostText url := by
    rw [hostText]
    cases url.host? <;> rfl
  rw [Storage.belongs, MaySet]
  cases c.domain with
  | none => exact iff_of_true rfl fun _ absent => nomatch absent
  | some domain =>
    rw [applies, covers_iff, host]
    simp only [Option.mem_def, Option.some.injEq, forall_eq', bare]

instance (url : Url) (c : Cookie) : Decidable (MaySet url c) :=
  decidable_of_iff _ belongs_iff

end Pages

end PageWalk.CookieScope
