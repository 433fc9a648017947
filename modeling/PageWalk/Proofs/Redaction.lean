import Mathlib.Data.List.Forall2
import PageWalk.Proofs.UrlText
import PageWalk.Url.Redaction

/-!
# Redacted addresses

Addresses are redacted in their queries alone, pair by pair, and a second redaction changes nothing. It
is assumed of an address that it is read from what it is written as.
-/

namespace PageWalk.Url

set_option autoImplicit false

namespace Redaction

/-- A name that contains a sensitive word, in whatever case. -/
def Sensitive (name : String) : Prop :=
  ∃ word ∈ sensitiveWords, word.toList <:+: Text.lower name.toList

theorem isSensitive_iff {name : String} : isSensitive name = true ↔ Sensitive name := by
  simp only [isSensitive, Sensitive, List.any_eq_true, Text.occursIn_iff]

/-- A pair is shown under its name; the value is masked just if the name is sensitive. -/
structure Shows (pair shown : String × String) : Prop where
  name : shown.1 = pair.1
  masked : Sensitive pair.1 → shown.2 = "REDACTED"
  kept : ¬ Sensitive pair.1 → shown.2 = pair.2

theorem shows_maskPair (pair : String × String) : Shows pair (maskPair pair) := by
  unfold maskPair
  split
  · next secret => exact ⟨rfl, fun _ => rfl, fun plain => absurd (isSensitive_iff.mp secret) plain⟩
  · next plain => exact ⟨rfl, fun secret => absurd (isSensitive_iff.mpr secret) plain, fun _ => rfl⟩

theorem maskPair_maskPair (pair : String × String) : maskPair (maskPair pair) = maskPair pair := by
  by_cases secret : isSensitive pair.1 = true
  · rw [maskPair, maskPair, if_pos secret, if_pos secret]
  · rw [maskPair, maskPair, if_neg secret, if_neg secret]

end Redaction

section Redacted

variable (u : Url)

theorem queryPairs_redacted : u.redacted.queryPairs = u.queryPairs.map Redaction.maskPair := by
  rw [queryPairs, redacted, Option.map_some, Option.getD_some, Query.pairs_write]

theorem isSensitive_iff_exists :
    u.isSensitive = true ↔ ∃ pair ∈ u.queryPairs, Redaction.Sensitive pair.1 := by
  simp only [isSensitive, List.any_eq_true, Redaction.isSensitive_iff]

theorem isSensitive_redacted : u.redacted.isSensitive = u.isSensitive := by
  have names (pair : String × String) : (Redaction.maskPair pair).1 = pair.1 :=
    (Redaction.shows_maskPair pair).name
  simp only [isSensitive, queryPairs_redacted, List.any_map, Function.comp_def, names]

theorem redacted_redacted : u.redacted.redacted = u.redacted := by
  have same :
      u.redacted.queryPairs.map Redaction.maskPair = u.queryPairs.map Redaction.maskPair := by
    simp only [queryPairs_redacted, List.map_map, Function.comp_def, Redaction.maskPair_maskPair]
  exact congrArg (fun list => { u with query := some (Query.write list) }) same

end Redacted

section Redact

variable {raw : String} {u : Url}

theorem redact_of_parse (parsed : parse raw = .ok u) :
    redact raw = if u.isSensitive then u.redacted.text else raw := by
  rw [redact, parsed]

theorem parse_redact (parsed : parse raw = .ok u) (stable : parse u.text = .ok u)
    (sensitive : u.isSensitive = true) : parse (redact raw) = .ok u.redacted := by
  have fits := Rules.fits_write (Rules.of u.scheme) (u.queryPairs.map Redaction.maskPair)
  rw [redact_of_parse parsed, if_pos sensitive]
  cases queried : u.query with
  | none =>
    rw [isSensitive, queryPairs, queried] at sensitive
    cases sensitive
  | some q => exact parse_text_of_query queried stable fits

theorem redact_eq_self (h : ∀ u, parse raw = .ok u → u.isSensitive = false) : redact raw = raw := by
  cases parsed : parse raw with
  | error e => rw [redact, parsed]
  | ok u => rw [redact_of_parse parsed, h u parsed, if_neg Bool.false_ne_true]

theorem redact_redact (undone : ∀ u, parse raw = .ok u → parse u.text = .ok u) :
    redact (redact raw) = redact raw := by
  by_cases secret : ∃ u, parse raw = .ok u ∧ u.isSensitive = true
  · obtain ⟨u, parsed, sensitive⟩ := secret
    rw [redact_of_parse (parse_redact parsed (undone u parsed) sensitive), isSensitive_redacted,
      if_pos sensitive, redacted_redacted, redact_of_parse parsed, if_pos sensitive]
  · have same : redact raw = raw := redact_eq_self fun u parsed =>
      Bool.eq_false_iff.mpr fun sensitive => secret ⟨u, parsed, sensitive⟩
    rw [same, same]

end Redact

/-- Only the values of sensitive parameters are masked, once and for all; any other text and all other parts
stay. -/
theorem redact_masks_secrets (raw : String)
    (undone : ∀ u, parse raw = .ok u → parse u.text = .ok u) :
    ((∀ u, parse raw = .ok u → ∀ pair ∈ u.queryPairs, ¬ Redaction.Sensitive pair.1) →
      redact raw = raw) ∧
    (∀ u, parse raw = .ok u → (∃ pair ∈ u.queryPairs, Redaction.Sensitive pair.1) →
      ∃ v, parse (redact raw) = .ok v ∧ v.scheme = u.scheme ∧ v.authority = u.authority ∧
        v.path = u.path ∧ v.fragment = u.fragment ∧
        List.Forall₂ Redaction.Shows u.queryPairs v.queryPairs) ∧
    redact (redact raw) = redact raw := by
  refine ⟨fun plain => ?_, fun u parsed secret => ?_, redact_redact undone⟩
  · refine redact_eq_self fun u parsed => ?_
    rw [Bool.eq_false_iff, ne_eq, isSensitive_iff_exists]
    exact fun ⟨pair, there, secret⟩ => plain u parsed pair there secret
  · have sensitive := u.isSensitive_iff_exists.mpr secret
    refine ⟨u.redacted, parse_redact parsed (undone u parsed) sensitive, rfl, rfl, rfl, rfl, ?_⟩
    rw [queryPairs_redacted, List.forall₂_map_right_iff, List.forall₂_same]
    exact fun pair _ => Redaction.shows_maskPair pair

def signInUrl : Url where
  scheme := "https"
  authority := some
    { user := "ann", password := some "pw", host := some (.name "h.test"), port := some 8443 }
  path := .segments ["in"]
  query := some "TOK%45N=a+b&next=%2F"
  fragment := some "top"

theorem redact_masks_secrets_signIn :
    let raw := "https://ann:pw@h.test:8443/in?TOK%45N=a+b&next=%2F#top"
    (∀ u, parse raw = .ok u → parse u.text = .ok u) ∧
      redact raw = "https://ann:pw@h.test:8443/in?TOKEN=REDACTED&next=%2F#top" ∧
      (∃ u v, parse raw = .ok u ∧ parse (redact raw) = .ok v ∧ v.scheme = u.scheme ∧
        v.authority = u.authority ∧ v.path = u.path ∧ v.fragment = u.fragment ∧
        List.Forall₂ Redaction.Shows u.queryPairs v.queryPairs) ∧
      redact (redact raw) = redact raw := by
  intro raw
  have parsed : parse raw = .ok signInUrl := by decide +kernel
  have undone : ∀ u, parse raw = .ok u → parse u.text = .ok u := by
    intro u read
    obtain rfl : signInUrl = u := Except.ok.inj (parsed.symm.trans read)
    decide +kernel
  have secret : signInUrl.isSensitive = true := by decide +kernel
  obtain ⟨-, shown, again⟩ := redact_masks_secrets raw undone
  obtain ⟨v, parts⟩ := shown signInUrl parsed (signInUrl.isSensitive_iff_exists.mp secret)
  refine ⟨undone, ?_, ⟨signInUrl, v, parsed, parts⟩, again⟩
  rw [redact_of_parse parsed, if_pos secret]
  decide +kernel

end PageWalk.Url
