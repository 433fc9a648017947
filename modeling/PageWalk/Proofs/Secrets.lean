import PageWalk.Proofs.CommandCalls
import PageWalk.Proofs.FailStop
import PageWalk.Proofs.OneField
import PageWalk.Report.Exploration

/-!
# Reports and secrets

Two pages may differ in what was typed into their password fields, and in the secrets that stand in the
addresses of failed requests. An exploration of the one page reports what one of the other reports.
-/

namespace PageWalk

set_option autoImplicit false

open Json (Differ Pointwise)
open Program (Alike Matches)

/-! ## Addresses -/

namespace Url

/-- Two URLs agree but for the values of sensitive parameters, of which they have one at least. The
authority is user, password, host and port. -/
structure SameButSecrets (u v : Url) : Prop where
  scheme : u.scheme = v.scheme
  authority : u.authority = v.authority
  path : u.path = v.path
  fragment : u.fragment = v.fragment
  query : List.Forall₂ (fun pair pair' : String × String =>
      pair.1 = pair'.1 ∧ (pair.2 = pair'.2 ∨ Redaction.isSensitive pair.1 = true))
    u.queryPairs v.queryPairs
  sensitive : u.isSensitive = true

namespace SameButSecrets

variable {u v : Url} (h : u.SameButSecrets v)

include h

theorem map_maskPair :
    u.queryPairs.map Redaction.maskPair = v.queryPairs.map Redaction.maskPair := by
  rw [← List.forall₂_eq_eq_eq, List.forall₂_map_left_iff, List.forall₂_map_right_iff]
  refine h.query.imp ?_
  rintro ⟨name, value⟩ ⟨name', value'⟩ ⟨same, equal | secret⟩
  · obtain rfl : name = name' := same
    obtain rfl : value = value' := equal
    rfl
  · obtain rfl : name = name' := same
    have secret : Redaction.isSensitive name = true := secret
    rw [Redaction.maskPair, Redaction.maskPair, if_pos secret, if_pos secret]

theorem isSensitive_eq : v.isSensitive = u.isSensitive := by
  have names : u.queryPairs.map Prod.fst = v.queryPairs.map Prod.fst := by
    rw [← List.forall₂_eq_eq_eq, List.forall₂_map_left_iff, List.forall₂_map_right_iff]
    exact h.query.imp fun pair pair' same => same.1
  have any (w : Url) : w.isSensitive = (w.queryPairs.map Prod.fst).any Redaction.isSensitive := by
    rw [isSensitive, List.any_map]
    rfl
  rw [any, any, names]

theorem redacted_eq : u.redacted = v.redacted := by
  rw [redacted, redacted, h.map_maskPair]
  obtain ⟨scheme, authority, path, fragment⟩ := h
  cases u
  cases v
  simp_all

end SameButSecrets

def SameTextButSecrets (raw raw' : String) : Prop :=
  ∃ u v, parse raw = .ok u ∧ parse raw' = .ok v ∧ u.SameButSecrets v

theorem SameTextButSecrets.redact_eq {raw raw' : String} (h : SameTextButSecrets raw raw') :
    redact raw = redact raw' := by
  obtain ⟨u, v, parsed, parsed', same⟩ := h
  have sensitive := same.sensitive
  have sensitive' : v.isSensitive = true := same.isSensitive_eq.trans sensitive
  simp only [redact, parsed, parsed', if_pos sensitive, if_pos sensitive', same.redacted_eq]

/-- A host that is missing leaves no authority, and one that is empty an authority without a host. -/
example :
    (parse "app:/cb?token=a").map authority = .ok none ∧
      (parse "app:///cb?token=b").map authority = .ok (some { host := none }) := by
  decide +kernel

end Url

/-! ## Answers of scripts -/

inductive FormField.Entered : Json → Json → Prop where
  | text {value value' : String} (some : value ≠ "") (some' : value' ≠ "") :
    Entered (.str value) (.str value')

/-- The record of a field into which a password is typed. -/
def FormField.IsPassword (j : Json) : Prop :=
  ∃ fields, j.asFields "a form field" 7 = .ok fields ∧
    fields.get? ⟨["type"], 1⟩ = .ok (some (.str "password"))

/-- Two records of a field into which different passwords were typed. -/
def FormField.SameButPassword (j j' : Json) : Prop :=
  IsPassword j ∧ Differ ⟨["value"], 6⟩ Entered j j'

/-- Two records of a form, in whose fields different passwords were typed. -/
def Form.SameButPasswords : Json → Json → Prop :=
  Differ ⟨["inputs"], 3⟩ (Pointwise FormField.SameButPassword)

/-- Two texts in a record that are URLs with different secrets. -/
inductive NetworkError.Addressed : Json → Json → Prop where
  | text {raw raw' : String} (same : Url.SameTextButSecrets raw raw') :
    Addressed (.str raw) (.str raw')

def NetworkError.SameButSecrets : Json → Json → Prop :=
  Differ ⟨["url"], 2⟩ Addressed

def PageErrors.SameButSecrets : Json → Json → Prop :=
  Differ ⟨["network"], 1⟩ (Pointwise NetworkError.SameButSecrets)

section Answers

variable {j j' : Json}

theorem FormField.SameButPassword.alike (h : SameButPassword j j') :
    Alike (fun f f' => f.masked = f'.masked) (ofJson j) (ofJson j') := by
  obtain ⟨⟨known, of_known, typed⟩, differ⟩ := h
  apply (differ.asFields _ _).bind_ok of_known
  intro fields' differ
  -- the type is among the fields that agree, so both fields are masked, and neither is empty
  have same (name : String) (place : Nat) (apart : Json.Slot.Apart ⟨["value"], 6⟩ ⟨[name], place⟩) :
      fields'.withDefault ⟨[name], place⟩ "" Json.asString =
        known.withDefault ⟨[name], place⟩ "" Json.asString :=
    (differ.withDefault_of_apart apart "").symm
  have required : fields'.withDefault ⟨["required"], 5⟩ false Json.asBool =
      known.withDefault ⟨["required"], 5⟩ false Json.asBool :=
    (differ.withDefault_of_apart (by decide) false).symm
  have type : known.withDefault ⟨["type"], 1⟩ "" Json.asString = .ok "password" := by
    rw [Json.Fields.withDefault, typed]
    rfl
  have value : Alike (fun value value' => value ≠ "" ∧ value' ≠ "")
      (known.withDefault ⟨["value"], 6⟩ "" Json.asString)
      (fields'.withDefault ⟨["value"], 6⟩ "" Json.asString) := by
    apply differ.withDefault
    rintro _ _ ⟨some, some'⟩
    exact .ok ⟨some, some'⟩
  simp only [same "tag" 0 (by decide), same "type" 1 (by decide), same "name" 2 (by decide),
    same "id" 3 (by decide), same "label" 4 (by decide), required]
  apply Alike.bind_same
  intro tag _
  apply Alike.bind_same
  intro kind read
  obtain rfl := Except.ok.inj (type.symm.trans read)
  apply Alike.bind_same
  intro name _
  apply Alike.bind_same
  intro id _
  apply Alike.bind_same
  intro label _
  apply Alike.bind_same
  intro needed _
  apply value.bind
  rintro value value' ⟨some, some'⟩
  exact .ok (by simp [masked, some, some'])

theorem Form.SameButPasswords.alike (h : SameButPasswords j j') :
    Alike (fun f f' => f.masked = f'.masked) (ofJson j) (ofJson j') := by
  apply (Differ.asFields h _ _).bind
  intro fields fields' differ
  rw [← differ.required_of_apart (by decide), ← differ.required_of_apart (by decide),
    ← differ.withDefault_of_apart (by decide)]
  apply Alike.bind_same
  intro kind _
  apply Alike.bind_same
  intro id _
  apply Alike.bind_same
  intro name _
  have inputs : Alike (fun list list' => list.map FormField.masked = list'.map FormField.masked)
      (fields.withDefault ⟨["inputs"], 3⟩ [] (Json.asList FormField.ofJson))
      (fields'.withDefault ⟨["inputs"], 3⟩ [] (Json.asList FormField.ofJson)) := by
    apply differ.withDefault
    intro value value' related
    exact related.asList fun item item' same => same.alike
  apply inputs.bind
  intro list list' same
  exact .ok (by simp [masked, same])

theorem NetworkError.SameButSecrets.alike (h : SameButSecrets j j') :
    Alike (fun e e' => e.redacted = e'.redacted) (ofJson j) (ofJson j') := by
  apply (Differ.asFields h _ _).bind
  intro fields fields' differ
  rw [← differ.optional_of_apart (by decide), ← differ.required_of_apart (by decide)]
  apply Alike.bind_same
  intro status _
  apply Alike.bind_same
  intro method _
  have url : Alike Url.SameTextButSecrets (fields.required ⟨["url"], 2⟩ Json.asString)
      (fields'.required ⟨["url"], 2⟩ Json.asString) := by
    apply differ.required
    rintro _ _ ⟨same⟩
    exact .ok same
  apply url.bind
  intro raw raw' same
  exact .ok (by simp [redacted, same.redact_eq])

theorem Program.Alike.within {α β : Type} {R : α → β → Prop} {x : Except Fault α}
    {y : Except Fault β} (h : Alike R x y) (context : String) :
    Alike R (Except.within context x) (Except.within context y) := by
  cases h with
  | ok related => exact .ok related
  | error fault => exact .error _

theorem alike_answered {α : Type} {R : α → α → Prop} {read : Json → Decoded α} (empty : α)
    (some : j ≠ .null) (some' : j' ≠ .null) (h : Alike R (read j) (read j')) :
    Alike R (j.answered empty read) (j'.answered empty read) := by
  rw [Json.answered_of_ne_null some, Json.answered_of_ne_null some']
  generalize read j = x, read j' = y at h
  cases h with
  | ok related => exact .ok related
  | error e => exact .error _

theorem PageErrors.SameButSecrets.alike (h : SameButSecrets j j') :
    Alike (fun e e' => e.redacted = e'.redacted) (ofJson j) (ofJson j') := by
  apply (Differ.asFields h _ _).bind
  intro fields fields' differ
  rw [← differ.withDefault_of_apart (by decide)]
  apply Alike.bind_same
  intro console _
  have network :
      Alike (fun list list' => list.map NetworkError.redacted = list'.map NetworkError.redacted)
        (fields.withDefault ⟨["network"], 1⟩ [] (Json.asList NetworkError.ofJson))
        (fields'.withDefault ⟨["network"], 1⟩ [] (Json.asList NetworkError.ofJson)) := by
    apply differ.withDefault
    intro value value' related
    exact related.asList fun item item' same => same.alike
  apply network.bind
  intro list list' same
  exact .ok (by simp [redacted, same])

end Answers

/-! ## Explorations -/

/-- How the answers of two pages to a call may differ. -/
def PageCall.SameButSecrets :
    (call : PageCall) → Except Fault call.Reply → Except Fault call.Reply → Prop
  | evaluate .forms _, reply, reply' => reply = reply' ∨
    ∃ value value', reply = .ok value ∧ reply' = .ok value' ∧
      Pointwise Form.SameButPasswords value value'
  | evaluate .collectErrors _, reply, reply' => reply = reply' ∨
    ∃ value value', reply = .ok value ∧ reply' = .ok value' ∧ PageErrors.SameButSecrets value value'
  | _, reply, reply' => reply = reply'

/-- After the same calls, two pages give the same answers but for secrets. -/
def Page.SameButSecrets {σ τ : Type} (page : Page σ) (s : σ) (other : Page τ) (t : τ) : Prop :=
  ∀ (calls : List PageCall) (call : PageCall),
    call.SameButSecrets (page call (page.after calls s)).1 (other call (other.after calls t)).1

namespace Exploration

/-- Two runs that ask the same and are answered the same but for secrets. -/
def secretly : Program.Comparison pageSignature where
  isSilent _ := false
  Admits _ _ := True
  Agree := PageCall.SameButSecrets

/-- Secrets do not show in the result. -/
abbrev Unaffected {α : Type} (p : PageProgram α) : Prop :=
  Matches secretly Eq p p

section Programs

variable {α β : Type}

theorem Unaffected.bind {p : PageProgram α} {f : α → PageProgram β} (first : Unaffected p)
    (later : ∀ a, Unaffected (f a)) : Unaffected (p.bind f) := by
  refine Matches.bind first ?_
  rintro a _ rfl
  exact later a

theorem Unaffected.andThen {p : PageProgram (Except Fault α)} {f : α → PageProgram (Except Fault β)}
    (first : Unaffected p) (later : ∀ a, Unaffected (f a)) : Unaffected (andThen p f) := by
  refine Unaffected.bind first ?_
  rintro (fault | a)
  · exact .done rfl
  · exact later a

theorem unaffected_of_scriptless {p : PageProgram α} (h : p.Scriptless) : Unaffected p := by
  apply Program.Asks.matches
  refine h.imp fun call plain => ⟨rfl, fun reply reply' same => ?_⟩
  cases call with
  | evaluate script args => cases plain
  | _ => exact same

theorem unaffected_install : Unaffected Monitor.install := by
  refine .ask rfl ?_
  rintro reply _ rfl
  exact .done rfl

theorem unaffected_collect : Unaffected Monitor.collect := by
  refine .ask rfl ?_
  rintro reply reply' (rfl | ⟨value, value', rfl, rfl, same⟩)
  · exact .done rfl
  · obtain ⟨some, some'⟩ := same.ne_null
    apply Matches.done
    apply Alike.eq
    apply ((alike_answered {} some some' same.alike).within _).bind
    intro errors errors' redacted
    exact .ok redacted

theorem unaffected_analyze : Unaffected Form.analyze := by
  refine .ask rfl ?_
  rintro reply reply' (rfl | ⟨value, value', rfl, rfl, same⟩)
  · exact .done rfl
  · obtain ⟨some, some'⟩ := same.ne_null
    have list := same.asList fun form form' same => same.alike
    apply Matches.done
    apply Alike.eq
    apply ((alike_answered [] some some' list).within _).bind
    intro forms forms' masked
    exact .ok masked

theorem unaffected_watch (monitor : Bool) : Unaffected (watch monitor) := by
  cases monitor with
  | false => exact .done rfl
  | true => exact unaffected_install.bind fun reply => .done rfl

theorem unaffected_note (errors : Option PageErrors) : Unaffected (note errors) := by
  cases errors with
  | none => exact .done rfl
  | some known =>
    refine Unaffected.bind ?_ fun _ => .done rfl
    apply unaffected_collect.bind
    rintro (fault | errors)
    · exact .done rfl
    · exact unaffected_install.bind fun reply => .done rfl

theorem unaffected_perform (commands : List String) (errors : Option PageErrors) :
    Unaffected (perform commands errors) := by
  induction commands generalizing errors with
  | nil => exact .done rfl
  | cons command rest ih =>
    apply (unaffected_of_scriptless (Batch.scriptless_execute command)).bind
    intro outcome
    apply (unaffected_note errors).andThen
    intro errors
    exact (ih errors).andThen fun ended => .done rfl

theorem unaffected_summary : Unaffected Summary.take := by
  refine .ask rfl ?_
  rintro reply _ rfl
  exact .done rfl

theorem unaffected_forms (wanted : Bool) : Unaffected (forms wanted) := by
  cases wanted with
  | false => exact .done rfl
  | true => exact unaffected_analyze.bind fun reply => .done rfl

theorem unaffected_run (commands expectations : List String) (options : ExploreOptions) :
    Unaffected (run commands expectations options) := by
  apply (unaffected_watch options.monitor).andThen
  intro errors
  apply (unaffected_perform commands errors).andThen
  rintro ⟨actions, errors⟩
  apply (unaffected_of_scriptless (Batch.scriptless_checkAll expectations)).bind
  intro checks
  apply unaffected_summary.andThen
  intro page
  apply (unaffected_forms options.forms).andThen
  intro forms
  exact (unaffected_note errors).andThen fun errors => .done rfl

end Programs

end Exploration

section Reports

variable {σ τ : Type} {page : Page σ} {other : Page τ} {s : σ} {t : τ}

theorem Page.SameButSecrets.keeps (h : page.SameButSecrets s other t) :
    Exploration.secretly.Keeps page other fun s' t' =>
      ∃ calls, s' = page.after calls s ∧ t' = other.after calls t where
  shared := by
    rintro (call : PageCall) _ _ - ⟨calls, rfl, rfl⟩
    refine ⟨h calls call, calls ++ [call], ?_, ?_⟩
    · rw [page.after_concat]
    · rw [other.after_concat]
  silent := by
    intro call _ _ alone
    cases alone

/-- An exploration reports the same, or fails alike, on two pages that differ by nothing but secrets. -/
theorem report_of_sameButSecrets (h : page.SameButSecrets s other t)
    (commands expectations : List String) (options : ExploreOptions) :
    let explore := Exploration.run commands expectations options
    (explore.run page s).1 = (explore.run other t).1 ∧
      explore.asked page s = explore.asked other t := by
  intro explore
  have start : ∃ calls, s = page.after calls s ∧ t = other.after calls t := ⟨[], rfl, rfl⟩
  obtain ⟨same, asked⟩ := (Exploration.unaffected_run commands expectations options).run h.keeps start
  refine ⟨same, ?_⟩
  have all : (explore.asked page s).filter (fun call => !Exploration.secretly.isSilent call) =
      explore.asked page s := List.filter_eq_self.mpr fun _ _ => rfl
  exact all.symm.trans asked

end Reports

/-- A page to log in on, from which a request has failed. -/
def loginPage (password address : String) : Page Unit
  | .evaluate .forms _, s =>
    (.ok (.arr [.obj [("type", .str "form"), ("id", .str "login"),
      ("inputs", .arr [.obj [("type", .str "password"), ("value", .str password)]])]]), s)
  | .evaluate .collectErrors _, s =>
    (.ok (.obj [("network", .arr [.obj [("method", .str "GET"), ("url", .str address)]])]), s)
  | .evaluate _ _, s => (.ok .null, s)
  | _, s => (.error ⟨"No such element", []⟩, s)

section Login

variable {password password' address address' : String}

theorem loginPage_password (typed : password ≠ "") (typed' : password' ≠ "") :
    FormField.SameButPassword (.obj [("type", .str "password"), ("value", .str password)])
      (.obj [("type", .str "password"), ("value", .str password')]) := by
  refine ⟨⟨_, rfl, rfl⟩, ?_⟩
  exact @Differ.member _ _ [("type", .str "password")] [] "value" _ _ (by decide) (.text typed typed')

theorem loginPage_sameButSecrets (typed : password ≠ "") (typed' : password' ≠ "")
    (same : Url.SameTextButSecrets address address') :
    (loginPage password address).SameButSecrets () (loginPage password' address') () := by
  intro calls call
  cases call with
  | evaluate script args =>
    cases script with
    | forms =>
      have inputs : Pointwise FormField.SameButPassword _ _ :=
        .arr (.cons (.inr (loginPage_password typed typed')) .nil)
      have form : Form.SameButPasswords _ _ :=
        @Differ.member _ _ [("type", .str "form"), ("id", .str "login")] [] "inputs" _ _ (by decide)
          inputs
      exact .inr ⟨_, _, rfl, rfl, .arr (.cons (.inr form) .nil)⟩
    | collectErrors =>
      have error : NetworkError.SameButSecrets _ _ :=
        @Differ.member _ _ [("method", .str "GET")] [] "url" _ _ (by decide) (.text same)
      have errors : PageErrors.SameButSecrets _ _ :=
        @Differ.member _ _ [] [] "network" _ _ (by decide) (.arr (.cons (.inr error) .nil))
      exact .inr ⟨_, _, rfl, rfl, errors⟩
    | _ => rfl
  | _ => rfl

def loginUrl (query : String) : Url where
  scheme := "https"
  authority := some { host := some (.name "h.test") }
  path := .segments ["in"]
  query := some query

theorem sameTextButSecrets_login :
    Url.SameTextButSecrets "https://h.test/in?TOK%45N=a+b&next=%2F"
      "https://h.test/in?TOKEN=c&next=/" := by
  refine ⟨loginUrl "TOK%45N=a+b&next=%2F", loginUrl "TOKEN=c&next=/", ?_, ?_, ?_⟩
  · decide +kernel
  · decide +kernel
  have pairs : (loginUrl "TOK%45N=a+b&next=%2F").queryPairs = [("TOKEN", "a b"), ("next", "/")] := by
    decide +kernel
  have pairs' : (loginUrl "TOKEN=c&next=/").queryPairs = [("TOKEN", "c"), ("next", "/")] := by
    decide +kernel
  refine ⟨rfl, rfl, rfl, rfl, ?_, by decide +kernel⟩
  rw [pairs, pairs']
  exact .cons ⟨rfl, .inr (by decide +kernel)⟩ (.cons ⟨rfl, .inl rfl⟩ .nil)

/-- Two passwords, and two spellings of the name of a token. -/
theorem report_of_sameButSecrets_login :
    let page := loginPage "hunter2" "https://h.test/in?TOK%45N=a+b&next=%2F"
    let other := loginPage "correct horse" "https://h.test/in?TOKEN=c&next=/"
    let explore := Exploration.run ["click:#in"] [] { monitor := true, forms := true }
    page.SameButSecrets () other () ∧ (explore.run page ()).1.toOption.isSome = true ∧
      (explore.run page ()).1 = (explore.run other ()).1 ∧
      explore.asked page () = explore.asked other () := by
  intro page other explore
  have alike : page.SameButSecrets () other () :=
    loginPage_sameButSecrets (by decide) (by decide) sameTextButSecrets_login
  refine ⟨alike, by decide +kernel, ?_⟩
  exact report_of_sameButSecrets alike ["click:#in"] [] { monitor := true, forms := true }

end Login

end PageWalk
