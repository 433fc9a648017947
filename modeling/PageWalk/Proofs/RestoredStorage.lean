import PageWalk.Proofs.CookieLabels
import PageWalk.Proofs.Program

/-!
# What is put back of a session

`Restores` says which commands a driver is sent when the storage of a session is put back, after it was
asked for the open page, how it may answer each of them, and how that ends: a cookie for each that may be
set on the page, an entry for each that is stored for its origin, and a reload. Main statement: just that is
sent, and nothing that belongs to another page.
-/

namespace PageWalk

set_option autoImplicit false

/-- A command that was sent to a driver, with its answer. -/
structure Wire.Exchange where
  command : WireCommand
  reply : Except WireError Json

namespace Wire.Exchange

def asked (x : Exchange) : Sigma wireSignature.Answer :=
  ⟨.send x.command, x.reply⟩

def isAccepted (x : Exchange) : Bool :=
  x.reply.isOk

end Wire.Exchange

namespace Storage

open CookieScope (MaySet)
open Driving (andThen asking inContext plain)
open Wire (Exchange)

/-- A cookie is set with all that is known of it. -/
def setting (c : Cookie) : WireCommand :=
  .addCookie { c with extra := [] }

def writing (entry : StorageEntry) : WireCommand :=
  .execute .setStorage [.value (.str entry.name), .value (.str entry.value)]

/-- The page that is open, by the answer of the driver. -/
def pageOf : Except WireError Json → Except Fault Url
  | .ok (.str address) => (Url.parse address).mapError Answer.badUrl
  | .ok value => .error (Answer.nonconforming value)
  | .error e => .error e.fault

def IsWeb (url : Url) : Prop :=
  url.scheme = "http" ∨ url.scheme = "https"

instance (url : Url) : Decidable (IsWeb url) :=
  inferInstanceAs (Decidable (_ ∨ _))

/-- The cookies that may be set on a page are set, whether they are accepted or not. -/
def Sets (url : Url) (session : Session) (talk : List Exchange) : Prop :=
  talk.map Exchange.command = (session.cookies.filter fun c => MaySet url c).map setting

/-- The entries of each storage of the origin of a page, as they are stored. -/
def storedFor (url : Url) (session : Session) : List StorageEntry :=
  session.origins.flatMap fun storage => if storage.origin = url.origin then storage.entries else []

/-- Entries are written one after the other, up to the first that is refused. -/
inductive Writes (entries : List StorageEntry) : List Exchange → Except Fault Unit → Prop where
  | all {talk : List Exchange} (sent : talk.map Exchange.command = entries.map writing)
      (accepted : ∀ x ∈ talk, x.isAccepted = true) : Writes entries talk (.ok ())
  | refused {talk : List Exchange} {before after : List StorageEntry} {entry : StorageEntry}
      {e : WireError} (order : entries = before ++ entry :: after)
      (sent : talk.map Exchange.command = before.map writing)
      (accepted : ∀ x ∈ talk, x.isAccepted = true) :
    Writes entries (talk ++ [⟨writing entry, .error e⟩])
      (.error (e.fault.within "Failed to restore localStorage"))

/-- What a session holds of a page is put back, and the page is reloaded if anything was. -/
inductive PutsBack (url : Url) (session : Session) : List Exchange → Except Fault Unit → Prop where
  | refused {cookies entries : List Exchange} {fault : Fault} (set : Sets url session cookies)
      (failed : Writes (storedFor url session) entries (.error fault)) :
    PutsBack url session (cookies ++ entries) (.error fault)
  | untouched {cookies : List Exchange} (set : Sets url session cookies)
      (rejected : ∀ x ∈ cookies, x.isAccepted = false) (empty : storedFor url session = []) :
    PutsBack url session cookies (.ok ())
  | reloaded {cookies entries : List Exchange} {reply : Except WireError Json}
      (set : Sets url session cookies) (written : Writes (storedFor url session) entries (.ok ()))
      (some : (∃ x ∈ cookies, x.isAccepted = true) ∨ entries ≠ []) :
    PutsBack url session (cookies ++ (entries ++ [⟨.refresh, reply⟩]))
      ((reply.mapError WireError.fault).map fun _ => ())

/-- What is sent once the driver has answered which page is open. -/
inductive Restores (session : Session) (reply : Except WireError Json) :
    List Exchange → Except Fault Unit → Prop where
  | lost {fault : Fault} (unknown : pageOf reply = .error fault) :
    Restores session reply [] (.error fault)
  | elsewhere {url : Url} (there : pageOf reply = .ok url) (foreign : ¬ IsWeb url) :
    Restores session reply [] (.ok ())
  | onPage {url : Url} {talk : List Exchange} {result : Except Fault Unit}
      (there : pageOf reply = .ok url) (web : IsWeb url) (back : PutsBack url session talk result) :
    Restores session reply talk result

/-- A command that puts back something of a page, or reloads it. -/
inductive Concerns (url : Url) (session : Session) : WireCommand → Prop where
  | cookie {stored : Cookie} (held : stored ∈ session.cookies)
      (covers : MaySet url stored) : Concerns url session (setting stored)
  | entry {storage : OriginStorage} {entry : StorageEntry} (held : storage ∈ session.origins)
      (same : storage.origin = url.origin) (among : entry ∈ storage.entries) :
    Concerns url session (writing entry)
  | refresh : Concerns url session .refresh

section

variable {α β : Type} {talk : List (Sigma wireSignature.Answer)} {result : Except Fault Unit}
  {url : Url} {session : Session}

theorem filter_belongs (url : Url) (cookies : List Cookie) :
    cookies.filter (belongs url) = cookies.filter fun c => MaySet url c :=
  List.filter_congr fun _ _ => Bool.eq_iff_iff.mpr (CookieScope.belongs_iff.trans decide_eq_true_iff.symm)

theorem entriesFor_eq (url : Url) (session : Session) : entriesFor url session = storedFor url session := by
  rw [entriesFor, storedFor]
  induction session.origins with
  | nil => rfl
  | cons storage rest ih =>
    rw [List.filter_cons, List.flatMap_cons, ← ih]
    by_cases same : storage.origin = url.origin
    · rw [if_pos same, if_pos (beq_iff_eq.mpr same), List.flatMap_cons]
    · rw [if_neg same, if_neg (mt beq_iff_eq.mp same), List.nil_append]

theorem exists_of_mayTalk_send {command : WireCommand} {value : Except Fault Json}
    (h : (Wire.send command).MayTalk talk value) :
    ∃ reply, talk = [Exchange.asked ⟨command, reply⟩] ∧ value = reply.mapError WireError.fault := by
  obtain ⟨reply, later, rfl, ends⟩ := Program.exists_of_mayTalk_ask h
  obtain ⟨rfl, rfl⟩ := Program.eq_of_mayTalk_done ends
  exact ⟨reply, rfl, rfl⟩

theorem mayTalk_andThen_cases {step : WireProgram (Except Fault α)}
    {next : α → WireProgram (Except Fault β)} {b : Except Fault β}
    (h : (andThen step next).MayTalk talk b) :
    (∃ fault, step.MayTalk talk (.error fault) ∧ b = .error fault) ∨
      ∃ first a later, talk = first ++ later ∧ step.MayTalk first (.ok a) ∧ (next a).MayTalk later b := by
  obtain ⟨first, reply, later, rfl, began, went⟩ := Program.exists_of_mayTalk_bind h
  rcases reply with fault | a
  · obtain ⟨rfl, rfl⟩ := Program.eq_of_mayTalk_done went
    rw [List.append_nil]
    exact .inl ⟨fault, began, rfl⟩
  · exact .inr ⟨first, a, later, rfl, began, went⟩

theorem exists_of_mayTalk_addCookies {cookies : List Cookie} {n : Nat}
    (h : (addCookies cookies).MayTalk talk n) :
    ∃ set : List Exchange, talk = set.map Exchange.asked ∧
      set.map Exchange.command = cookies.map setting ∧ n = set.countP Exchange.isAccepted := by
  induction cookies generalizing talk n with
  | nil =>
    obtain ⟨rfl, rfl⟩ := Program.eq_of_mayTalk_done h
    exact ⟨[], rfl, rfl, rfl⟩
  | cons cookie rest ih =>
    obtain ⟨first, value, _, rfl, sent, h⟩ := Program.exists_of_mayTalk_bind h
    obtain ⟨reply, rfl, rfl⟩ := exists_of_mayTalk_send sent
    obtain ⟨more, accepted, _, rfl, later, h⟩ := Program.exists_of_mayTalk_bind h
    obtain ⟨rfl, rfl⟩ := Program.eq_of_mayTalk_done h
    obtain ⟨set, rfl, commands, rfl⟩ := ih later
    refine ⟨⟨setting cookie, reply⟩ :: set, ?_, ?_, ?_⟩
    · rw [List.append_nil]
      rfl
    · rw [List.map_cons, List.map_cons, commands]
    · rw [List.countP_cons]
      cases reply <;> rfl

theorem Writes.cons {entry : StorageEntry} {entries : List StorageEntry} {sent : List Exchange}
    {value : Json} (h : Writes entries sent result) :
    Writes (entry :: entries) (⟨writing entry, .ok value⟩ :: sent) result := by
  have first : (⟨writing entry, .ok value⟩ : Exchange).isAccepted = true := rfl
  cases h with
  | all commands each =>
    exact .all (congrArg (writing entry :: ·) commands) (List.forall_mem_cons.mpr ⟨first, each⟩)
  | @refused others before after _ _ order commands each =>
    have order : entry :: entries = (entry :: before) ++ _ := congrArg (entry :: ·) order
    refine .refused order ?_ (List.forall_mem_cons.mpr ⟨first, each⟩)
    exact congrArg (writing entry :: ·) commands

theorem exists_writes {entries : List StorageEntry} (h : (setEntries entries).MayTalk talk result) :
    ∃ sent : List Exchange, talk = sent.map Exchange.asked ∧ Writes entries sent result := by
  induction entries generalizing talk with
  | nil =>
    obtain ⟨rfl, rfl⟩ := Program.eq_of_mayTalk_done h
    exact ⟨[], rfl, .all rfl (List.forall_mem_nil _)⟩
  | cons entry rest ih =>
    -- the fault of a refused write is told with a context, so a success is one of the driver
    have answered {first : List (Sigma wireSignature.Answer)} {value : Except Fault Json}
        (said : (inContext "Failed to restore localStorage" (Wire.send (writing entry))).MayTalk first
          value) : ∃ reply, first = [Exchange.asked ⟨writing entry, reply⟩] ∧
            value = Except.within "Failed to restore localStorage" (reply.mapError WireError.fault) := by
      obtain ⟨first, _, _, rfl, sent, ends⟩ := Program.exists_of_mayTalk_bind said
      obtain ⟨reply, rfl, rfl⟩ := exists_of_mayTalk_send sent
      obtain ⟨rfl, rfl⟩ := Program.eq_of_mayTalk_done ends
      exact ⟨reply, rfl, rfl⟩
    rcases mayTalk_andThen_cases h with ⟨fault, said, rfl⟩ | ⟨first, value, later, rfl, said, went⟩
    · obtain ⟨reply, rfl, told⟩ := answered said
      rcases reply with e | value
      · obtain rfl := Except.error.inj told
        exact ⟨[_], rfl, .refused (List.nil_append _).symm rfl (List.forall_mem_nil _)⟩
      · cases told
    · obtain ⟨reply, rfl, told⟩ := answered said
      rcases reply with e | value
      · cases told
      · obtain ⟨sent, rfl, writes⟩ := ih went
        exact ⟨_, rfl, writes.cons⟩

/-- Without a fault, as many entries are written as there are. -/
theorem Writes.length_eq {entries : List StorageEntry} {sent : List Exchange}
    (h : Writes entries sent (.ok ())) : sent.length = entries.length := by
  cases h with
  | all commands _ => rw [← List.length_map Exchange.command, commands, List.length_map]

theorem exists_putsBack (h : (restoreTo url session).MayTalk talk result) :
    ∃ sent : List Exchange, talk = sent.map Exchange.asked ∧ PutsBack url session sent result := by
  obtain ⟨first, accepted, _, rfl, said, h⟩ := Program.exists_of_mayTalk_bind h
  obtain ⟨cookies, rfl, set, rfl⟩ := exists_of_mayTalk_addCookies said
  rw [filter_belongs] at set
  rw [entriesFor_eq] at h
  rcases mayTalk_andThen_cases h with ⟨fault, said, rfl⟩ | ⟨first, _, later, rfl, said, went⟩
  · obtain ⟨entries, rfl, failed⟩ := exists_writes said
    exact ⟨cookies ++ entries, List.map_append.symm, .refused set failed⟩
  · obtain ⟨entries, rfl, written⟩ := exists_writes said
    split at went
    · next nothing =>
      obtain ⟨rfl, rfl⟩ := Program.eq_of_mayTalk_done went
      have empty : storedFor url session = [] := List.isEmpty_iff.mp nothing.2
      obtain rfl : entries = [] := List.length_eq_zero_iff.mp (by rw [written.length_eq, empty]; rfl)
      rw [List.map_nil, List.append_nil, List.append_nil]
      refine ⟨cookies, rfl, .untouched set (fun x there => ?_) empty⟩
      exact Bool.eq_false_iff.mpr (List.countP_eq_zero.mp nothing.1 x there)
    · next something =>
      obtain ⟨first, value, _, rfl, said, ends⟩ := Program.exists_of_mayTalk_bind went
      obtain ⟨reply, rfl, rfl⟩ := exists_of_mayTalk_send said
      obtain ⟨rfl, rfl⟩ := Program.eq_of_mayTalk_done ends
      refine ⟨cookies ++ (entries ++ [⟨.refresh, reply⟩]), ?_, .reloaded set written ?_⟩
      · rw [List.map_append, List.map_append]
        rfl
      · by_cases none : cookies.countP Exchange.isAccepted = 0
        · right
          rintro rfl
          have empty : (storedFor url session).length = 0 := written.length_eq.symm
          exact something ⟨none, List.isEmpty_iff.mpr (List.length_eq_zero_iff.mp empty)⟩
        · exact .inl (List.countP_pos_iff.mp (Nat.pos_of_ne_zero none))

theorem pageOf_eq (reply : Except WireError Json) :
    pageOf reply = (reply.mapError WireError.fault).bind Answer.asUrl := by
  rcases reply with e | value
  · rfl
  · cases value <;> rfl

theorem exists_of_mayTalk_webPage {page : Except Fault (Option Url)} (h : webPage.MayTalk talk page) :
    ∃ reply, talk = [Exchange.asked ⟨.currentUrl, reply⟩] ∧
      page = (pageOf reply).map fun url => if IsWeb url then some url else none := by
  obtain ⟨first, _, _, rfl, sent, ends⟩ := Program.exists_of_mayTalk_bind h
  obtain ⟨reply, rfl, rfl⟩ := exists_of_mayTalk_send sent
  obtain ⟨rfl, rfl⟩ := Program.eq_of_mayTalk_done ends
  refine ⟨reply, rfl, ?_⟩
  rw [pageOf_eq]
  cases reply with
  | error e => rfl
  | ok value =>
    show (Answer.asUrl value).bind _ = (Answer.asUrl value).map _
    cases Answer.asUrl value <;> rfl

theorem exists_restores (h : (restore session).MayTalk talk result) :
    ∃ reply sent, talk = (Exchange.mk .currentUrl reply :: sent).map Exchange.asked ∧
      Restores session reply sent result := by
  obtain ⟨first, page, later, rfl, said, went⟩ := Program.exists_of_mayTalk_bind h
  obtain ⟨reply, rfl, rfl⟩ := exists_of_mayTalk_webPage said
  cases there : pageOf reply with
  | error fault =>
    rw [there] at went
    obtain ⟨rfl, rfl⟩ := Program.eq_of_mayTalk_done went
    exact ⟨reply, [], rfl, .lost there⟩
  | ok url =>
    rw [there, Except.map] at went
    by_cases web : IsWeb url
    · rw [if_pos web] at went
      obtain ⟨sent, rfl, back⟩ := exists_putsBack went
      exact ⟨reply, sent, rfl, .onPage there web back⟩
    · rw [if_neg web] at went
      obtain ⟨rfl, rfl⟩ := Program.eq_of_mayTalk_done went
      exact ⟨reply, [], rfl, .elsewhere there web⟩

theorem Sets.concerns {cookies : List Exchange} (h : Sets url session cookies) {x : Exchange}
    (there : x ∈ cookies) : Concerns url session x.command := by
  have sent : x.command ∈ cookies.map Exchange.command := List.mem_map_of_mem there
  rw [show cookies.map Exchange.command = _ from h] at sent
  obtain ⟨stored, kept, same⟩ := List.mem_map.mp sent
  rw [← same]
  obtain ⟨held, covers⟩ := List.mem_filter.mp kept
  exact .cookie held (of_decide_eq_true covers)

theorem concerns_of_mem_storedFor {entry : StorageEntry} (h : entry ∈ storedFor url session) :
    Concerns url session (writing entry) := by
  obtain ⟨storage, held, among⟩ := List.mem_flatMap.mp h
  split at among
  · next same => exact .entry held same among
  · cases among

theorem Writes.exists_entry {entries : List StorageEntry} {sent : List Exchange}
    (h : Writes entries sent result) {x : Exchange} (there : x ∈ sent) :
    ∃ entry ∈ entries, x.command = writing entry := by
  have among {others : List Exchange} {some : List StorageEntry}
      (commands : others.map Exchange.command = some.map writing) (there : x ∈ others) :
      ∃ entry ∈ some, x.command = writing entry := by
    have sent : x.command ∈ others.map Exchange.command := List.mem_map_of_mem there
    rw [commands] at sent
    obtain ⟨entry, held, same⟩ := List.mem_map.mp sent
    exact ⟨entry, held, same.symm⟩
  cases h with
  | all commands _ => exact among commands there
  | refused order commands _ =>
    rw [order]
    rcases List.mem_append.mp there with earlier | last
    · obtain ⟨entry, held, same⟩ := among commands earlier
      exact ⟨entry, List.mem_append_left _ held, same⟩
    · rw [List.mem_singleton.mp last]
      exact ⟨_, List.mem_append_right _ List.mem_cons_self, rfl⟩

theorem Writes.concerns {sent : List Exchange} (h : Writes (storedFor url session) sent result)
    {x : Exchange} (there : x ∈ sent) : Concerns url session x.command := by
  obtain ⟨entry, held, same⟩ := h.exists_entry there
  rw [same]
  exact concerns_of_mem_storedFor held

theorem PutsBack.concerns {sent : List Exchange} (h : PutsBack url session sent result) {x : Exchange}
    (there : x ∈ sent) : Concerns url session x.command := by
  cases h with
  | refused set failed =>
    rcases List.mem_append.mp there with first | later
    · exact set.concerns first
    · exact failed.concerns later
  | untouched set _ _ => exact set.concerns there
  | reloaded set written _ =>
    rcases List.mem_append.mp there with first | there
    · exact set.concerns first
    · rcases List.mem_append.mp there with later | last
      · exact written.concerns later
      · rw [List.mem_singleton.mp last]
        exact .refresh

theorem Restores.concerns {reply : Except WireError Json} {sent : List Exchange}
    (h : Restores session reply sent result) {x : Exchange} (there : x ∈ sent) :
    ∃ url, pageOf reply = .ok url ∧ IsWeb url ∧ Concerns url session x.command := by
  cases h with
  | lost | elsewhere => cases there
  | @onPage url _ _ opened web back => exact ⟨url, opened, web, back.concerns there⟩

end

/-- A driver is asked for the open page and then sent what `Restores` lists, nothing of which is of another
host or origin. -/
theorem restore_sends {ω : Type} (driver : Responder wireSignature ω) (session : Session) (w : ω) :
    ∃ reply sent, (restore session).transcript driver w =
        (Exchange.mk .currentUrl reply :: sent).map Exchange.asked ∧
      Restores session reply sent ((restore session).run driver w).1 ∧
      ∀ x ∈ sent, ∃ url, pageOf reply = .ok url ∧ IsWeb url ∧ Concerns url session x.command := by
  obtain ⟨reply, sent, talk, restores⟩ := exists_restores (Program.mayTalk_run driver (restore session) w)
  exact ⟨reply, sent, talk, restores, fun _ there => restores.concerns there⟩

end Storage

end PageWalk
