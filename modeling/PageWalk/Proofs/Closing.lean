import PageWalk.Cli.Dispatch
import PageWalk.Proofs.SessionHistory
import PageWalk.Proofs.Within

/-!
# Browsers are closed

A command drives at most one browser. If it has started one, closing it is the last thing that is asked
of the driver, whatever has failed before, and what the driver answers to that makes no difference.
`Tidy` says how a command is put together from what it asks of files and console, from the start and the
end of a browser, and from what is done in between.
-/

namespace PageWalk

set_option autoImplicit false

section Commands

open Machine (andThen desk files wire)

variable {α β : Type}

namespace Machine

/-- What is asked of the machine, with the answer. -/
abbrev Exchange : Type :=
  Sigma machineSignature.Answer

namespace Exchange

def sent? : Exchange → Option WireCommand
  | ⟨.inr (.send command), _⟩ => some command
  | _ => none

def isStart : Exchange → Bool
  | ⟨.inr (.start _ _), .ok _⟩ => true
  | _ => false

theorem isStart_eq_false {e : Exchange} (h : isEdge e.1 = false) : e.isStart = false := by
  rcases e with ⟨q | _ | _ | _ | _ | _, reply⟩
  case inr.start => cases h
  all_goals rfl

theorem sent?_ne_close {e : Exchange} (h : isEdge e.1 = false) : e.sent? ≠ some .close := by
  intro closes
  rcases e with ⟨q | _ | _ | _ | command | _, reply⟩
  case inr.send =>
    obtain rfl := Option.some.inj closes
    cases h
  all_goals cases closes

theorem sent?_eq_none {e : Exchange} (h : isAtDesk e.1 = true) : e.sent? = none := by
  rcases e with ⟨q | call, reply⟩
  · rfl
  · cases h

end Exchange

open Exchange

/-- No browser is started, and nothing is sent to a driver. -/
def IsQuiet (talk : List Exchange) : Prop :=
  talk.countP isStart = 0 ∧ talk.filterMap sent? = []

/-- One browser is started, and closing it is sent last and only then. -/
def ClosesLast (talk : List Exchange) : Prop :=
  talk.countP isStart = 1 ∧
    ∃ before, talk.filterMap sent? = before ++ [.close] ∧ .close ∉ before

section Talks

variable {talk : List Exchange} {a : α}

theorem isQuiet_nil : IsQuiet [] := ⟨rfl, rfl⟩

theorem IsQuiet.append {later : List Exchange} (h : IsQuiet talk) (h' : IsQuiet later) :
    IsQuiet (talk ++ later) := by
  constructor
  · rw [List.countP_append, h.1, h'.1]
  · rw [List.filterMap_append, h.2, h'.2, List.append_nil]

theorem IsQuiet.append_closesLast {later : List Exchange} (h : IsQuiet talk) (h' : ClosesLast later) :
    ClosesLast (talk ++ later) := by
  obtain ⟨once, before, sent, first⟩ := h'
  refine ⟨?_, before, ?_, first⟩
  · rw [List.countP_append, h.1, once]
  · rw [List.filterMap_append, h.2, sent, List.nil_append]

theorem ClosesLast.append {later : List Exchange} (h : ClosesLast talk) (h' : IsQuiet later) :
    ClosesLast (talk ++ later) := by
  obtain ⟨once, before, sent, first⟩ := h
  refine ⟨?_, before, ?_, first⟩
  · rw [List.countP_append, once, h'.1]
  · rw [List.filterMap_append, sent, h'.2, List.append_nil]

theorem countP_isStart_of_within {p : MachineProgram α} (h : p.Within) (said : p.MayTalk talk a) :
    talk.countP isStart = 0 := by
  rw [List.countP_eq_zero]
  intro e there starts
  rw [isStart_eq_false (h.forall_mem_talk said e there)] at starts
  cases starts

theorem close_notMem_of_within {p : MachineProgram α} (h : p.Within) (said : p.MayTalk talk a) :
    .close ∉ talk.filterMap sent? := by
  intro closes
  obtain ⟨e, there, same⟩ := List.mem_filterMap.mp closes
  exact sent?_ne_close (h.forall_mem_talk said e there) same

theorem isQuiet_of_atDesk {p : MachineProgram α} (h : p.AtDesk) (said : p.MayTalk talk a) :
    IsQuiet talk := by
  refine ⟨countP_isStart_of_within (within_of_atDesk h) said, ?_⟩
  rw [List.filterMap_eq_nil_iff]
  exact fun e there => sent?_eq_none (h.forall_mem_talk said e there)

/-- A browser that could not be started was sent nothing. -/
theorem talk_of_start {plan : Browser.Plan} {result : Except Fault Unit}
    (said : (wire (Browser.start plan)).MayTalk talk result) :
    (∃ fault, result = .error fault ∧ IsQuiet talk) ∨
      result = .ok () ∧ talk.countP isStart = 1 ∧ .close ∉ talk.filterMap sent? := by
  obtain ⟨up, talk₁, rfl, said₁⟩ := Program.exists_of_mayTalk_ask said
  rcases up with _ | _
  · obtain ⟨rfl, rfl⟩ := Program.eq_of_mayTalk_done said₁
    exact .inl ⟨_, rfl, rfl, rfl⟩
  obtain ⟨profile, talk₂, rfl, said₂⟩ := Program.exists_of_mayTalk_ask said₁
  rcases profile with e | profile
  · obtain ⟨rfl, rfl⟩ := Program.eq_of_mayTalk_done said₂
    exact .inl ⟨_, rfl, rfl, rfl⟩
  obtain ⟨started, talk₃, rfl, said₃⟩ := Program.exists_of_mayTalk_ask said₂
  rcases started with e | _
  · obtain ⟨rfl, rfl⟩ := Program.eq_of_mayTalk_done said₃
    exact .inl ⟨_, rfl, rfl, rfl⟩
  -- a driver that refuses the size of the window is left alone
  rcases plan with ⟨kind, url, _ | size, headless⟩
  · obtain ⟨rfl, rfl⟩ := Program.eq_of_mayTalk_done said₃
    exact .inr ⟨rfl, rfl, List.not_mem_nil⟩
  · obtain ⟨sized, talk₄, rfl, said₄⟩ := Program.exists_of_mayTalk_ask said₃
    obtain ⟨rfl, rfl⟩ := Program.eq_of_mayTalk_done said₄
    exact .inr ⟨rfl, rfl, by simp [sent?]⟩

end Talks

end Machine

namespace Browse

open Machine

theorem within_loaded (store : SessionStore) (session : Option String) :
    (loaded store session).Within := by
  cases session with
  | none => trivial
  | some name => exact within_desk _

theorem within_visit (session : Session) (isNamed : Bool) (url : Option String) :
    (visit session isNamed url).Within := by
  cases url with
  | none => trivial
  | some url =>
    apply within_andThen (within_wire (Driving.within_goto url))
    intro _
    split
    · exact within_wire (Storage.within_restore session)
    · trivial

theorem within_saveAs (store : SessionStore) (history : History) (session : Option String) :
    (saveAs store history session).Within := by
  cases session with
  | none => trivial
  | some name =>
    apply within_andThen (within_wire (Driving.within_inContext Storage.within_capture))
    intro held
    apply (within_desk (Desk.files _)).bind
    intro saved
    trivial

theorem within_screenshot (path : Option String) : (screenshot path).Within := by
  cases path with
  | none => trivial
  | some path =>
    apply within_andThen (within_wire (Driving.within_inContext (Driving.within_asking rfl)))
    intro bytes
    exact (within_desk _).bind fun _ => trivial

theorem within_explored (store : SessionStore) (request : RunRequest)
    (actions expectations : List String) :
    (explored store request actions expectations).Within := by
  apply (within_loaded store request.session).bind
  intro session
  apply within_andThen (within_visit session _ _)
  intro _
  apply within_andThen
  · exact within_wire ((Program.asks_true _).through fun call _ => within_driven call)
  intro report
  apply (within_desk _).bind
  intro time
  apply within_andThen (within_screenshot request.screenshot)
  intro _
  exact within_andThen (within_saveAs store _ request.session) fun _ => trivial

theorem within_interaction (history : History) : (interaction history).Within := by
  refine Program.Asks.bind (Program.Asks.through (Program.asks_true _) ?_) fun _ => trivial
  rintro (call | call) -
  · exact within_wire (within_driven call)
  · exact within_desk _

theorem within_interacted (store : SessionStore) (url session : Option String) :
    (interacted store url session).Within := by
  apply (within_loaded store session).bind
  intro stored
  apply within_andThen (within_visit stored _ url)
  intro _
  apply within_andThen (within_interaction stored.history)
  intro history
  apply within_andThen (within_saveAs store history session)
  intro _
  cases session with
  | none => trivial
  | some name => exact (within_desk _).bind fun _ => trivial

/--
What is asked of the desk, one browser that is started and closed again, and what is asked of the desk
after that.
-/
inductive Tidy {α : Type} : MachineProgram α → Prop where
  | done (a : α) : Tidy (.done a)
  | desk {q : deskSignature.Ask} {next : deskSignature.Answer q → MachineProgram α}
      (later : ∀ reply, Tidy (next reply)) : Tidy (.ask (.inl q) next)
  | browser {β : Type} (plan : Browser.Plan) {body : MachineProgram (Except Fault β)}
      {rest : Except Fault β → MachineProgram α} (within : body.Within)
      (after : ∀ result, (rest result).AtDesk) : Tidy ((inBrowser plan body).bind rest)

section Shapes

theorem tidy_of_atDesk {p : MachineProgram α} (h : p.AtDesk) : Tidy p := by
  induction p with
  | done a => exact .done a
  | ask q next ih =>
    obtain ⟨here, later⟩ := h
    cases q with
    | inl q => exact .desk fun reply => ih reply (later reply)
    | inr call => cases here

theorem tidy_inBrowser (plan : Browser.Plan) {body : MachineProgram (Except Fault α)}
    (within : body.Within) : Tidy (inBrowser plan body) := by
  rw [← Program.bind_done (inBrowser plan body)]
  exact .browser plan within fun _ => trivial

theorem Tidy.bind {p : MachineProgram α} {f : α → MachineProgram β} (h : Tidy p)
    (after : ∀ a, (f a).AtDesk) : Tidy (p.bind f) := by
  induction h with
  | done a => exact tidy_of_atDesk (after a)
  | desk later ih => exact .desk fun reply => ih reply
  | browser plan within rest =>
    rw [Program.bind_assoc]
    exact .browser plan within fun result => (rest result).bind after

theorem tidy_bind {p : MachineProgram α} {f : α → MachineProgram β} (h : p.AtDesk)
    (later : ∀ a, Tidy (f a)) : Tidy (p.bind f) := by
  induction p with
  | done a => exact later a
  | ask q next ih =>
    obtain ⟨here, next⟩ := h
    cases q with
    | inl q => exact .desk fun reply => ih reply (next reply)
    | inr call => cases here

theorem tidy_andThen {step : MachineProgram (Except Fault α)}
    {next : α → MachineProgram (Except Fault β)} (h : step.AtDesk) (later : ∀ a, Tidy (next a)) :
    Tidy (andThen step next) := by
  apply tidy_bind h
  rintro (fault | a)
  · exact .done _
  · exact later a

theorem tidy_report (settings : Settings) (store : SessionStore) (request : RunRequest) :
    Tidy (report settings store request) := by
  apply tidy_andThen (atDesk_desk _)
  intro commands
  have driven : Tidy (andThen (pure (plan settings request.browser)) fun plan =>
      inBrowser plan (explored store request commands.1 commands.2)) :=
    tidy_andThen trivial fun plan => tidy_inBrowser plan (within_explored store request _ _)
  exact driven

theorem tidy_run (settings : Settings) (store : SessionStore) (request : RunRequest) :
    Tidy (run settings store request) := by
  apply (tidy_report settings store request).bind
  rintro (fault | report)
  · trivial
  · exact (atDesk_desk _).bind fun _ => trivial

theorem tidy_interact (settings : Settings) (store : SessionStore) (url session : Option String)
    (choice : BrowserChoice) : Tidy (interact settings store url session choice) := by
  have driven : Tidy (andThen (pure (plan settings choice)) fun plan =>
      inBrowser plan (interacted store url session)) :=
    tidy_andThen trivial fun plan => tidy_inBrowser plan (within_interacted store url session)
  exact driven.bind fun _ => trivial

theorem tidy_command (dataDirectory : String) (args : List String) :
    Tidy (Cli.run dataDirectory args) := by
  unfold Cli.run
  split
  · exact .done _
  · next request configPath _ =>
    apply tidy_bind (atDesk_desk _)
    intro settings
    refine Tidy.bind ?_ fun result => atDesk_desk _
    cases request with
    | run request => exact tidy_run settings _ request
    | interact url session choice => exact tidy_interact settings _ url session choice
    | generate | check | session | settings => exact tidy_of_atDesk (atDesk_desk _)

end Shapes

section Talks

variable {talk : List Exchange} {a : α}

theorem talk_of_inBrowser {plan : Browser.Plan} {body : MachineProgram (Except Fault α)}
    {result : Except Fault α} (within : body.Within) (said : (inBrowser plan body).MayTalk talk result) :
    IsQuiet talk ∨ ClosesLast talk := by
  obtain ⟨opening, started, later, rfl, saidFirst, saidLater⟩ := Program.exists_of_mayTalk_bind said
  rcases talk_of_start saidFirst with ⟨fault, rfl, quiet⟩ | ⟨rfl, once, first⟩
  · obtain ⟨rfl, -⟩ := Program.eq_of_mayTalk_done saidLater
    exact .inl (quiet.append isQuiet_nil)
  · obtain ⟨inner, last, ending, rfl, saidInner, saidEnding⟩ := Program.exists_of_mayTalk_bind saidLater
    obtain ⟨reply, more, rfl, saidMore⟩ := Program.exists_of_mayTalk_ask saidEnding
    obtain ⟨rfl, -⟩ := Program.eq_of_mayTalk_done saidMore
    refine .inr ⟨?_, (opening ++ inner).filterMap Exchange.sent?, ?_, ?_⟩
    · rw [List.countP_append, List.countP_append, once, countP_isStart_of_within within saidInner]
      rfl
    · rw [← List.append_assoc, List.filterMap_append]
      rfl
    · rw [List.filterMap_append, List.mem_append, not_or]
      exact ⟨first, close_notMem_of_within within saidInner⟩

theorem Tidy.quiet_or_closes {p : MachineProgram α} (h : Tidy p) (said : p.MayTalk talk a) :
    IsQuiet talk ∨ ClosesLast talk := by
  induction h generalizing talk with
  | done a =>
    obtain ⟨rfl, -⟩ := Program.eq_of_mayTalk_done said
    exact .inl isQuiet_nil
  | desk later ih =>
    obtain ⟨reply, more, rfl, saidMore⟩ := Program.exists_of_mayTalk_ask said
    have first : IsQuiet [⟨.inl _, reply⟩] := ⟨rfl, rfl⟩
    rcases ih reply saidMore with quiet | closes
    · exact .inl (first.append quiet)
    · exact .inr (first.append_closesLast closes)
  | browser plan within after =>
    obtain ⟨inner, result, rest, rfl, saidInner, saidRest⟩ := Program.exists_of_mayTalk_bind said
    have last := isQuiet_of_atDesk (after result) saidRest
    rcases talk_of_inBrowser within saidInner with quiet | closes
    · exact .inl (quiet.append last)
    · exact .inr (closes.append last)

end Talks

section Closing

variable {τ ω : Type} {desk : Responder deskSignature τ} {driver other : Responder wireSignature ω}

/-- Files and console beside a browser driver. -/
abbrev both (desk : Responder deskSignature τ) (driver : Responder wireSignature ω) :
    Responder machineSignature (τ × ω) :=
  desk.beside driver

/-- From two states, a program asks the same of two drivers, gives the same and leaves the same desk. -/
structure EndsAlike (desk : Responder deskSignature τ) (driver other : Responder wireSignature ω)
    (p : MachineProgram α) (m m' : τ × ω) : Prop where
  asked : p.asked (both desk driver) m = p.asked (both desk other) m'
  result : (p.run (both desk driver) m).1 = (p.run (both desk other) m').1
  left : (p.run (both desk driver) m).2.1 = (p.run (both desk other) m').2.1

theorem endsAlike_of_atDesk {p : MachineProgram α} (h : p.AtDesk) (d : τ) (w w' : ω) :
    EndsAlike desk driver other p (d, w) (d, w') := by
  induction p generalizing d with
  | done a => exact ⟨rfl, rfl, rfl⟩
  | ask q next ih =>
    obtain ⟨here, later⟩ := h
    cases q with
    | inl q =>
      obtain ⟨asked, result, left⟩ := ih (desk q d).1 (later _) (desk q d).2
      exact ⟨congrArg (Sum.inl q :: ·) asked, result, left⟩
    | inr call => cases here

theorem EndsAlike.bind {p : MachineProgram α} {f : α → MachineProgram β} {m m' : τ × ω}
    (first : EndsAlike desk driver other p m m')
    (later : ∀ a d w w', EndsAlike desk driver other (f a) (d, w) (d, w')) :
    EndsAlike desk driver other (p.bind f) m m' := by
  obtain ⟨asked, result, left⟩ := first
  have rest : EndsAlike desk driver other (f (p.run (both desk driver) m).1)
      (p.run (both desk driver) m).2 (p.run (both desk other) m').2 := by
    have same := later (p.run (both desk driver) m).1 (p.run (both desk driver) m).2.1
      (p.run (both desk driver) m).2.2 (p.run (both desk other) m').2.2
    rw [left] at same
    rw [← Prod.eta (p.run (both desk driver) m).2, left]
    exact same
  constructor
  · rw [Program.asked_bind, Program.asked_bind, asked, rest.asked, result]
  · rw [Program.run_bind, Program.run_bind, rest.result, result]
  · rw [Program.run_bind, Program.run_bind, rest.left, result]

/-- As long as it is not closed, two drivers that differ only in closing are the same. -/
theorem endsAlike_bind_of_asks (same : ∀ call, call ≠ .send .close → driver call = other call)
    {p : MachineProgram α} {f : α → MachineProgram β} {m : τ × ω}
    (first : p.Asks fun q => q ≠ Sum.inr (WireCall.send .close))
    (later : ∀ a m, EndsAlike desk driver other (f a) m m) :
    EndsAlike desk driver other (p.bind f) m m := by
  have agree : ∀ q, q ≠ Sum.inr (WireCall.send .close) → both desk driver q = both desk other q := by
    rintro (q | call) apart
    · rfl
    · have call_eq := same call fun closes => apart (congrArg Sum.inr closes)
      funext ⟨d, w⟩
      change ((driver call w).1, (d, (driver call w).2)) = ((other call w).1, (d, (other call w).2))
      rw [call_eq]
  obtain ⟨ran, asked⟩ := first.run_congr agree m
  obtain ⟨asked', result, left⟩ := later (p.run (both desk other) m).1 (p.run (both desk other) m).2
  constructor
  · rw [Program.asked_bind, Program.asked_bind, asked, ran, asked']
  · rw [Program.run_bind, Program.run_bind, ran, result]
  · rw [Program.run_bind, Program.run_bind, ran, left]

theorem ne_close_of_within {p : MachineProgram α} (h : p.Within) :
    p.Asks fun q => q ≠ Sum.inr (WireCall.send .close) := by
  apply h.imp
  rintro q inner rfl
  cases inner

theorem ne_close_of_start (plan : Browser.Plan) :
    (wire (Browser.start plan)).Asks fun q => q ≠ Sum.inr (WireCall.send .close) := by
  refine ⟨nofun, ?_⟩
  rintro (_ | _)
  · trivial
  refine ⟨nofun, ?_⟩
  rintro (e | profile)
  · trivial
  refine ⟨nofun, ?_⟩
  rintro (e | _)
  · trivial
  rcases plan with ⟨kind, url, _ | size, headless⟩
  · trivial
  · exact ⟨nofun, fun _ => trivial⟩

theorem Tidy.endsAlike {p : MachineProgram α} (h : Tidy p)
    (same : ∀ call, call ≠ .send .close → driver call = other call) (d : τ) (w : ω) :
    EndsAlike desk driver other p (d, w) (d, w) := by
  induction h generalizing d with
  | done a => exact ⟨rfl, rfl, rfl⟩
  | @desk q next later ih =>
    obtain ⟨asked, result, left⟩ := ih (desk q d).1 (desk q d).2
    exact ⟨congrArg (Sum.inl q :: ·) asked, result, left⟩
  | browser plan within after =>
    refine EndsAlike.bind ?_ fun result d w w' => endsAlike_of_atDesk (after result) d w w'
    apply endsAlike_bind_of_asks same (ne_close_of_start plan)
    rintro (fault | _) m
    · exact ⟨rfl, rfl, rfl⟩
    · exact endsAlike_bind_of_asks same (ne_close_of_within within) fun _ _ => ⟨rfl, rfl, rfl⟩

end Closing

/-- A command closes the browser that it has started, and does not mind how that goes. -/
structure Closes (p : MachineProgram α) : Prop where
  /-- In every world, either nothing is sent to the driver, or it starts one browser, and closing that is
  sent last and only then. -/
  last : ∀ {σ : Type} (world : Responder machineSignature σ) (m : σ),
    IsQuiet (p.transcript world m) ∨ ClosesLast (p.transcript world m)
  /-- With another driver that differs only in closing, the command is asked the same, ends the same and
  leaves files and console the same. -/
  whatever : ∀ {τ ω : Type} (desk : Responder deskSignature τ) (driver other : Responder wireSignature ω),
    (∀ call, call ≠ .send .close → driver call = other call) → ∀ d w,
    EndsAlike desk driver other p (d, w) (d, w)

theorem Tidy.closes {p : MachineProgram α} (h : Tidy p) : Closes p where
  last world m := h.quiet_or_closes (Program.mayTalk_run world p m)
  whatever _ _ _ same d w := h.endsAlike same d w

/-- Every run, every interactive session and every command line closes the browser that it has started. -/
theorem browser_closed :
    (∀ settings store request, Closes (run settings store request)) ∧
    (∀ settings store url session choice, Closes (interact settings store url session choice)) ∧
    ∀ dataDirectory args, Closes (Cli.run dataDirectory args) :=
  ⟨fun settings store request => (tidy_run settings store request).closes,
    fun settings store url session choice => (tidy_interact settings store url session choice).closes,
    fun dataDirectory args => (tidy_command dataDirectory args).closes⟩

/-- The bare driver, except that it refuses to close. -/
def clingingDriver : Responder wireSignature Unit
  | .send .close, s => (.error ⟨"unknown error", "no"⟩, s)
  | call, s => bareDriver (.ok (.arr [])) call s

/-- A command fails and the driver refuses to close: closing is still asked for once, to no other end. -/
theorem browser_closed_refused :
    let p := run {} ⟨"sessions"⟩ (waitAndClick none)
    let m := ((oneRecord, ()), ())
    (p.run (world stillConsole clingingDriver) m).1 = .error ⟨[], .unmet 1 1⟩ ∧
    ClosesLast (p.transcript (world stillConsole clingingDriver) m) ∧
    EndsAlike (FileTree.respond.beside stillConsole) clingingDriver (bareDriver (.ok (.arr []))) p m m := by
  intro p m
  have closes := browser_closed.1 {} ⟨"sessions"⟩ (waitAndClick none)
  refine ⟨by decide +kernel, ?_, ?_⟩
  · rcases closes.last (world stillConsole clingingDriver) m with quiet | last
    · have started : (p.transcript (world stillConsole clingingDriver) m).countP Exchange.isStart = 1 := by
        decide +kernel
      rw [quiet.1] at started
      cases started
    · exact last
  · apply closes.whatever
    rintro (_ | _ | _ | command | _) apart
    case send => cases command <;> first | rfl | exact absurd rfl apart
    all_goals rfl

end Browse

end Commands

end PageWalk
