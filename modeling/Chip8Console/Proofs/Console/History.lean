import Chip8Console.Proofs.Console.Run
import Chip8Console.Proofs.Loading.Run
import Mathlib.Data.List.DropRight

/-! # The history of a run

A `Happening` is something that a run can be judged by: what was answered about loads, the key edges and
orders that were handled, and what the machine was run for.  The history of a run lists them in order.

`Change` says once what can be done to a session, together with what happens then: a program is sent for,
loaded or given up, a key moves its line, or something goes on that concerns neither loads nor keys.  What
an action does is a `Turn` of such changes, so an invariant that every change keeps holds after every run
(`Console.history_induction`).
-/

namespace Chip8Console

/-! ## Since the last time -/

section

variable {α : Type} (p : α → Bool)

/-- What has come after the last element with the property. -/
def sinceLast (xs : List α) : List α :=
  xs.rtakeWhile (!p ·)

@[simp] theorem sinceLast_nil : sinceLast p [] = [] := by
  simp [sinceLast]

theorem sinceLast_concat (xs : List α) (x : α) :
    sinceLast p (xs ++ [x]) = if p x then [] else sinceLast p xs ++ [x] := by
  cases has : p x <;> simp [sinceLast, has]

theorem sinceLast_append {xs more : List α} (none : ∀ x ∈ more, p x = false) :
    sinceLast p (xs ++ more) = sinceLast p xs ++ more := by
  induction more using List.reverseRecOn with
  | nil => simp
  | append_singleton more x ih =>
    rw [← List.append_assoc, sinceLast_concat, none x List.mem_concat_self,
      ih fun y among => none y (List.mem_append_left _ among)]
    simp

theorem sinceLast_suffix (xs : List α) : sinceLast p xs <:+ xs :=
  List.rtakeWhile_suffix _ _

theorem mem_sinceLast {xs : List α} {x : α} :
    x ∈ sinceLast p xs ↔ ∃ before after, xs = before ++ x :: after ∧ ∀ y ∈ x :: after, p y = false := by
  constructor
  · intro among
    obtain ⟨earlier, whole⟩ := sinceLast_suffix p xs
    obtain ⟨before, after, split⟩ := List.append_of_mem among
    refine ⟨earlier ++ before, after, by rw [← whole, split, List.append_assoc], fun y later => ?_⟩
    have among' : y ∈ sinceLast p xs := split ▸ List.mem_append_right before later
    simpa using List.mem_rtakeWhile_imp among'
  · rintro ⟨before, after, rfl, none⟩
    rw [sinceLast_append p none]
    exact List.mem_append_right _ List.mem_cons_self

/-- The last answer is that of an element after which there are no answers. -/
theorem getLast?_filterMap_eq_some_iff {β : Type} {f : α → Option β} {xs : List α} {b : β} :
    (xs.filterMap f).getLast? = some b ↔
      ∃ before x after, xs = before ++ x :: after ∧ f x = some b ∧ ∀ y ∈ after, f y = none := by
  rw [List.getLast?_eq_some_iff]
  constructor
  · rintro ⟨earlier, split⟩
    obtain ⟨before, rest, rfl, -, last⟩ := List.filterMap_eq_append_iff.mp split
    obtain ⟨silent, x, after, rfl, -, answer, none⟩ := List.filterMap_eq_cons_iff.mp last
    exact ⟨before ++ silent, x, after, by simp, answer, List.filterMap_eq_nil_iff.mp none⟩
  · rintro ⟨before, x, after, rfl, answer, none⟩
    refine ⟨before.filterMap f, ?_⟩
    rw [List.filterMap_append, List.filterMap_cons_some answer, List.filterMap_eq_nil_iff.mpr none]

end

/-! ## What happens -/

inductive Happening (σ : Type) where
  /-- A program was asked for, and is on its way. -/
  | sent (index : Nat)
  | loaded (index : Nat)
  | failed (index : Nat) (failure : Failure)
  | edge (edge : KeyEdge)
  | halted
  | resumed
  /-- A tick has run a cycle, and the machine is like this now. -/
  | ran (machine : σ)
  /-- A single instruction was run, and the machine is like this now. -/
  | stepped (machine : σ)

namespace Happening

variable {σ : Type}

def isSent : Happening σ → Bool
  | .sent _ => true
  | _ => false

def isLoaded : Happening σ → Bool
  | .loaded _ => true
  | _ => false

def loaded? : Happening σ → Option Nat
  | .loaded index => some index
  | _ => none

def edge? : Happening σ → Option KeyEdge
  | .edge e => some e
  | _ => none

/-- What concerns neither loads nor keys. -/
inductive Incidental : Happening σ → Prop
  | halted : Incidental .halted
  | resumed : Incidental .resumed
  | ran (machine : σ) : Incidental (.ran machine)
  | stepped (machine : σ) : Incidental (.stepped machine)

namespace Incidental

variable {happening : Happening σ}

theorem isLoaded_eq (incidental : happening.Incidental) : happening.isLoaded = false := by
  cases incidental <;> rfl

theorem edge?_eq (incidental : happening.Incidental) : happening.edge? = none := by
  cases incidental <;> rfl

end Incidental

/-- What has happened since a program was last sent for. -/
def sinceSent (history : List (Happening σ)) : List (Happening σ) :=
  sinceLast isSent history

/-- What has happened since a program was last loaded. -/
def sinceLoad (history : List (Happening σ)) : List (Happening σ) :=
  sinceLast isLoaded history

end Happening

/-! ## What happens to a session -/

theorem Panel.updateDebug_eq (p : Panel) (registers : Registers) :
    ∃ debug, p.updateDebug registers = { p with debug } := by
  unfold updateDebug
  split
  · exact ⟨_, rfl⟩
  · exact ⟨p.debug, rfl⟩

namespace Session

variable {σ : Type} {s t u : Session σ}

def sent : Except Failure Selection → List (Happening σ)
  | .ok (.loading index) => [.sent index]
  | _ => []

theorem sent_eq_nil {answer : Except Failure Selection} (dropped : ∀ index, answer ≠ .ok (.loading index)) :
    (sent answer : List (Happening σ)) = [] := by
  unfold sent
  split
  · exact absurd rfl (dropped _)
  · rfl

theorem filterMap_sent {β : Type} {f : Happening σ → Option β} (none : ∀ index, f (.sent index) = none)
    (answer : Except Failure Selection) : (sent answer).filterMap f = [] := by
  unfold sent
  split
  · exact List.filterMap_cons_none (none _)
  · rfl

/-- Why the fetch on its way has failed, if it has. -/
def failure? (s : Session σ) : Option Failure :=
  match s.loader.pending.bind s.rig.outcome? with
  | some (.error failure) => some failure
  | _ => none

/-- Others have had the machine and the scheduler, and have made these calls. -/
structure Aside (s t : Session σ) (calls : List Call) : Prop where
  loader : t.loader = s.loader
  router : t.router = s.router
  label : t.panel.label = s.panel.label
  controls : t.panel.controls = s.panel.controls
  error : t.panel.error = s.panel.error
  calls : t.rig.journal.calls = s.rig.journal.calls ++ calls

theorem Alike.aside (alike : t.Alike s) : s.Aside t [] where
  loader := alike.loader
  router := alike.router
  label := by rw [alike.panel]
  controls := by rw [alike.panel]
  error := by rw [alike.panel]
  calls := by rw [alike.calls, List.append_nil]

theorem Aside.trans {calls more : List Call} (first : s.Aside t calls) (second : t.Aside u more) :
    s.Aside u (calls ++ more) where
  loader := second.loader.trans first.loader
  router := second.router.trans first.router
  label := second.label.trans first.label
  controls := second.controls.trans first.controls
  error := second.error.trans first.error
  calls := by rw [second.calls, first.calls, List.append_assoc]

theorem Aside.of_scheduler {scheduler : Scheduler Float} (alike : t.Alike { s with scheduler }) :
    s.Aside t [] :=
  ⟨alike.loader, alike.router, by rw [alike.panel], by rw [alike.panel], by rw [alike.panel],
    by rw [alike.calls, List.append_nil]⟩

/-- A scheduler has run the machine, and the panel was shown its registers. -/
theorem aside_of_run (s : Session σ) {rig : Rig σ} {calls : List Call} (scheduler : Scheduler Float)
    (registers : Registers) (made : rig.journal.calls = s.rig.journal.calls ++ calls) :
    s.Aside { s with rig, scheduler, panel := s.panel.updateDebug registers } calls := by
  obtain ⟨debug, shown⟩ := s.panel.updateDebug_eq registers
  rw [shown]
  exact ⟨rfl, rfl, rfl, rfl, rfl, made⟩

theorem Aside.alike {calls : List Call} (aside : s.Aside t calls) (alike : u.Alike t) :
    s.Aside u calls := by
  simpa using aside.trans alike.aside

variable [Machine σ]

/-- What the next poll will find. -/
def arrival (s : Session σ) : List (Happening σ) :=
  match s.poll.2 with
  | .nothing => []
  | .loaded index => [.loaded index]
  | .failed index => s.failure?.toList.map (.failed index)

theorem filterMap_arrival {β : Type} {f : Happening σ → Option β} (loaded : ∀ index, f (.loaded index) = none)
    (failed : ∀ index failure, f (.failed index failure) = none) (s : Session σ) : s.arrival.filterMap f = [] := by
  unfold arrival
  cases s.poll.2 with
  | nothing => rfl
  | loaded index => exact List.filterMap_cons_none (loaded index)
  | failed index =>
    cases s.failure? with
    | none => rfl
    | some failure => exact List.filterMap_cons_none (failed index failure)

theorem select_cases (s : Session σ) (index : Nat) :
    (s.Aside (s.select index).1 [] ∧ (sent (s.select index).2 : List (Happening σ)) = []) ∨
    ∃ program, s.loader.catalog.get? index = some program ∧
      s.select index = (s.send index program, .ok (.loading index)) := by
  unfold select
  split
  · have alike : Alike { s with rig := s.rig.note (.loadDropped index) } s :=
      .of_rig rfl rfl (Rig.deeds_note _ _)
    exact .inl ⟨alike.aside, rfl⟩
  · cases s.loader.catalog.get? index with
    | none => exact .inl ⟨(Alike.refl s).aside, rfl⟩
    | some program => exact .inr ⟨program, rfl, rfl⟩

theorem poll_of_error {s : Session σ} {ticket : Nat} {failure : Failure} (pending : s.loader.pending = some ticket)
    (outcome : s.rig.outcome? ticket = some (.error failure)) :
    s.poll = ((s.close ticket).fail failure, .failed s.loader.current) := by
  simp only [poll, pending, outcome]

theorem poll_of_ok {s : Session σ} {ticket : Nat} {bytes : List UInt8} (pending : s.loader.pending = some ticket)
    (outcome : s.rig.outcome? ticket = some (.ok bytes)) :
    s.poll = ((s.close ticket).finish s.loader.program bytes, .loaded s.loader.current) := by
  simp only [poll, pending, outcome]

theorem poll_cases (s : Session σ) :
    (s.poll.1 = s ∧ s.arrival = []) ∨
    ∃ ticket, s.loader.pending = some ticket ∧
      ((∃ bytes, s.poll.1 = (s.close ticket).finish s.loader.program bytes ∧
          s.arrival = [.loaded s.loader.current]) ∨
        ∃ failure, s.poll.1 = (s.close ticket).fail failure ∧
          s.arrival = [.failed s.loader.current failure]) := by
  unfold arrival failure? poll
  cases s.loader.pending with
  | none => exact .inl ⟨rfl, rfl⟩
  | some ticket =>
    simp only [Option.bind_some]
    cases s.rig.outcome? ticket with
    | none => exact .inl ⟨rfl, rfl⟩
    | some answer =>
      refine .inr ⟨ticket, rfl, ?_⟩
      cases answer with
      | ok bytes => exact .inl ⟨bytes, rfl, rfl⟩
      | error failure => exact .inr ⟨failure, rfl, rfl⟩

end Session

/-! ## Changes -/

/-- The line of the keypad that a call moves. -/
def Call.line? : Call → Option UInt8
  | .press line | .release line => some line
  | _ => none

/-- The call that an edge makes on the machine, if its key is mapped. -/
def Router.callOf (r : Router) : KeyEdge → Option Call
  | .down key => (r.lookup key).map fun line => .press line.number
  | .up key => (r.lookup key).map fun line => .release line.number

theorem Router.calls_edge {σ : Type} [Machine σ] (r : Router) (edge : KeyEdge) (rig : Rig σ) :
    (r.edge edge rig).1.journal.calls = rig.journal.calls ++ (r.callOf edge).toList := by
  rw [Router.edge_eq]
  cases edge with
  | down key =>
    cases mapped : r.lookup key with
    | none => simp [callOf, mapped]
    | some line =>
      simp only [callOf, mapped]
      exact Journal.calls_of_deeds (Rig.deeds_press rig line.number)
  | up key =>
    cases mapped : r.lookup key with
    | none => simp [callOf, mapped]
    | some line =>
      simp only [callOf, mapped]
      exact Journal.calls_of_deeds (Rig.deeds_release rig line.number)

/-- What can be done to a session, and what happens then. -/
inductive Change {σ : Type} [Machine σ] (s : Session σ) : Session σ → List (Happening σ) → Prop
  | aside {t : Session σ} {calls : List Call} {happenings : List (Happening σ)} (aside : s.Aside t calls)
      (noLine : ∀ call ∈ calls, call.line? = none)
      (incidental : ∀ happening ∈ happenings, happening.Incidental) : Change s t happenings
  | edge {t : Session σ} (edge : KeyEdge) (aside : s.Aside t (s.router.callOf edge).toList) :
      Change s t [.edge edge]
  | send {index : Nat} {program : Program} (listed : s.loader.catalog.get? index = some program) :
      Change s (s.send index program) [.sent index]
  | load {ticket : Nat} (pending : s.loader.pending = some ticket) (bytes : List UInt8) :
      Change s ((s.close ticket).finish s.loader.program bytes) [.loaded s.loader.current]
  | fail {ticket : Nat} (pending : s.loader.pending = some ticket) (failure : Failure) :
      Change s ((s.close ticket).fail failure) [.failed s.loader.current failure]

/-- Changes one after the other, with all that happens meanwhile. -/
inductive Turn {σ : Type} [Machine σ] (s : Session σ) : Session σ → List (Happening σ) → Prop
  | refl : Turn s s []
  | step {t u : Session σ} {happenings more : List (Happening σ)} (turn : Turn s t happenings)
      (change : Change t u more) : Turn s u (happenings ++ more)

namespace Turn

variable {σ : Type} [Machine σ] {s t u : Session σ} {happenings : List (Happening σ)}

theorem one (change : Change s t happenings) : Turn s t happenings :=
  .step .refl change

theorem quietly (turn : Turn s t happenings) (aside : t.Aside u []) : Turn s u happenings := by
  have change : Change t u [] := .aside aside (by simp) (by simp)
  simpa using turn.step change

theorem of_aside (aside : s.Aside t []) : Turn s t [] :=
  refl.quietly aside

theorem select (s : Session σ) (index : Nat) :
    Turn s (s.select index).1 (Session.sent (s.select index).2) := by
  rcases s.select_cases index with ⟨aside, none⟩ | ⟨program, listed, selected⟩
  · rw [none]
    exact .of_aside aside
  · rw [selected]
    exact .one (.send listed)

theorem poll (s : Session σ) : Turn s s.poll.1 s.arrival := by
  rcases s.poll_cases with ⟨same, nothing⟩ | ⟨ticket, pending, ⟨bytes, after, arrived⟩ |
    ⟨failure, after, arrived⟩⟩
  · rw [same, nothing]
    exact .refl
  · rw [after, arrived]
    exact .one (.load pending bytes)
  · rw [after, arrived]
    exact .one (.fail pending failure)

/-- What every change keeps is kept by a turn. -/
theorem keeps {P : List (Happening σ) → Session σ → Prop}
    (change : ∀ past t u more, P past t → Change t u more → P (past ++ more) u)
    {past : List (Happening σ)} (start : P past s) (turn : Turn s t happenings) :
    P (past ++ happenings) t := by
  induction turn with
  | refl => rwa [List.append_nil]
  | step _ last kept =>
    rw [← List.append_assoc]
    exact change _ _ _ _ kept last

end Turn

/-- What every change keeps, whatever has happened before. -/
theorem Turn.stays {σ : Type} [Machine σ] {P : Session σ → Prop} (change : ∀ s t more, P s → Change s t more → P t)
    {s t : Session σ} {happenings : List (Happening σ)} (start : P s) (turn : Turn s t happenings) : P t := by
  induction turn with
  | refl => exact start
  | step _ last kept => exact change _ _ _ kept last

/-! ## Histories of a session -/

namespace Session

variable {σ : Type} [Machine σ]

def happenings (s : Session σ) : LoadEvent σ → List (Happening σ)
  | .select index => sent (s.select index).2
  | .selectNext => sent s.selectNext.2
  | .selectPrev => sent s.selectPrev.2
  | .poll => s.arrival
  | .deliver .. | .abandon .. | .lend .. => []

def history (s : Session σ) : List (LoadEvent σ) → List (Happening σ)
  | [] => []
  | event :: events => s.happenings event ++ (s.take event).1.history events

theorem takeAll_cons (s : Session σ) (event : LoadEvent σ) (events : List (LoadEvent σ)) :
    (s.takeAll (event :: events)).1 = ((s.take event).1.takeAll events).1 := by
  induction events using List.reverseRecOn with
  | nil => rfl
  | append_singleton events last ih =>
    rw [← List.cons_append, takeAll_concat, takeAll_concat, ih]

/-- Whoever was lent the parts of the session brings them back with the same keys installed, and with the
same texts on the panel. -/
def Spares (s : Session σ) : LoadEvent σ → Prop
  | .lend _ _ router panel => router = s.router ∧ panel.label = s.panel.label ∧
      panel.controls = s.panel.controls ∧ panel.error = s.panel.error
  | _ => True

/-- The keys and the texts are spared all through a run. -/
def SparedBy (s : Session σ) : List (LoadEvent σ) → Prop
  | [] => True
  | event :: events => s.Spares event ∧ (s.take event).1.SparedBy events

theorem turn_take {s : Session σ} {event : LoadEvent σ} (spared : s.Spares event) :
    Turn s (s.take event).1 (s.happenings event) := by
  cases event with
  | select index => exact .select s index
  | selectNext => exact .select s _
  | selectPrev => exact .select s _
  | poll => exact .poll s
  | deliver ticket answer => exact .of_aside ⟨rfl, rfl, rfl, rfl, rfl, by simp [take, deliver]⟩
  | abandon ticket => exact .of_aside ⟨rfl, rfl, rfl, rfl, rfl, by simp [take, abandon]⟩
  | lend machine scheduler router panel =>
    obtain ⟨router, label, controls, error⟩ := spared
    exact .of_aside ⟨rfl, router, label, controls, error, (List.append_nil _).symm⟩

/-- What every change keeps is kept by every run. -/
theorem history_induction {P : List (Happening σ) → Session σ → Prop}
    (change : ∀ past t u more, P past t → Change t u more → P (past ++ more) u)
    {past : List (Happening σ)} {s : Session σ} (start : P past s) {events : List (LoadEvent σ)}
    (spared : s.SparedBy events) : P (past ++ s.history events) (s.takeAll events).1 := by
  induction events generalizing s past with
  | nil => simpa [history] using start
  | cons event events ih =>
    -- The first event becomes part of the past of the others.
    rw [history, ← List.append_assoc, takeAll_cons]
    exact ih ((turn_take spared.1).keeps change start) spared.2

end Session

/-! ## Histories of a console -/

namespace Console

variable {σ δ : Type}

section

variable [Machine σ] [Beeper δ]

def happenings (c : Console σ δ) : Action → List (Happening σ)
  | .boot => Session.sent c.boot.2
  | .tick now =>
    c.session.arrival ++ match (c.tick now).2 with
      | .executed => [.ran (c.tick now).1.session.rig.machine]
      | _ => []
  | .event (.key edge) => [.edge edge]
  | .event .halt => [.halted]
  | .event .resume => [.resumed]
  | .event .step => [.stepped c.step.session.rig.machine]
  | .event .nextProgram => Session.sent c.session.selectNext.2
  | .event .prevProgram => Session.sent c.session.selectPrev.2
  | .event .toggleDebug | .event .quit | .deliver .. | .abandon .. => []

/-- All that happens in a run, in order. -/
def history (c : Console σ δ) : List Action → List (Happening σ)
  | [] => []
  | action :: actions => c.happenings action ++ (c.act action).history actions

end

@[simp] theorem choose_snd [Beeper δ] (c : Console σ δ)
    (ask : Session σ → Session σ × Except Failure Selection) :
    (c.choose ask).2 = (ask c.session).2 := by
  rcases c.choose_cases ask with ⟨-, chosen⟩ | ⟨index, answer, chosen⟩
  · rw [chosen]
    rfl
  · rw [chosen, answer]

variable [Machine σ]

theorem turn_select {c d : Console σ δ} {index : Nat}
    (alike : d.session.Alike (c.session.select index).1) :
    Turn c.session d.session (Session.sent (c.session.select index).2) :=
  (Turn.select c.session index).quietly alike.aside

variable [Beeper δ]

theorem turn_tick (c : Console σ δ) (now : Float) :
    Turn c.session (c.tick now).1.session (c.happenings (.tick now)) := by
  have polled : Turn c.session c.pollLoad.session c.session.arrival :=
    (Turn.poll c.session).quietly c.pollLoad_alike.aside
  simp only [happenings]
  -- After the poll at most one more change comes, that of a cycle.
  rcases c.tick_cases now with ⟨-, outcome, left⟩ | ⟨-, outcome, left⟩
  · have idle : (c.tick now).2 ≠ .executed := by
      rw [outcome]
      split <;> simp
    split
    · exact absurd ‹_› idle
    · rw [List.append_nil]
      exact polled.quietly (.of_scheduler left)
  · have cycle : c.pollLoad.session.Aside (c.tick now).1.session [.cycle] :=
      (Session.aside_of_run _ _ _ (Journal.calls_of_deeds (Rig.deeds_runCycle _))).alike left
    rw [outcome]
    exact polled.step (.aside cycle (by simp [Call.line?]) (by simpa using .ran _))

theorem turn_event (c : Console σ δ) (event : HostEvent) :
    Turn c.session (c.handle event).1.session (c.happenings (.event event)) := by
  cases event with
  | key edge => exact .one (.edge edge ⟨rfl, rfl, rfl, rfl, rfl, Router.calls_edge _ _ _⟩)
  | halt =>
    exact .one (.aside (.of_scheduler (halt_alike c)) (by simp) (by simpa [happenings] using .halted))
  | resume =>
    exact .one (.aside (.of_scheduler (resume_alike c)) (by simp) (by simpa [happenings] using .resumed))
  | step =>
    have opCode : c.session.Aside c.step.session [.opCode] :=
      (Session.aside_of_run _ _ _ (Journal.calls_of_deeds (Rig.deeds_runOpCode _))).alike (step_alike c)
    exact .one (.aside opCode (by simp [Call.line?]) (by simpa [happenings] using .stepped _))
  | nextProgram => exact turn_select (change_alike c _)
  | prevProgram => exact turn_select (change_alike c _)
  | toggleDebug =>
    obtain ⟨debug, shown⟩ := c.session.panel.toggleDebug.updateDebug_eq
      (Machine.registers c.session.rig.machine)
    refine .of_aside ?_
    simp only [handle, toggleDebug, session_within, shown]
    exact ⟨rfl, rfl, rfl, rfl, rfl, (List.append_nil _).symm⟩
  | quit => exact .refl

theorem turn_act (c : Console σ δ) (action : Action) :
    Turn c.session (c.act action).session (c.happenings action) := by
  cases action with
  | boot =>
    simp only [happenings, boot, choose_snd]
    exact turn_select (choose_alike c _)
  | tick now => exact turn_tick c now
  | event event => exact turn_event c event
  | deliver ticket answer =>
    exact .of_aside ⟨rfl, rfl, rfl, rfl, rfl, by simp [act, Session.deliver]⟩
  | abandon ticket =>
    exact .of_aside ⟨rfl, rfl, rfl, rfl, rfl, by simp [act, Session.abandon]⟩

/-- What every action keeps is kept by every run. -/
theorem run_induction {P : List (Happening σ) → Console σ δ → Prop}
    (act : ∀ past c action, P past c → P (past ++ c.happenings action) (c.act action))
    {past : List (Happening σ)} {c : Console σ δ} (start : P past c) (actions : List Action) :
    P (past ++ c.history actions) (c.run actions) := by
  induction actions generalizing c past with
  | nil => simpa [history] using start
  | cons action actions ih =>
    rw [history, ← List.append_assoc]
    exact ih (act _ _ action start)

/-- The same for what is said of a run alone, with nothing before it. -/
theorem run_induction_nil {P : List (Happening σ) → Console σ δ → Prop} {c : Console σ δ} (start : P [] c)
    (act : ∀ past c action, P past c → P (past ++ c.happenings action) (c.act action)) (actions : List Action) :
    P (c.history actions) (c.run actions) :=
  run_induction act start actions

/-- For what concerns the session alone it is enough that every change keeps it. -/
theorem history_induction {P : List (Happening σ) → Session σ → Prop}
    (change : ∀ past s t more, P past s → Change s t more → P (past ++ more) t)
    {past : List (Happening σ)} {c : Console σ δ} (start : P past c.session) (actions : List Action) :
    P (past ++ c.history actions) (c.run actions).session :=
  run_induction (P := fun past c => P past c.session)
    (fun _ c action kept => (turn_act c action).keeps change kept) start actions

/-- What every change keeps, whatever has happened before. -/
theorem stays_run {P : Session σ → Prop} (change : ∀ s t more, P s → Change s t more → P t) {c : Console σ δ}
    (start : P c.session) (actions : List Action) : P (c.run actions).session := by
  induction actions generalizing c with
  | nil => exact start
  | cons action actions ih => exact ih ((turn_act c action).stays change start)

end Console

end Chip8Console
