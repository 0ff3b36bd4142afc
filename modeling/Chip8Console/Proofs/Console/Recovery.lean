import Chip8Console.Fetching
import Chip8Console.Machine.Puppet
import Chip8Console.Proofs.Console.Paired
import Chip8Console.Proofs.Console.Selections
import Chip8Console.Proofs.Loading.Exclusive

/-! # Failed loads

A load that fails is given up, and that is all: the machine is not called, and only the message and the loader's own
state change (`GivesUpOnly`).  Its program can be sent for again, and if it comes then, everything is as if it had come
at once, but for one more reset of the machine (`Recovers`).

For that the fetch of a program on its way has to be open to an answer, and its name has to be shown, without an error
(`OnItsWay`).  This is so in every state that a run comes to (`failed_loads_recoverable`).
-/

namespace Chip8Console

/-! ## What concerns loads only -/

/-- A property that only loads can break, as it is about the loader, its fetches and the texts on the panel. -/
structure Session.KeptByLoads {σ : Type} [Machine σ] (P : Session σ → Prop) : Prop where
  aside : ∀ {s t : Session σ} {calls : List Call}, s.Aside t calls → t.rig.fetches = s.rig.fetches → P s → P t
  select : ∀ {s : Session σ} (index : Nat), P s → P (s.select index).1
  poll : ∀ {s : Session σ}, P s → P s.poll.1
  deliver : ∀ {s : Session σ} (ticket : Nat) (answer : Fetched), P s → P (s.deliver ticket answer).1
  abandon : ∀ {s : Session σ} (ticket : Nat), P s → P (s.abandon ticket).1

namespace Session.KeptByLoads

variable {σ δ : Type} [Machine σ] {P : Session σ → Prop} {s : Session σ}

theorem take (kept : KeptByLoads P) {event : LoadEvent σ} (spared : s.Spares event) (holds : P s) :
    P (s.take event).1 := by
  cases event with
  | select index => exact kept.select index holds
  | selectNext => exact kept.select _ holds
  | selectPrev => exact kept.select _ holds
  | poll => exact kept.poll holds
  | deliver ticket answer => exact kept.deliver ticket answer holds
  | abandon ticket => exact kept.abandon ticket holds
  | lend machine scheduler router panel =>
    obtain ⟨sameKeys, label, controls, error⟩ := spared
    have aside : s.Aside (s.take (.lend machine scheduler router panel)).1 [] :=
      ⟨rfl, sameKeys, label, controls, error, (List.append_nil _).symm⟩
    exact kept.aside aside rfl holds

theorem takeAll (kept : KeptByLoads P) {events : List (LoadEvent σ)} (spared : s.SparedBy events) (holds : P s) :
    P (s.takeAll events).1 := by
  induction events generalizing s with
  | nil => exact holds
  | cons event events ih =>
    rw [takeAll_cons]
    exact ih spared.2 (kept.take spared.1 holds)

theorem alike {t : Session σ} (kept : KeptByLoads P) (left : t.Alike s) (holds : P s) : P t :=
  kept.aside left.aside left.fetches holds

variable [Beeper δ] {c : Console σ δ}

theorem tick (kept : KeptByLoads P) (holds : P c.session) (now : Float) : P (c.tick now).1.session := by
  have polled : P c.pollLoad.session := kept.alike c.pollLoad_alike (kept.poll holds)
  -- After the poll no load is concerned, whether a cycle is run or not.
  rcases c.tick_cases now with ⟨-, -, left⟩ | ⟨-, -, left⟩
  · exact kept.aside (.of_scheduler left) left.fetches polled
  · have cycle : c.pollLoad.session.Aside (c.tick now).1.session [.cycle] :=
      (aside_of_run _ _ _ (Journal.calls_of_deeds (Rig.deeds_runCycle _))).alike left
    exact kept.aside cycle left.fetches polled

theorem handle (kept : KeptByLoads P) (holds : P c.session) (event : HostEvent) : P (c.handle event).1.session := by
  cases event with
  | key edge =>
    have moved : c.session.Aside (c.handle (.key edge)).1.session (c.session.router.callOf edge).toList :=
      ⟨rfl, rfl, rfl, rfl, rfl, Router.calls_edge _ _ _⟩
    exact kept.aside moved (Router.fetches_edge _ edge _) holds
  | halt => exact kept.aside (.of_scheduler c.halt_alike) c.halt_alike.fetches holds
  | resume => exact kept.aside (.of_scheduler c.resume_alike) c.resume_alike.fetches holds
  | step =>
    have opCode : c.session.Aside c.step.session [.opCode] :=
      (aside_of_run _ _ _ (Journal.calls_of_deeds (Rig.deeds_runOpCode _))).alike c.step_alike
    exact kept.aside opCode c.step_alike.fetches holds
  | nextProgram => exact kept.alike (c.change_alike _) (kept.select _ holds)
  | prevProgram => exact kept.alike (c.change_alike _) (kept.select _ holds)
  | toggleDebug =>
    -- The registers are none of the texts that loads set.
    have toggled : c.session.Aside { c.session with panel := c.session.panel.toggleDebug } [] :=
      ⟨rfl, rfl, rfl, rfl, rfl, (List.append_nil _).symm⟩
    have shown : c.session.Aside (c.handle .toggleDebug).1.session ([] ++ []) :=
      toggled.trans (aside_of_run _ c.session.scheduler _ (List.append_nil _).symm)
    exact kept.aside shown rfl holds
  | quit => exact holds

theorem act (kept : KeptByLoads P) (holds : P c.session) (action : Action) : P (c.act action).session := by
  cases action with
  | boot => exact kept.alike (c.choose_alike _) (kept.select 0 holds)
  | tick now => exact kept.tick holds now
  | event event => exact kept.handle holds event
  | deliver ticket answer => exact kept.deliver ticket answer holds
  | abandon ticket => exact kept.abandon ticket holds

theorem run (kept : KeptByLoads P) (holds : P c.session) (actions : List Action) : P (c.run actions).session := by
  induction actions generalizing c with
  | nil => exact holds
  | cons action actions ih => exact ih (kept.act holds action)

end Session.KeptByLoads

namespace Session

variable {σ : Type} {s t : Session σ} {ticket : Nat}

/-! ## The program on its way -/

/-- This fetch of the program on its way is open to an answer, and the panel shows the name of the program. -/
structure OnItsWay (s : Session σ) (ticket : Nat) : Prop where
  state : s.loader.state = .loading
  listed : s.loader.catalog.get? s.loader.current = some s.loader.program
  label : s.panel.label = s.loader.program.name
  error : s.panel.error = none
  fetch : ∃ fetch, s.rig.fetches[ticket]? = some fetch ∧ fetch.locator = s.loader.program.locator ∧
    fetch.closed = false ∧ (fetch.answer = none → s.loader.fetcher.atOnce fetch.locator = none)

/-- Either nothing is on its way, or a program is, and all is set for it. -/
structure InOrder (s : Session σ) : Prop where
  idle : s.loader.pending = none → s.loader.state = .idle
  onItsWay : ∀ ticket, s.loader.pending = some ticket → s.OnItsWay ticket

theorem inOrder_of_idle (pending : s.loader.pending = none) (idle : s.loader.state = .idle) : s.InOrder where
  idle _ := idle
  onItsWay _ onItsWay := by
    rw [pending] at onItsWay
    cases onItsWay

/-- Nothing is to be done where neither the loader nor its fetches nor the texts that it has set have changed. -/
theorem InOrder.pass (order : s.InOrder) (loader : t.loader = s.loader) (fetches : t.rig.fetches = s.rig.fetches)
    (label : t.panel.label = s.panel.label) (error : t.panel.error = s.panel.error) : t.InOrder where
  idle none := by
    rw [loader] at none ⊢
    exact order.idle none
  onItsWay ticket pending := by
    rw [loader] at pending
    have way := order.onItsWay ticket pending
    refine ⟨?_, ?_, ?_, error.trans way.error, ?_⟩
    · rw [loader, way.state]
    · rw [loader, way.listed]
    · rw [loader, label, way.label]
    · rw [loader, fetches]
      exact way.fetch

theorem InOrder.change_fetch (order : s.InOrder) {fetch changed : Fetch} (found : s.rig.fetches[ticket]? = some fetch)
    (locator : changed.locator = fetch.locator) (closed : changed.closed = fetch.closed)
    (answer : changed.answer = none → fetch.answer = none) :
    InOrder { s with rig := { s.rig with fetches := s.rig.fetches.setIfInBounds ticket changed } } where
  idle := order.idle
  onItsWay other pending := by
    have way := order.onItsWay other pending
    obtain ⟨awaited, there, named, opened, empty⟩ := way.fetch
    refine ⟨way.state, way.listed, way.label, way.error, ?_⟩
    -- The fetch that has changed may be the one that is waited for.
    by_cases same : ticket = other
    · subst same
      obtain rfl := Option.some.inj (found.symm.trans there)
      have inside : ticket < s.rig.fetches.size := (Array.getElem?_eq_some_iff.mp found).1
      refine ⟨changed, Array.getElem?_setIfInBounds_self_of_lt inside, locator.trans named, closed.trans opened, ?_⟩
      intro none
      rw [locator]
      exact empty (answer none)
    · refine ⟨awaited, ?_, named, opened, empty⟩
      exact (Array.getElem?_setIfInBounds_ne same).trans there

/-! ## What becomes of its fetch -/

theorem outcome?_eq_none_iff {fetch : Fetch} (there : s.rig.fetches[ticket]? = some fetch) :
    s.rig.outcome? ticket = none ↔ fetch.answer = none ∧ fetch.abandoned = false := by
  simp only [Rig.outcome?, there]
  cases fetch.answer <;> simp

/-- The same session, but its fetch has come to this. -/
structure Settled (s t : Session σ) (ticket : Nat) (answer : Fetched) : Prop where
  outcome : t.rig.outcome? ticket = some answer
  size : t.rig.fetches.size = s.rig.fetches.size
  machine : t.rig.machine = s.rig.machine
  journal : t.rig.journal = s.rig.journal
  scheduler : t.scheduler = s.scheduler
  router : t.router = s.router
  panel : t.panel = s.panel
  loader : t.loader = s.loader

/-- Any answer can be delivered, and whoever is to answer can go away. -/
structure OpenTo (s : Session σ) (ticket : Nat) : Prop where
  deliver : ∀ answer, (s.deliver ticket answer).2 = .accepted ∧ s.Settled (s.deliver ticket answer).1 ticket answer
  abandon : (s.abandon ticket).2 = .accepted ∧
    s.Settled (s.abandon ticket).1 ticket (.error (.fetch s.loader.program.locator .abandoned))

theorem OnItsWay.openTo (way : s.OnItsWay ticket) (unanswered : s.rig.outcome? ticket = none) : s.OpenTo ticket := by
  obtain ⟨fetch, there, named, opened, -⟩ := way.fetch
  have inside : ticket < s.rig.fetches.size := (Array.getElem?_eq_some_iff.mp there).1
  obtain ⟨empty, present⟩ := (outcome?_eq_none_iff there).mp unanswered
  have delivered (answer : Fetched) :
      s.rig.deliver ticket answer =
        ({ s.rig with fetches := s.rig.fetches.setIfInBounds ticket { fetch with answer := some answer } },
          .accepted) := by
    simp [Rig.deliver, there, present, opened, empty]
  have left :
      s.rig.abandon ticket =
        ({ s.rig with fetches := s.rig.fetches.setIfInBounds ticket { fetch with abandoned := true } },
          .accepted) := by
    simp [Rig.abandon, there, present]
  refine ⟨fun answer => ?_, ?_⟩
  · simp only [deliver, delivered]
    exact ⟨trivial, by simp [Rig.outcome?, inside], by simp, rfl, rfl, rfl, rfl, rfl, rfl⟩
  · simp only [abandon, left]
    exact ⟨trivial, by simp [Rig.outcome?, inside, empty, named], by simp, rfl, rfl, rfl, rfl, rfl, rfl⟩

/-- Where no answer is there yet, none was there at once. -/
theorem OnItsWay.atOnce_eq_none (way : s.OnItsWay ticket) (unanswered : s.rig.outcome? ticket = none) :
    s.loader.fetcher.atOnce s.loader.program.locator = none := by
  obtain ⟨fetch, there, named, -, empty⟩ := way.fetch
  rw [← named]
  exact empty ((outcome?_eq_none_iff there).mp unanswered).1

variable [Machine σ]

/-! ## The program on its way is in order -/

theorem loader_send (s : Session σ) (index : Nat) (program : Program) : (s.send index program).loader =
    { s.loader with current := index, state := .loading, pending := some s.rig.fetches.size } := rfl

theorem panel_send (s : Session σ) (index : Nat) (program : Program) :
    (s.send index program).panel = (s.panel.setLabel program.name).clearError := rfl

theorem inOrder_send {index : Nat} {program : Program} (listed : s.loader.catalog.get? index = some program) :
    (s.send index program).InOrder where
  idle none := by cases none
  onItsWay ticket pending := by
    obtain rfl : s.rig.fetches.size = ticket := Option.some.inj pending
    have named : (s.send index program).loader.program = program := by
      simp only [Loader.program, send, Catalog.get, listed, Option.getD_some]
    refine ⟨rfl, ?_, ?_, rfl, { locator := program.locator, answer := s.loader.fetcher.atOnce program.locator }, ?_⟩
    · rw [named]
      exact listed
    · rw [named]
      rfl
    · rw [named]
      exact ⟨Array.getElem?_push_size, rfl, rfl, id⟩

/-- A program on its way stays in order until a poll takes what its fetch has come to. -/
theorem InOrder.kept : KeptByLoads (InOrder (σ := σ)) where
  aside aside fetches order := order.pass aside.loader fetches aside.label aside.error
  select {s} index order := by
    cases state : s.loader.state with
    | loading =>
      -- A request that is dropped leaves no trace but a notice.
      rw [(drops_select state index).2.state]
      exact order.pass rfl rfl rfl rfl
    | idle =>
      rw [select_of_idle state]
      cases listed : s.loader.catalog.get? index with
      | none => exact order
      | some program => exact inOrder_send listed
  poll {s} order := by
    rcases s.poll_cases with ⟨same, -⟩ | ⟨ticket, -, ⟨bytes, after, -⟩ | ⟨failure, after, -⟩⟩
    · rwa [same]
    · rw [after]
      exact inOrder_of_idle rfl rfl
    · rw [after]
      exact inOrder_of_idle rfl rfl
  deliver {s} ticket answer order := by
    rcases s.rig.deliver_cases ticket answer with ⟨same, -⟩ | ⟨fetch, there, -, -, -, after⟩
    · simp only [deliver, same]
      exact order
    · simp only [deliver, after]
      exact order.change_fetch there rfl rfl fun none => absurd none (Option.some_ne_none _)
  abandon {s} ticket order := by
    rcases s.rig.abandon_cases ticket with ⟨same, -⟩ | ⟨fetch, there, after⟩
    · simp only [abandon, same]
      exact order
    · simp only [abandon, after]
      exact order.change_fetch there rfl rfl id

/-! ## Giving up -/

/-- All that a poll does is to give up the load. -/
structure GivesUpOnly (s : Session σ) (ticket : Nat) (failure : Failure) : Prop where
  answer : s.poll.2 = .failed s.loader.current
  loader : s.poll.1.loader = { s.loader with state := .idle, pending := none }
  panel : s.poll.1.panel = { s.panel with error := some failure.message }
  scheduler : s.poll.1.scheduler = s.scheduler
  router : s.poll.1.router = s.router
  machine : s.poll.1.rig.machine = s.rig.machine
  calls : s.poll.1.rig.journal.calls = s.rig.journal.calls
  effects : s.poll.1.rig.journal.effects = s.rig.journal.effects
  size : s.poll.1.rig.fetches.size = s.rig.fetches.size
  fetches : ∀ other, other ≠ ticket → s.poll.1.rig.fetches[other]? = s.rig.fetches[other]?

theorem givesUpOnly {failure : Failure} (pending : s.loader.pending = some ticket)
    (outcome : s.rig.outcome? ticket = some (.error failure)) : s.GivesUpOnly ticket failure := by
  constructor
  all_goals rw [poll_of_error pending outcome]
  · rfl
  · rfl
  · rfl
  · rfl
  · rfl
  · exact calls_fail _ _
  · exact Journal.effects_note _ _
  · exact Array.size_modify
  · intro other different
    simp only [fail, close, Rig.note, Rig.closeFetch, Array.getElem?_modify, if_neg (Ne.symm different)]

theorem poll_of_waiting (unanswered : ∀ ticket, s.loader.pending = some ticket → s.rig.outcome? ticket = none) :
    s.poll = (s, .nothing) := by
  unfold poll
  cases pending : s.loader.pending with
  | none => rfl
  | some ticket => simp only [unanswered ticket pending]

/-! ## Another attempt -/

/-- A poll puts the image of the program into the machine. -/
structure Lands (s t : Session σ) (bytes : List UInt8) : Prop where
  answer : t.poll.2 = .loaded s.loader.current
  loader : t.poll.1.loader = { s.loader with state := .idle, pending := none }
  scheduler : t.poll.1.scheduler = s.scheduler.start.1
  router : t.poll.1.router = (s.router.install s.loader.program.mappings).1
  panel : t.poll.1.panel = s.panel.setControls s.loader.program.mappings
  obeys : s.rig.Obeys (.load bytes :: Rig.allLines.map .release) t.poll.1.rig

theorem Settled.lands {bytes : List UInt8} (settled : s.Settled t ticket (.ok bytes))
    (pending : s.loader.pending = some ticket) : s.Lands t bytes := by
  have pending' : t.loader.pending = some ticket := by rw [settled.loader, pending]
  constructor
  all_goals rw [poll_of_ok pending' settled.outcome]
  · simp only [settled.loader]
  · simp only [← settled.loader]
    rfl
  · simp only [← settled.scheduler]
    rfl
  · simp only [← settled.router, ← settled.loader]
    rfl
  · simp only [← settled.panel, ← settled.loader]
    rfl
  · have finished := (t.close ticket).obeys_finish t.loader.program bytes
    exact ⟨settled.journal ▸ finished.calls, settled.machine ▸ finished.machine⟩

/-- A poll, and then the same program is asked for once more. -/
def retry (s : Session σ) : Session σ × Except Failure Selection :=
  s.poll.1.select s.loader.current

/-- The program has been sent for once more, for which the machine was reset; all else is as it was when it had been
sent for first. -/
structure Resent (s t : Session σ) : Prop where
  loader : t.loader = { s.loader with pending := some s.rig.fetches.size }
  scheduler : t.scheduler = s.scheduler
  router : t.router = s.router
  panel : t.panel = s.panel
  obeys : s.rig.Obeys [.reset] t.rig

/-- As the load of a program on its way has failed, the program is given up, and then sent for once more. -/
theorem Settled.retry_eq {failure : Failure} (settled : s.Settled t ticket (.error failure)) (way : s.OnItsWay ticket)
    (gaveUp : t.GivesUpOnly ticket failure) :
    t.retry = (t.poll.1.send s.loader.current s.loader.program, .ok (.loading s.loader.current)) := by
  have idle : t.poll.1.loader.state = .idle := by rw [gaveUp.loader]
  have listed : t.poll.1.loader.catalog.get? s.loader.current = some s.loader.program := by
    rw [gaveUp.loader, settled.loader]
    exact way.listed
  rw [retry, select_of_idle idle, settled.loader]
  simp only [listed]

theorem Settled.resent {failure : Failure} (settled : s.Settled t ticket (.error failure)) (way : s.OnItsWay ticket)
    (gaveUp : t.GivesUpOnly ticket failure) : s.Resent t.retry.1 := by
  rw [settled.retry_eq way gaveUp]
  constructor
  · rw [loader_send, gaveUp.loader, gaveUp.size, settled.loader, settled.size, ← way.state]
  · exact gaveUp.scheduler.trans settled.scheduler
  · exact gaveUp.router.trans settled.router
  · -- To be sent for takes the message away, and sets the name that has been there before.
    rw [panel_send, gaveUp.panel, settled.panel, ← way.label]
    simp only [Panel.setLabel, Panel.clearError]
    rw [← way.error]
  · have sent := t.poll.1.obeys_send s.loader.current s.loader.program
    refine ⟨?_, ?_⟩
    · rw [sent.calls, gaveUp.calls, settled.journal]
    · rw [sent.machine, gaveUp.machine, settled.machine]

/-- It makes no difference that the program came with the second fetch and not with the first, but for the machine, that
was reset once more. -/
structure LandsAlike (s direct recovered : Session σ) (bytes : List UInt8) : Prop where
  answers : direct.poll.2 = .loaded s.loader.current ∧ recovered.poll.2 = .loaded s.loader.current
  loader : recovered.poll.1.loader = direct.poll.1.loader
  scheduler : recovered.poll.1.scheduler = direct.poll.1.scheduler
  router : recovered.poll.1.router = direct.poll.1.router
  panel : recovered.poll.1.panel = direct.poll.1.panel
  directObeys : s.rig.Obeys (.load bytes :: Rig.allLines.map .release) direct.poll.1.rig
  recoveredObeys : s.rig.Obeys (.reset :: .load bytes :: Rig.allLines.map .release) recovered.poll.1.rig

theorem Resent.landsAlike {direct recovered again : Session σ} {bytes : List UInt8} (resent : s.Resent again)
    (first : s.Lands direct bytes) (second : again.Lands recovered bytes) : s.LandsAlike direct recovered bytes where
  answers := by
    refine ⟨first.answer, ?_⟩
    rw [second.answer, resent.loader]
  loader := by rw [second.loader, resent.loader, first.loader]
  scheduler := by rw [second.scheduler, resent.scheduler, first.scheduler]
  router := by
    rw [second.router, resent.router, resent.loader, first.router]
    rfl
  panel := by
    rw [second.panel, resent.panel, resent.loader, first.panel]
    rfl
  directObeys := first.obeys
  recoveredObeys := resent.obeys.trans second.obeys

/-- A load that has failed can be retried: its program is sent for by a fetch of its own, and when that has brought it,
everything is as if the first one had. -/
structure Recovers (s failed : Session σ) (ticket : Nat) : Prop where
  answer : failed.retry.2 = .ok (.loading s.loader.current)
  pending : failed.retry.1.loader.pending = some s.rig.fetches.size
  openTo : s.rig.outcome? ticket = none → failed.retry.1.OpenTo s.rig.fetches.size
  landsAlike : ∀ (bytes : List UInt8) (direct recovered : Session σ), s.Settled direct ticket (.ok bytes) →
    failed.retry.1.Settled recovered s.rig.fetches.size (.ok bytes) → s.LandsAlike direct recovered bytes

theorem outcome_send (s : Session σ) (index : Nat) (program : Program) :
    (s.send index program).rig.outcome? s.rig.fetches.size = s.loader.fetcher.atOnce program.locator := by
  have started : (s.send index program).rig.fetches[s.rig.fetches.size]? =
      some { locator := program.locator, answer := s.loader.fetcher.atOnce program.locator } := Array.getElem?_push_size
  rw [Rig.outcome?, started]
  cases s.loader.fetcher.atOnce program.locator <;> rfl

theorem Settled.recovers {failed : Session σ} {failure : Failure} (settled : s.Settled failed ticket (.error failure))
    (way : s.OnItsWay ticket) (pending : s.loader.pending = some ticket) : s.Recovers failed ticket := by
  have gaveUp : failed.GivesUpOnly ticket failure :=
    givesUpOnly (settled.loader.symm ▸ pending) settled.outcome
  have retried := settled.retry_eq way gaveUp
  have resent := settled.resent way gaveUp
  have pending' : failed.retry.1.loader.pending = some s.rig.fetches.size := by rw [resent.loader]
  refine ⟨by rw [retried], pending', fun unanswered => ?_, fun bytes direct recovered first second => ?_⟩
  · -- Nothing was there at once for the first fetch, so nothing is for the second one.
    have loader : failed.poll.1.loader = { s.loader with state := .idle, pending := none } := by
      rw [gaveUp.loader, settled.loader]
    have size : failed.poll.1.rig.fetches.size = s.rig.fetches.size := gaveUp.size.trans settled.size
    rw [retried] at pending' ⊢
    have order : (failed.poll.1.send s.loader.current s.loader.program).InOrder :=
      inOrder_send (by rw [loader]; exact way.listed)
    have waiting := failed.poll.1.outcome_send s.loader.current s.loader.program
    rw [size, loader, way.atOnce_eq_none unanswered] at waiting
    exact (order.onItsWay _ pending').openTo waiting
  · exact resent.landsAlike (first.lands pending) (second.lands pending')

/-! ## All failures -/

/-- However a load ends, and whenever it is looked for, nothing is spoilt by its failure. -/
structure SurvivesFailures (s : Session σ) : Prop where
  state_iff : s.loader.state = .loading ↔ s.loader.pending.isSome
  waits : (∀ ticket, s.loader.pending = some ticket → s.rig.outcome? ticket = none) → s.poll = (s, .nothing)
  openTo : ∀ ticket, s.loader.pending = some ticket → s.rig.outcome? ticket = none → s.OpenTo ticket
  givesUpOnly : ∀ ticket failure, s.loader.pending = some ticket →
    s.rig.outcome? ticket = some (.error failure) → s.GivesUpOnly ticket failure
  recovers : ∀ ticket failure failed, s.loader.pending = some ticket →
    s.Settled failed ticket (.error failure) → s.Recovers failed ticket

theorem InOrder.survivesFailures (order : s.InOrder) : s.SurvivesFailures where
  state_iff := by
    cases pending : s.loader.pending with
    | none => simp [order.idle pending]
    | some ticket => simp [(order.onItsWay ticket pending).state]
  waits := poll_of_waiting
  openTo ticket pending := (order.onItsWay ticket pending).openTo
  givesUpOnly _ _ := givesUpOnly
  recovers ticket _ _ pending settled := settled.recovers (order.onItsWay ticket pending) pending

end Session

/-- In every state that a console or a loader comes to, a load that fails changes nothing but the message and what the
loader is doing, and it can be retried as if it had never been tried.  What is said of the calls in the journal is said
of the machine, which has gone through them and through nothing else. -/
theorem failed_loads_recoverable {σ δ : Type} [Machine σ] [Beeper δ] (machine : σ) (frameRate : Float)
    (fetcher : Fetcher) (catalog : Catalog) (screen : Screen) (tone : ToneGate δ) (actions : List Action) :
    let s := Session.new machine frameRate fetcher catalog
    let c : Console σ δ := { session := s, screen, tone }
    (c.run actions).session.SurvivesFailures ∧
      (∀ events, s.SparedBy events → (s.takeAll events).1.SurvivesFailures) ∧
      (c.run actions).session.rig.machine = Machine.after machine (c.run actions).session.rig.journal.calls := by
  intro s c
  have start : s.InOrder := Session.inOrder_of_idle rfl rfl
  have order : (c.run actions).session.InOrder := Session.InOrder.kept.run start actions
  exact ⟨order.survivesFailures, fun _ spared => (Session.InOrder.kept.takeAll spared start).survivesFailures,
    (Console.replay_run rfl actions).1⟩

/-- Whoever was to fetch the second program goes away.  It is asked for again, and comes. -/
theorem pong_loaded_with_second_fetch :
    let s := Session.new ({} : Puppet) 60 .promised .builtin
    let sent := (s.takeAll [.select 1]).1
    let left := (sent.abandon 0).1
    let arrived := (left.retry.1.deliver 1 (.ok [18, 0])).1
    s.SparedBy [.select 1] ∧ left.poll.2 = .failed 1 ∧
      left.retry.2 = .ok (.loading 1) ∧ arrived.poll.2 = .loaded 1 ∧
      arrived.poll.1.rig.journal.calls =
        [.reset, .reset, .load [18, 0]] ++ Rig.allLines.map .release := by
  intro s sent left arrived
  have spared : s.SparedBy [.select 1] := ⟨trivial, trivial⟩
  let screen : Screen := .new { resolution := {}, foreground := ⟨255, 255, 255⟩ }
  have survives : sent.SurvivesFailures :=
    (failed_loads_recoverable ({} : Puppet) 60 .promised .builtin screen (.muted : ToneGate Unit) []).2.1 _ spared
  have first : sent.OpenTo 0 := survives.openTo 0 rfl rfl
  have recovers : sent.Recovers left 0 := survives.recovers 0 _ left rfl first.abandon.2
  have second : left.retry.1.OpenTo 1 := recovers.openTo rfl
  have alike := recovers.landsAlike [18, 0] _ arrived (first.deliver (.ok [18, 0])).2 (second.deliver (.ok [18, 0])).2
  exact ⟨spared, rfl, recovers.answer, alike.answers.2, alike.recoveredObeys.calls⟩

end Chip8Console
