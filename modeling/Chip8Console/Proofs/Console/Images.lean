import Chip8Console.Machine.Puppet
import Chip8Console.Proofs.Console.Paired
import Chip8Console.Proofs.Loading.Exclusive
import Mathlib.Data.List.Forall2

/-! # The images that are loaded

Whatever is put into the machine was answered to the fetch of the program that was on its way, for a program of the
catalog (`Stocked`).  So what is loaded can be told from what the fetcher has to offer.  A folder has no empty images
to offer, as an empty file counts as none; images at hand are offered as they are, the empty ones too
(`empty_image_loaded_iff`).
-/

namespace Chip8Console

/-- What may be answered to a fetch, by its locator. -/
abbrev Supply := String → Fetched → Prop

namespace Fetcher

/-- What the fetcher answers at once. -/
def offers (fetcher : Fetcher) : Supply := fun locator answer =>
  fetcher.atOnce locator = some answer

/-- What reading in a folder can come to, whatever is in it at the time. -/
def readings (root : String) : Supply := fun locator answer =>
  ∃ tree, answer = readImage tree root locator

theorem readImage_ne_empty (tree : FileTree) (root locator : String) : readImage tree root locator ≠ .ok [] := by
  unfold readImage
  split
  · nofun
  · rename_i full _
    intro empty
    exact full (Except.ok.inj empty)
  · nofun

end Fetcher

/-- What waits with a fetch is from the supply, and if nothing has come yet, there was nothing at once. -/
structure Fetch.Genuine (supply : Supply) (fetcher : Fetcher) (fetch : Fetch) : Prop where
  supplied : ∀ answer, fetch.answer = some answer → supply fetch.locator answer
  waiting : fetch.answer = none → fetch.closed = false → fetcher.atOnce fetch.locator = none

/-- The image that a call puts into the machine. -/
def Call.image? : Call → Option (List UInt8)
  | .load bytes => some bytes
  | _ => none

theorem Rig.loads_of_calls {σ : Type} {r s : Rig σ} {calls : List Call}
    (grown : r.journal.calls = s.journal.calls ++ calls) : r.loads = s.loads ++ calls.filterMap Call.image? := by
  rw [Rig.loads, grown, List.filterMap_append]
  rfl

theorem Router.loads_edge {σ : Type} [Machine σ] (r : Router) (edge : KeyEdge) (rig : Rig σ) :
    (r.edge edge rig).1.loads = rig.loads := by
  have keyCall : (r.callOf edge).toList.filterMap Call.image? = [] := by
    cases edge with
    | down key => cases mapped : r.lookup key <;> simp [callOf, Call.image?, mapped]
    | up key => cases mapped : r.lookup key <;> simp [callOf, Call.image?, mapped]
  rw [Rig.loads_of_calls (r.calls_edge edge rig), keyCall, List.append_nil]

open Happening (loaded?)

namespace Session

variable {σ : Type}

/-- If the fetch accepts the answer, that is one of the supply. -/
def Supplies (supply : Supply) (s : Session σ) (ticket : Nat) (answer : Fetched) : Prop :=
  ∀ fetch, s.rig.fetches[ticket]? = some fetch → (s.rig.deliver ticket answer).2 = .accepted →
    supply fetch.locator answer

/-- All that is there at once, all that waits to be loaded, and all that was loaded, is from the supply. -/
structure Stocked (supply : Supply) (fetcher : Fetcher) (catalog : Catalog) (history : List (Happening σ))
    (s : Session σ) : Prop where
  fetcher_eq : s.loader.fetcher = fetcher
  catalog_eq : s.loader.catalog = catalog
  listed : catalog.get? s.loader.current = some s.loader.program
  atOnce : ∀ locator answer, fetcher.atOnce locator = some answer → supply locator answer
  genuine : ∀ (ticket : Nat) (fetch : Fetch), s.rig.fetches[ticket]? = some fetch → fetch.Genuine supply fetcher
  pending : ∀ ticket, s.loader.pending = some ticket →
    ∃ fetch, s.rig.fetches[ticket]? = some fetch ∧ fetch.locator = s.loader.program.locator
  loads : List.Forall₂ (fun index bytes => ∃ program, catalog.get? index = some program ∧
    supply program.locator (.ok bytes)) (history.filterMap loaded?) s.rig.loads

namespace Stocked

variable {supply : Supply} {fetcher : Fetcher} {catalog : Catalog} {history happenings : List (Happening σ)}
  {s t u : Session σ}

/-- Nothing is to be done where no load is concerned. -/
theorem pass (k : Stocked supply fetcher catalog history s) (loader : t.loader = s.loader)
    (fetches : t.rig.fetches = s.rig.fetches) (loads : t.rig.loads = s.rig.loads)
    (none : happenings.filterMap loaded? = []) : Stocked supply fetcher catalog (history ++ happenings) t where
  fetcher_eq := by rw [loader, k.fetcher_eq]
  catalog_eq := by rw [loader, k.catalog_eq]
  listed := by rw [loader, k.listed]
  atOnce := k.atOnce
  genuine := by rw [fetches]; exact k.genuine
  pending := by rw [loader, fetches]; exact k.pending
  loads := by rw [loads, List.filterMap_append, none, List.append_nil]; exact k.loads

theorem alike (k : Stocked supply fetcher catalog history s) (alike : t.Alike s) :
    Stocked supply fetcher catalog history t := by
  have loads : t.rig.loads = s.rig.loads := congrArg (List.filterMap Call.image?) alike.calls
  have passed : Stocked supply fetcher catalog (history ++ []) t := k.pass alike.loader alike.fetches loads rfl
  rwa [List.append_nil] at passed

theorem leave (k : Stocked supply fetcher catalog history s) (left : u.Alike t) (loader : t.loader = s.loader)
    (fetches : t.rig.fetches = s.rig.fetches) (loads : t.rig.loads = s.rig.loads)
    (none : happenings.filterMap loaded? = []) : Stocked supply fetcher catalog (history ++ happenings) u :=
  (k.pass loader fetches loads none).alike left

/-- A fetch may be changed as long as it stays genuine, and what it is a fetch of. -/
theorem change (k : Stocked supply fetcher catalog history s) {ticket : Nat} {fetch : Fetch}
    (there : s.rig.fetches[ticket]? = some fetch) (changed : Fetch) (locator : changed.locator = fetch.locator)
    (genuine : changed.Genuine supply fetcher) (loader : t.loader = s.loader)
    (fetches : t.rig.fetches = s.rig.fetches.setIfInBounds ticket changed) (loads : t.rig.loads = s.rig.loads) :
    Stocked supply fetcher catalog history t := by
  have inside : ticket < s.rig.fetches.size := (Array.getElem?_eq_some_iff.mp there).1
  have changedThere : t.rig.fetches[ticket]? = some changed := by
    rw [fetches, Array.getElem?_setIfInBounds_self_of_lt inside]
  have elsewhere : ∀ other, ticket ≠ other → t.rig.fetches[other]? = s.rig.fetches[other]? := by
    intro other different
    rw [fetches, Array.getElem?_setIfInBounds_ne different]
  refine ⟨by rw [loader, k.fetcher_eq], by rw [loader, k.catalog_eq], by rw [loader, k.listed], k.atOnce, ?_, ?_,
    by rw [loads]; exact k.loads⟩
  · intro other found present
    by_cases same : ticket = other
    · subst same
      obtain rfl := Option.some.inj (changedThere.symm.trans present)
      exact genuine
    · rw [elsewhere other same] at present
      exact k.genuine other found present
  · intro other pending
    rw [loader] at pending ⊢
    obtain ⟨found, present, named⟩ := k.pending other pending
    by_cases same : ticket = other
    · subst same
      obtain rfl := Option.some.inj (there.symm.trans present)
      exact ⟨changed, changedThere, locator.trans named⟩
    · exact ⟨found, by rw [elsewhere other same, present], named⟩

theorem deliver (k : Stocked supply fetcher catalog history s) {ticket : Nat} {answer : Fetched}
    (supplies : s.Supplies supply ticket answer) :
    Stocked supply fetcher catalog history (s.deliver ticket answer).1 := by
  rcases s.rig.deliver_cases ticket answer with ⟨same, -⟩ | ⟨fetch, there, -, -, -, after⟩
  · have unchanged : (s.deliver ticket answer).1 = s := by simp only [Session.deliver, same]
    rwa [unchanged]
  · have supplied : supply fetch.locator answer := supplies fetch there (by rw [after])
    refine k.change there { fetch with answer := some answer } rfl ⟨?_, ?_⟩ rfl ?_ ?_
    · intro other given
      obtain rfl := Option.some.inj given
      exact supplied
    · intro empty
      cases empty
    · simp only [Session.deliver, after]
    · simp only [Session.deliver, after]
      rfl

theorem abandon (k : Stocked supply fetcher catalog history s) (ticket : Nat) :
    Stocked supply fetcher catalog history (s.abandon ticket).1 := by
  rcases s.rig.abandon_cases ticket with ⟨same, -⟩ | ⟨fetch, there, after⟩
  · have unchanged : (s.abandon ticket).1 = s := by simp only [Session.abandon, same]
    rwa [unchanged]
  · obtain ⟨supplied, waiting⟩ := k.genuine ticket fetch there
    refine k.change there { fetch with abandoned := true } rfl ⟨supplied, waiting⟩ rfl ?_ ?_
    · simp only [Session.abandon, after]
    · simp only [Session.abandon, after]
      rfl

theorem new [Machine σ] (machine : σ) (frameRate : Float) (catalog : Catalog)
    (atOnce : ∀ locator answer, fetcher.atOnce locator = some answer → supply locator answer) :
    Stocked supply fetcher catalog [] (Session.new machine frameRate fetcher catalog) where
  fetcher_eq := rfl
  catalog_eq := rfl
  listed := rfl
  atOnce := atOnce
  genuine := by simp [Session.new]
  pending := by simp [Session.new]
  loads := .nil

/-- A load that is over leaves its fetch closed, and has none pending. -/
theorem close (k : Stocked supply fetcher catalog history s) (ticket : Nat) :
    Stocked supply fetcher catalog history (s.close ticket) := by
  refine ⟨k.fetcher_eq, k.catalog_eq, k.listed, k.atOnce, ?_, ?_, k.loads⟩
  · intro other found present
    simp only [Session.close, Rig.closeFetch, Array.getElem?_modify] at present
    split at present
    · obtain ⟨_, -, rfl⟩ := Option.map_eq_some_iff.mp present
      exact ⟨by simp, by simp⟩
    · exact k.genuine other found present
  · intro other waits
    cases waits

/-- A fetch comes to something of the supply, or was left without an answer. -/
theorem supplied (k : Stocked supply fetcher catalog history s) {ticket : Nat} {answer : Fetched}
    (pending : s.loader.pending = some ticket) (outcome : s.rig.outcome? ticket = some answer) :
    supply s.loader.program.locator answer ∨ answer = .error (.fetch s.loader.program.locator .abandoned) := by
  obtain ⟨fetch, there, named⟩ := k.pending ticket pending
  rw [← named]
  simp only [Rig.outcome?, there] at outcome
  split at outcome
  · rename_i answer given
    obtain rfl := Option.some.inj outcome
    exact .inl ((k.genuine ticket fetch there).supplied answer given)
  · split at outcome
    · exact .inr (Option.some.inj outcome).symm
    · cases outcome

/-- A fetcher that answers at once leaves nothing to be delivered. -/
theorem supplies_of_atOnce (k : Stocked supply fetcher catalog history s)
    (answers : ∀ locator, fetcher.atOnce locator ≠ none) (ticket : Nat) (answer : Fetched) :
    s.Supplies supply ticket answer := by
  intro fetch there accepted
  rcases s.rig.deliver_cases ticket answer with ⟨-, refused⟩ | ⟨found, present, -, opened, empty, -⟩
  · exact absurd accepted refused
  · exact absurd ((k.genuine ticket found present).waiting empty opened) (answers _)

variable [Machine σ]

theorem send (k : Stocked supply fetcher catalog history s) {index : Nat}
    {program : Program} (listed : catalog.get? index = some program) :
    Stocked supply fetcher catalog (history ++ [.sent index]) (s.send index program) := by
  have current : (s.send index program).loader.program = program := by
    simp [Session.send, Loader.program, Catalog.get, k.catalog_eq, listed]
  have fetches : (s.send index program).rig.fetches =
      s.rig.fetches.push { locator := program.locator, answer := fetcher.atOnce program.locator } := by
    rw [← k.fetcher_eq]
    rfl
  have loads : (s.send index program).rig.loads = s.rig.loads := by
    rw [Rig.loads_of_calls (calls_send s index program)]
    exact List.append_nil _
  refine ⟨k.fetcher_eq, k.catalog_eq, by rw [current]; exact listed, k.atOnce, ?_, ?_, ?_⟩
  · intro ticket fetch there
    rw [fetches, Array.getElem?_push] at there
    split at there
    · obtain rfl := Option.some.inj there
      exact ⟨k.atOnce program.locator, fun none _ => none⟩
    · exact k.genuine ticket fetch there
  · intro ticket pending
    obtain rfl : s.rig.fetches.size = ticket := Option.some.inj pending
    exact ⟨_, by rw [fetches, Array.getElem?_push_size], by rw [current]⟩
  · rw [loads, List.filterMap_append]
    exact (List.append_nil (history.filterMap loaded?)).symm ▸ k.loads

theorem select (k : Stocked supply fetcher catalog history s) (index : Nat) :
    Stocked supply fetcher catalog (history ++ sent (s.select index).2) (s.select index).1 := by
  unfold Session.select
  split
  · have alike : Alike { s with rig := s.rig.note (.loadDropped index) } s :=
      .of_rig rfl rfl (Rig.deeds_note _ _)
    simpa [sent] using k.alike alike
  · rw [k.catalog_eq]
    cases listed : catalog.get? index with
    | none => simpa [sent] using k
    | some program => exact k.send listed

theorem finish (k : Stocked supply fetcher catalog history s) {bytes : List UInt8}
    (supplied : supply s.loader.program.locator (.ok bytes)) :
    Stocked supply fetcher catalog (history ++ [.loaded s.loader.current]) (s.finish s.loader.program bytes) := by
  have loads : (s.finish s.loader.program bytes).rig.loads = s.rig.loads ++ [bytes] := by
    rw [Rig.loads_of_calls (calls_finish s s.loader.program bytes)]
    rfl
  refine ⟨k.fetcher_eq, k.catalog_eq, k.listed, k.atOnce, ?_, ?_, ?_⟩
  · rw [fetches_finish]
    exact k.genuine
  · rw [fetches_finish]
    exact k.pending
  · rw [loads, List.filterMap_append]
    exact List.rel_append k.loads (.cons ⟨s.loader.program, k.listed, supplied⟩ .nil)

theorem poll (k : Stocked supply fetcher catalog history s) :
    Stocked supply fetcher catalog (history ++ s.arrival) s.poll.1 := by
  unfold Session.arrival Session.failure? Session.poll
  cases pending : s.loader.pending with
  | none => simpa using k
  | some ticket =>
    simp only [Option.bind_some]
    cases outcome : s.rig.outcome? ticket with
    | none => simpa using k
    | some answer =>
      cases answer with
      | ok bytes => exact (k.close ticket).finish ((k.supplied pending outcome).resolve_right nofun)
      | error failure =>
        refine (k.close ticket).pass rfl rfl ?_ rfl
        exact congrArg (List.filterMap Call.image?) (calls_fail _ _)

end Stocked

/-! ## Runs of a session -/

/-- All that is delivered in a run, and accepted, is from the supply. -/
def FedBy [Machine σ] (supply : Supply) (s : Session σ) : List (LoadEvent σ) → Prop
  | [] => True
  | event :: events =>
    (∀ ticket answer, event = .deliver ticket answer → s.Supplies supply ticket answer) ∧
      (s.take event).1.FedBy supply events

namespace Stocked

variable [Machine σ] {supply : Supply} {fetcher : Fetcher} {catalog : Catalog} {history : List (Happening σ)}
  {s : Session σ}

theorem take (k : Stocked supply fetcher catalog history s) {event : LoadEvent σ}
    (fed : ∀ ticket answer, event = .deliver ticket answer → s.Supplies supply ticket answer) :
    Stocked supply fetcher catalog (history ++ s.happenings event) (s.take event).1 := by
  cases event with
  | select index => exact k.select index
  | selectNext => exact k.select _
  | selectPrev => exact k.select _
  | poll => exact k.poll
  | deliver ticket answer =>
    rw [happenings, List.append_nil]
    exact k.deliver (fed ticket answer rfl)
  | abandon ticket =>
    rw [happenings, List.append_nil]
    exact k.abandon ticket
  | lend => exact k.pass rfl rfl rfl rfl

theorem takeAll (k : Stocked supply fetcher catalog history s)
    {events : List (LoadEvent σ)} (fed : s.FedBy supply events) :
    Stocked supply fetcher catalog (history ++ s.history events) (s.takeAll events).1 := by
  induction events generalizing history s with
  | nil => simpa [Session.history] using k
  | cons event events ih =>
    rw [Session.history, ← List.append_assoc, takeAll_cons]
    exact ih (k.take fed.1) fed.2

theorem fedBy_of_atOnce (k : Stocked supply fetcher catalog history s)
    (answers : ∀ locator, fetcher.atOnce locator ≠ none) (events : List (LoadEvent σ)) : s.FedBy supply events := by
  induction events generalizing history s with
  | nil => trivial
  | cons event events ih =>
    have fed (ticket answer) (_ : event = .deliver ticket answer) := k.supplies_of_atOnce answers ticket answer
    exact ⟨fed, ih (k.take fed)⟩

end Stocked

end Session

/-! ## Runs of a console -/

namespace Console

variable {σ δ : Type} [Machine σ] [Beeper δ]

/-- All that is delivered in a run, and accepted, is from the supply. -/
def FedBy (supply : Supply) (c : Console σ δ) : List Action → Prop
  | [] => True
  | action :: actions =>
    (∀ ticket answer, action = .deliver ticket answer → c.session.Supplies supply ticket answer) ∧
      (c.act action).FedBy supply actions

variable {supply : Supply} {fetcher : Fetcher} {catalog : Catalog} {history : List (Happening σ)} {c : Console σ δ}

theorem stocked_tick (k : c.session.Stocked supply fetcher catalog history) (now : Float) :
    (c.tick now).1.session.Stocked supply fetcher catalog (history ++ c.happenings (.tick now)) := by
  have polled : c.pollLoad.session.Stocked supply fetcher catalog (history ++ c.session.arrival) :=
    k.poll.alike c.pollLoad_alike
  simp only [happenings]
  rw [← List.append_assoc]
  -- Whether a frame is executed or not, nothing more is loaded after the poll.
  rcases c.tick_cases now with ⟨-, outcome, left⟩ | ⟨-, outcome, left⟩
  · have idle : (c.tick now).2 ≠ .executed := by
      rw [outcome]
      split <;> simp
    split
    · exact absurd ‹_› idle
    · exact polled.leave left rfl rfl rfl rfl
  · rw [outcome]
    refine polled.leave left rfl rfl ?_ rfl
    rw [Rig.loads_of_calls (Journal.calls_of_deeds (Rig.deeds_runCycle _))]
    exact List.append_nil _

theorem stocked_event (k : c.session.Stocked supply fetcher catalog history) (event : HostEvent) :
    (c.handle event).1.session.Stocked supply fetcher catalog (history ++ c.happenings (.event event)) := by
  cases event with
  | key edge => exact k.pass rfl (Router.fetches_edge _ edge _) (Router.loads_edge _ edge _) rfl
  | halt => exact k.leave (halt_alike c) rfl rfl rfl rfl
  | resume => exact k.leave (resume_alike c) rfl rfl rfl rfl
  | step =>
    refine k.leave (step_alike c) rfl rfl ?_ rfl
    rw [Rig.loads_of_calls (Journal.calls_of_deeds (Rig.deeds_runOpCode _))]
    exact List.append_nil _
  | nextProgram => exact (k.select _).alike (change_alike c _)
  | prevProgram => exact (k.select _).alike (change_alike c _)
  | toggleDebug => exact k.pass rfl rfl rfl rfl
  | quit => exact k.pass rfl rfl rfl rfl

theorem stocked_act (k : c.session.Stocked supply fetcher catalog history) {action : Action}
    (fed : ∀ ticket answer, action = .deliver ticket answer → c.session.Supplies supply ticket answer) :
    (c.act action).session.Stocked supply fetcher catalog (history ++ c.happenings action) := by
  cases action with
  | boot =>
    simp only [happenings, boot, choose_snd]
    exact (k.select 0).alike (choose_alike c _)
  | tick now => exact stocked_tick k now
  | event event => exact stocked_event k event
  | deliver ticket answer =>
    rw [happenings, List.append_nil]
    exact k.deliver (fed ticket answer rfl)
  | abandon ticket =>
    rw [happenings, List.append_nil]
    exact k.abandon ticket

theorem stocked_run (k : c.session.Stocked supply fetcher catalog history)
    {actions : List Action} (fed : c.FedBy supply actions) :
    (c.run actions).session.Stocked supply fetcher catalog (history ++ c.history actions) := by
  induction actions generalizing history c with
  | nil => simpa [Console.history] using k
  | cons action actions ih =>
    rw [Console.history, ← List.append_assoc]
    exact ih (stocked_act k fed.1) fed.2

theorem fedBy_of_atOnce (k : c.session.Stocked supply fetcher catalog history)
    (answers : ∀ locator, fetcher.atOnce locator ≠ none) (actions : List Action) : c.FedBy supply actions := by
  induction actions generalizing history c with
  | nil => trivial
  | cons action actions ih =>
    have fed (ticket answer) (_ : action = .deliver ticket answer) := k.supplies_of_atOnce answers ticket answer
    exact ⟨fed, ih (stocked_act k fed)⟩

end Console

/-! ## What becomes of an image -/

namespace Session

variable {σ : Type} [Machine σ]

/-- The next poll gives up the load: it shows the failure, and touches neither the machine nor the scheduler nor the
keys. -/
structure GivesUp (s : Session σ) (cause : FetchFault) : Prop where
  answer : s.poll.2 = .failed s.loader.current
  error : s.poll.1.panel.error = some (Failure.fetch s.loader.program.locator cause).message
  machine : s.poll.1.rig.machine = s.rig.machine
  calls : s.poll.1.rig.journal.calls = s.rig.journal.calls
  scheduler : s.poll.1.scheduler = s.scheduler
  router : s.poll.1.router = s.router

/-- Nothing empty was loaded, and the next poll goes by what was read for the load on its way. -/
structure ReadsFiles (root : String) (s : Session σ) : Prop where
  full : [] ∉ s.rig.loads
  answered : ∀ ticket answer, s.loader.pending = some ticket → s.rig.outcome? ticket = some answer →
    Fetcher.readings root s.loader.program.locator answer ∨
      answer = .error (.fetch s.loader.program.locator .abandoned) ∧ s.GivesUp .abandoned
  judged : ∀ ticket tree, s.loader.pending = some ticket →
    s.rig.outcome? ticket = some (Fetcher.readImage tree root s.loader.program.locator) →
      let read := tree.read (FileTree.join root s.loader.program.locator)
      (read = .ok [] → s.GivesUp .emptyImage) ∧
        (∀ fault, read = .error fault → s.GivesUp (.file fault)) ∧
        ∀ bytes, bytes ≠ [] → read = .ok bytes →
          s.poll.2 = .loaded s.loader.current ∧ s.poll.1.rig.loads = s.rig.loads ++ [bytes]

theorem givesUp_of_outcome {s : Session σ} {ticket : Nat} {cause : FetchFault} (pending : s.loader.pending = some ticket)
    (outcome : s.rig.outcome? ticket = some (.error (.fetch s.loader.program.locator cause))) : s.GivesUp cause := by
  constructor
  all_goals rw [poll_of_error pending outcome]
  · rfl
  · rfl
  · exact calls_fail _ _
  · rfl
  · rfl

theorem poll_of_outcome {s : Session σ} {ticket : Nat} {bytes : List UInt8} (pending : s.loader.pending = some ticket)
    (outcome : s.rig.outcome? ticket = some (.ok bytes)) :
    s.poll.2 = .loaded s.loader.current ∧ s.poll.1.rig.loads = s.rig.loads ++ [bytes] := by
  rw [poll_of_ok pending outcome, Rig.loads_of_calls (calls_finish _ _ _)]
  exact ⟨rfl, rfl⟩

theorem Stocked.readsFiles {root : String} {fetcher : Fetcher} {catalog : Catalog} {history : List (Happening σ)}
    {s : Session σ} (k : Stocked (Fetcher.readings root) fetcher catalog history s) : s.ReadsFiles root where
  full := by
    have full : List.Forall₂ (fun bytes (_ : Nat) => bytes ≠ [] ∧ True) s.rig.loads (history.filterMap loaded?) := by
      refine (k.loads.imp ?_).flip
      rintro _ bytes ⟨program, -, tree, read⟩
      exact ⟨fun empty => Fetcher.readImage_ne_empty tree root program.locator (empty ▸ read.symm), trivial⟩
    exact fun empty => ((List.forall₂_and_left _ _).mp full).1 [] empty rfl
  answered := by
    intro ticket answer pending outcome
    rcases k.supplied pending outcome with reading | rfl
    · exact .inl reading
    · exact .inr ⟨rfl, givesUp_of_outcome pending outcome⟩
  judged := by
    intro ticket tree pending outcome read
    simp only [Fetcher.readImage] at outcome
    refine ⟨?_, ?_, ?_⟩
    · intro empty
      exact givesUp_of_outcome pending (by simpa only [read, empty] using outcome)
    · intro fault failed
      exact givesUp_of_outcome pending (by simpa only [read, failed] using outcome)
    · intro bytes full done
      exact poll_of_outcome pending (by simpa only [read, done, full] using outcome)

end Session

namespace Fetcher

/-- The image at hand for the program at a place of the catalog. -/
def imageAt (images : List (String × List UInt8)) (catalog : Catalog) (index : Nat) : Option (List UInt8) :=
  (catalog.get? index).bind fun program => images.reverse.lookup program.locator

end Fetcher

theorem filterMap_eq_of_forall₂ {α β : Type} {f : α → Option β} {xs : List α} {ys : List β}
    (found : List.Forall₂ (fun x y => f x = some y) xs ys) : xs.filterMap f = ys := by
  induction found with
  | nil => rfl
  | cons first _ ih => rw [List.filterMap_cons_some first, ih]

theorem Happening.mem_filterMap_loaded? {σ : Type} {history : List (Happening σ)} {index : Nat} :
    index ∈ history.filterMap loaded? ↔ .loaded index ∈ history := by
  rw [List.mem_filterMap]
  constructor
  · rintro ⟨happening, among, loaded⟩
    cases happening with
    | loaded place =>
      obtain rfl : place = index := Option.some.inj loaded
      exact among
    | sent _ | failed _ _ | edge _ | halted | resumed | ran _ | stepped _ => cases loaded
  · intro among
    exact ⟨.loaded index, among, rfl⟩

/-- Over images at hand, what is loaded are the images of the programs that are loaded. -/
theorem Session.Stocked.mem_loads_iff {σ : Type} {images : List (String × List UInt8)} {fetcher : Fetcher}
    {catalog : Catalog} {history : List (Happening σ)} {s : Session σ}
    (k : Stocked (Fetcher.memory images).offers fetcher catalog history s) {bytes : List UInt8} :
    bytes ∈ s.rig.loads ↔ ∃ index, .loaded index ∈ history ∧ Fetcher.imageAt images catalog index = some bytes := by
  have loads : (history.filterMap loaded?).filterMap (Fetcher.imageAt images catalog) = s.rig.loads := by
    refine filterMap_eq_of_forall₂ (k.loads.imp ?_)
    rintro index bytes ⟨program, listed, answered⟩
    simp only [Fetcher.offers, Fetcher.memory] at answered
    split at answered
    · rename_i image found
      obtain rfl : image = bytes := by simpa using answered
      simp [Fetcher.imageAt, listed, found]
    · simp at answered
  rw [← loads, List.mem_filterMap]
  simp only [Happening.mem_filterMap_loaded?]

/-- Over images at hand, an empty image is loaded with every program that has one.  Over a folder none ever is: the
load of a program whose file is empty is given up, as if the file could not be read. -/
theorem empty_image_loaded_iff {σ δ : Type} [Machine σ] [Beeper δ] (machine : σ) (frameRate : Float) (catalog : Catalog)
    (screen : Screen) (tone : ToneGate δ) :
    (∀ images,
      let s := Session.new machine frameRate (.memory images) catalog
      let c : Console σ δ := { session := s, screen, tone }
      (∀ actions, [] ∈ (c.run actions).session.rig.loads ↔
        ∃ index, Happening.loaded index ∈ c.history actions ∧ Fetcher.imageAt images catalog index = some []) ∧
      ∀ events, [] ∈ (s.takeAll events).1.rig.loads ↔
        ∃ index, Happening.loaded index ∈ s.history events ∧ Fetcher.imageAt images catalog index = some []) ∧
    ∀ tree root,
      let s := Session.new machine frameRate (.folder tree root) catalog
      let c : Console σ δ := { session := s, screen, tone }
      (∀ actions, c.FedBy (Fetcher.readings root) actions → (c.run actions).session.ReadsFiles root) ∧
      ∀ events, s.FedBy (Fetcher.readings root) events → (s.takeAll events).1.ReadsFiles root := by
  constructor
  · intro images s c
    have start : Session.Stocked (Fetcher.memory images).offers (.memory images) catalog [] s :=
      .new machine frameRate catalog fun _ _ offered => offered
    have answers (locator) : (Fetcher.memory images).atOnce locator ≠ none := nofun
    exact ⟨fun actions => (Console.stocked_run start (c.fedBy_of_atOnce start answers actions)).mem_loads_iff,
      fun events => (start.takeAll (start.fedBy_of_atOnce answers events)).mem_loads_iff⟩
  · intro tree root s c
    have start : Session.Stocked (Fetcher.readings root) (.folder tree root) catalog [] s :=
      .new machine frameRate catalog nofun
    exact ⟨fun _ fed => (Console.stocked_run start fed).readsFiles, fun _ fed => (start.takeAll fed).readsFiles⟩

/-- The image of the first program is at hand and empty: it is put into the machine, which starts to run, with the
keys of the program. -/
theorem empty_image_loaded_from_memory :
    let c : Console Puppet Unit :=
      { session := .new {} 60 (.memory [("UFO.ch8", [])]) .builtin
        screen := .new { resolution := {}, foreground := ⟨255, 255, 255⟩ }
        tone := .muted }
    let s := (c.run [.boot, .tick 0]).session
    s.rig.loads = [[]] ∧ s.scheduler.running = true ∧ s.router.table.map (·.1) = [⟨81⟩, ⟨87⟩, ⟨69⟩] ∧
      s.panel.error = none := by
  decide +kernel

/-- The file of the first program is empty, and its load is given up. -/
theorem empty_image_refused_in_folder :
    let tree : FileTree := { top := "/home", files := [(["games", "UFO.ch8"], [])], folders := [] }
    let c : Console Puppet Unit :=
      { session := .new {} 60 (.folder tree "games") .builtin
        screen := .new { resolution := {}, foreground := ⟨255, 255, 255⟩ }
        tone := .muted }
    let actions : List Action := [.boot, .deliver 0 (Fetcher.readImage tree "games" "UFO.ch8")]
    let s := (c.run actions).session
    c.FedBy (Fetcher.readings "games") actions ∧ s.GivesUp .emptyImage := by
  intro tree c actions s
  have fed : c.FedBy (Fetcher.readings "games") actions := by
    refine ⟨nofun, ?_, trivial⟩
    rintro ticket answer ⟨⟩ fetch there -
    have named : fetch.locator = "UFO.ch8" := by
      obtain rfl := Option.some.inj there
      rfl
    rw [named]
    exact ⟨tree, rfl⟩
  have reads : s.ReadsFiles "games" :=
    ((empty_image_loaded_iff _ 60 .builtin _ _).2 tree "games").1 actions fed
  have empty : (tree.read (FileTree.join "games" "UFO.ch8")).toOption = some [] := by decide +kernel
  refine ⟨fed, (reads.judged 0 tree rfl rfl).1 ?_⟩
  change tree.read (FileTree.join "games" "UFO.ch8") = .ok []
  generalize tree.read (FileTree.join "games" "UFO.ch8") = read at empty ⊢
  cases read with
  | ok bytes => exact congrArg Except.ok (Option.some.inj empty)
  | error fault => cases empty

end Chip8Console
