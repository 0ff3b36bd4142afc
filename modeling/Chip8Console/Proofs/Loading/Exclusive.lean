import Chip8Console.Proofs.Loading.Run

/-! # One load at a time

However requests, polls and answers follow one another, what a session does is a series of loads, each
of which is over before the next one starts (`loads_exclusive`).  Every load has a fetch of its own, and
ends with what that fetch has come to.

The invariant is `Orderly`.  It ties the loader to the last load (`Underway`), and the fetch of each load
to the deliveries in the history (`Mailbox`).
-/

namespace Chip8Console

variable {σ : Type}

/-! ## What can become of a delivery -/

namespace Rig

theorem deliver_cases (rig : Rig σ) (ticket : Nat) (answer : Fetched) :
    ((rig.deliver ticket answer).1 = rig ∧ (rig.deliver ticket answer).2 ≠ .accepted) ∨
      ∃ fetch, rig.fetches[ticket]? = some fetch ∧ fetch.abandoned = false ∧ fetch.closed = false ∧
        fetch.answer = none ∧
        rig.deliver ticket answer =
          ({ rig with fetches := rig.fetches.setIfInBounds ticket { fetch with answer := some answer } },
            .accepted) := by
  unfold deliver
  cases found : rig.fetches[ticket]? with
  | none => simp
  | some fetch =>
    by_cases gone : fetch.abandoned
    · simp [gone]
    by_cases full : fetch.closed || fetch.answer.isSome
    · simp [gone, full]
    right
    refine ⟨fetch, rfl, by simpa using gone, ?_⟩
    simp only [Bool.or_eq_true, not_or, Bool.not_eq_true, Option.isSome_eq_false_iff,
      Option.isNone_iff_eq_none] at full
    simp [gone, full]

theorem abandon_cases (rig : Rig σ) (ticket : Nat) :
    ((rig.abandon ticket).1 = rig ∧ (rig.abandon ticket).2 ≠ .accepted) ∨
      ∃ fetch, rig.fetches[ticket]? = some fetch ∧
        rig.abandon ticket =
          ({ rig with fetches := rig.fetches.setIfInBounds ticket { fetch with abandoned := true } },
            .accepted) := by
  unfold abandon
  cases found : rig.fetches[ticket]? with
  | none => simp
  | some fetch => by_cases gone : fetch.abandoned <;> simp [gone]

end Rig

/-! ## The fetch of a load -/

/-- A fetch is as the history of its deliveries has it. -/
structure Mailbox (fetcher : Fetcher) (history : LoadHistory σ) (ticket : Nat) (l : Load)
    (fetch : Fetch) : Prop where
  locator : fetch.locator = l.program.locator
  abandoned : fetch.abandoned = history.hungUp ticket
  once : (history.results fetcher ticket l.program.locator).length ≤ 1
  waiting : l.outcome = none →
    fetch.closed = false ∧ fetch.answer.toList = history.results fetcher ticket l.program.locator
  taken : ∀ answer, l.outcome = some answer →
    fetch.closed = true ∧ history.outcome? fetcher ticket l.program.locator = some answer

namespace Mailbox

variable {fetcher : Fetcher} {history later : LoadHistory σ} {ticket : Nat} {l : Load} {fetch : Fetch}

/-- What happens to other fetches does not matter. -/
theorem congr (m : Mailbox fetcher history ticket l fetch)
    (delivered : later.deliveries ticket = history.deliveries ticket)
    (left : later.hungUp ticket = history.hungUp ticket) : Mailbox fetcher later ticket l fetch := by
  have results : later.results fetcher ticket l.program.locator =
      history.results fetcher ticket l.program.locator := by
    simp only [LoadHistory.results, delivered]
  have outcome : later.outcome? fetcher ticket l.program.locator =
      history.outcome? fetcher ticket l.program.locator := by
    simp only [LoadHistory.outcome?, results, left]
  exact ⟨m.locator, by rw [m.abandoned, left], by rw [results]; exact m.once,
    fun open_ => by rw [results]; exact m.waiting open_,
    fun answer settled => by rw [outcome]; exact m.taken answer settled⟩

theorem skip (m : Mailbox fetcher history ticket l fetch) (event : LoadEvent σ) {answer : LoadAnswer}
    (ignored : answer ≠ .delivery .accepted) :
    Mailbox fetcher (history ++ [(event, answer)]) ticket l fetch :=
  m.congr (LoadHistory.deliveries_of_not_accepted history event ignored ticket)
    (LoadHistory.hungUp_of_not_accepted history event ignored ticket)

/-- A fetch that has just been started has at most the result that is there at once. -/
theorem start (index : Nat) (program : Program) (undelivered : history.deliveries ticket = [])
    (present : history.hungUp ticket = false) :
    Mailbox fetcher history ticket ⟨index, program, none⟩
      { locator := program.locator, answer := fetcher.atOnce program.locator } := by
  have results : history.results fetcher ticket program.locator =
      (fetcher.atOnce program.locator).toList := by
    rw [LoadHistory.results, undelivered, List.append_nil]
  refine ⟨rfl, present.symm, ?_, fun _ => ⟨rfl, results.symm⟩, by simp⟩
  rw [results]
  cases fetcher.atOnce program.locator <;> simp

/-- While a load is under way, the console sees what its fetch has come to. -/
theorem outcome? (m : Mailbox fetcher history ticket l fetch) (unanswered : l.outcome = none)
    {rig : Rig σ} (found : rig.fetches[ticket]? = some fetch) :
    rig.outcome? ticket = history.outcome? fetcher ticket l.program.locator := by
  have results := (m.waiting unanswered).2
  cases present : fetch.answer with
  | none =>
    rw [present, Option.toList_none] at results
    simp only [Rig.outcome?, found, present, LoadHistory.outcome?, ← results, m.locator, m.abandoned]
  | some answer =>
    rw [present, Option.toList_some] at results
    simp only [Rig.outcome?, found, present, LoadHistory.outcome?, ← results]

theorem receive (m : Mailbox fetcher history ticket l fetch) (answer : Fetched)
    (opened : fetch.closed = false) (empty : fetch.answer = none) :
    Mailbox fetcher (history ++ [(.deliver ticket answer, .delivery .accepted)]) ticket l
      { fetch with answer := some answer } := by
  cases settled : l.outcome with
  | some taken => exact absurd (m.taken taken settled).1 (by simp [opened])
  | none =>
    have before := (m.waiting settled).2
    rw [empty, Option.toList_none] at before
    have results : LoadHistory.results (history ++ [(.deliver ticket answer, .delivery .accepted)])
        fetcher ticket l.program.locator = [answer] := by
      rw [LoadHistory.results, LoadHistory.deliveries_deliver, if_pos rfl, ← List.append_assoc]
      exact congrArg (· ++ [answer]) before.symm
    refine ⟨m.locator, ?_, by simp [results], fun _ => ⟨opened, by simp [results]⟩, by simp [settled]⟩
    rw [LoadHistory.hungUp_deliver]
    exact m.abandoned

theorem hangUp (m : Mailbox fetcher history ticket l fetch) :
    Mailbox fetcher (history ++ [(.abandon ticket, .delivery .accepted)]) ticket l
      { fetch with abandoned := true } := by
  have results : LoadHistory.results (history ++ [(.abandon ticket, .delivery .accepted)]) fetcher
      ticket l.program.locator = history.results fetcher ticket l.program.locator := by
    simp only [LoadHistory.results, LoadHistory.deliveries_abandon]
  refine ⟨m.locator, by simp [LoadHistory.hungUp_abandon], by rw [results]; exact m.once,
    fun open_ => by rw [results]; exact m.waiting open_, fun answer settled => ?_⟩
  obtain ⟨closed, taken⟩ := m.taken answer settled
  refine ⟨closed, ?_⟩
  -- A result stays what the fetch has come to; without one, the fetch was abandoned before.
  simp only [LoadHistory.outcome?, results, LoadHistory.hungUp_abandon, beq_self_eq_true,
    Bool.or_true, if_true] at taken ⊢
  split at taken
  · exact taken
  · split at taken
    · exact taken
    · exact absurd taken (by simp)

theorem take (m : Mailbox fetcher history ticket l fetch) {answer : Fetched}
    (outcome : history.outcome? fetcher ticket l.program.locator = some answer) :
    Mailbox fetcher history ticket { l with outcome := some answer }
      { fetch with answer := none, closed := true } := by
  refine ⟨m.locator, m.abandoned, m.once, by simp, fun taken same => ⟨rfl, ?_⟩⟩
  obtain rfl := Option.some.inj same
  exact outcome

end Mailbox

/-! ## The loader and its last load -/

/-- A load of the series is one of those before the last, or the last. -/
theorem Load.find_concat {done : List Load} {last l : Load} {ticket : Nat}
    (found : (done ++ [last])[ticket]? = some l) :
    done[ticket]? = some l ∧ ticket < done.length ∨ ticket = done.length ∧ l = last := by
  rcases Nat.lt_trichotomy ticket done.length with before | here | beyond
  · rw [List.getElem?_append_left before] at found
    exact .inl ⟨found, before⟩
  · rw [here, List.getElem?_concat_length] at found
    exact .inr ⟨here, (Option.some.inj found).symm⟩
  · rw [List.getElem?_eq_none (by simp; omega)] at found
    cases found

inductive Underway (loader : Loader) : List Load → Prop where
  | idle {loads : List Load} (state : loader.state = .idle) (pending : loader.pending = none)
      (settled : ∀ l ∈ loads, l.outcome.isSome) : Underway loader loads
  | loading {done : List Load} {l : Load} (state : loader.state = .loading)
      (pending : loader.pending = some done.length) (current : loader.current = l.index)
      (settled : ∀ l ∈ done, l.outcome.isSome) (unanswered : l.outcome = none) :
      Underway loader (done ++ [l])

namespace Underway

variable {loader : Loader} {loads : List Load}

theorem one (u : Underway loader loads) : ∀ l ∈ loads.dropLast, l.outcome.isSome := by
  cases u with
  | idle _ _ settled => exact fun l among => settled l (List.dropLast_subset _ among)
  | loading _ _ _ settled _ =>
    rw [List.dropLast_concat]
    exact settled

theorem isLoading_eq (u : Underway loader loads) :
    loader.isLoading = loads.any (·.outcome.isNone) := by
  cases u with
  | idle state _ settled =>
    rw [Loader.isLoading, state, decide_eq_false (by decide), eq_comm, List.any_eq_false]
    intro l among
    simpa using Option.isSome_iff_ne_none.mp (settled l among)
  | @loading done l state _ _ _ unanswered => simp [Loader.isLoading, state, unanswered]

theorem pending_of_unanswered (u : Underway loader loads) {ticket : Nat} {l : Load}
    (found : loads[ticket]? = some l) (unanswered : l.outcome = none) :
    loader.pending = some ticket ∧ loader.current = l.index := by
  -- Only the last load can be unanswered, and its place among the loads is its ticket.
  cases u with
  | idle _ _ settled =>
    have ended := settled l (List.mem_of_getElem? found)
    simp [unanswered] at ended
  | @loading done last _ pending current settled _ =>
    rcases Load.find_concat found with ⟨before, -⟩ | ⟨rfl, rfl⟩
    · have ended := settled l (List.mem_of_getElem? before)
      simp [unanswered] at ended
    · exact ⟨pending, current⟩

end Underway

/-! ## The invariant -/

/-- A run has come to `s` through these loads. -/
structure Orderly (fetcher : Fetcher) (catalog : Catalog) (s : Session σ) (history : LoadHistory σ)
    (loads : List Load) : Prop where
  fetcher_eq : s.loader.fetcher = fetcher
  catalog_eq : s.loader.catalog = catalog
  programs : ∀ l ∈ loads, catalog.get? l.index = some l.program
  underway : Underway s.loader loads
  milestones : history.milestones = loads.flatMap Load.milestones
  deeds : s.rig.journal.deeds = loads.flatMap Load.deeds
  size : s.rig.fetches.size = loads.length
  mailbox : ∀ ticket l, loads[ticket]? = some l →
    ∃ fetch, s.rig.fetches[ticket]? = some fetch ∧ Mailbox fetcher history ticket l fetch
  unsent : history.Unsent loads.length

namespace Orderly

variable {fetcher : Fetcher} {catalog : Catalog} {s later : Session σ} {history : LoadHistory σ}
  {loads : List Load}

/-- Nothing is to be done where neither a load nor a fetch is concerned. -/
theorem pass (o : Orderly fetcher catalog s history loads) (event : LoadEvent σ) {answer : LoadAnswer}
    (ignored : answer ≠ .delivery .accepted) (passing : answer.milestone? = none)
    (loader : later.loader = s.loader) (fetches : later.rig.fetches = s.rig.fetches)
    (deeds : later.rig.journal.deeds = s.rig.journal.deeds) :
    Orderly fetcher catalog later (history ++ [(event, answer)]) loads where
  fetcher_eq := by rw [loader, o.fetcher_eq]
  catalog_eq := by rw [loader, o.catalog_eq]
  programs := o.programs
  underway := by rw [loader]; exact o.underway
  milestones := by rw [LoadHistory.milestones_concat, passing, o.milestones]; simp
  deeds := by rw [deeds, o.deeds]
  size := by rw [fetches, o.size]
  mailbox ticket l found := by
    obtain ⟨fetch, present, m⟩ := o.mailbox ticket l found
    exact ⟨fetch, by rw [fetches, present], m.skip event ignored⟩
  unsent := o.unsent.skip event ignored

/-- An accepted delivery changes the fetch that it is for, and no other. -/
theorem accept (o : Orderly fetcher catalog s history loads) (event : LoadEvent σ) {ticket : Nat}
    {fetch changed : Fetch} (there : s.rig.fetches[ticket]? = some fetch)
    (elsewhere : ∀ other, ticket ≠ other →
      LoadHistory.deliveries (history ++ [(event, .delivery .accepted)]) other =
          history.deliveries other ∧
        LoadHistory.hungUp (history ++ [(event, .delivery .accepted)]) other = history.hungUp other)
    (here : ∀ l, Mailbox fetcher history ticket l fetch →
      Mailbox fetcher (history ++ [(event, .delivery .accepted)]) ticket l changed) :
    Orderly fetcher catalog
      { s with rig := { s.rig with fetches := s.rig.fetches.setIfInBounds ticket changed } }
      (history ++ [(event, .delivery .accepted)]) loads := by
  -- Only fetches that have been started accept anything, so the later ones stay untouched.
  have inside : ticket < s.rig.fetches.size := (Array.getElem?_eq_some_iff.mp there).1
  refine ⟨o.fetcher_eq, o.catalog_eq, o.programs, o.underway, ?_, o.deeds, ?_, ?_, ?_⟩
  · rw [LoadHistory.milestones_concat, o.milestones]
    exact List.append_nil _
  · rw [Array.size_setIfInBounds, o.size]
  · intro other l found
    obtain ⟨present, there', m⟩ := o.mailbox other l found
    by_cases same : ticket = other
    · subst same
      obtain rfl := Option.some.inj (there.symm.trans there')
      exact ⟨changed, Array.getElem?_setIfInBounds_self_of_lt inside, here l m⟩
    · obtain ⟨delivered, left⟩ := elsewhere other same
      exact ⟨present, by rw [Array.getElem?_setIfInBounds_ne same, there'], m.congr delivered left⟩
  · intro other beyond
    obtain ⟨delivered, left⟩ := elsewhere other (by rw [o.size] at inside; omega)
    rw [delivered, left]
    exact o.unsent other beyond

theorem deliver (o : Orderly fetcher catalog s history loads) (ticket : Nat) (answer : Fetched) :
    Orderly fetcher catalog (s.deliver ticket answer).1
      (history ++ [(.deliver ticket answer, .delivery (s.deliver ticket answer).2)]) loads := by
  rcases s.rig.deliver_cases ticket answer with ⟨same, rejected⟩ | ⟨fetch, there, -, opened, empty, after⟩
  · have ignored : LoadAnswer.delivery (s.deliver ticket answer).2 ≠ .delivery .accepted :=
      fun accepted => rejected (LoadAnswer.delivery.inj accepted)
    exact o.pass _ ignored rfl rfl (congrArg Rig.fetches same) (congrArg (·.journal.deeds) same)
  · simp only [Session.deliver, after]
    refine o.accept _ there (fun other different => ⟨?_, LoadHistory.hungUp_deliver _ _ _ _⟩)
      fun l m => m.receive answer opened empty
    rw [LoadHistory.deliveries_deliver, if_neg different, List.append_nil]

theorem abandon (o : Orderly fetcher catalog s history loads) (ticket : Nat) :
    Orderly fetcher catalog (s.abandon ticket).1
      (history ++ [(.abandon ticket, .delivery (s.abandon ticket).2)]) loads := by
  rcases s.rig.abandon_cases ticket with ⟨same, rejected⟩ | ⟨fetch, there, after⟩
  · have ignored : LoadAnswer.delivery (s.abandon ticket).2 ≠ .delivery .accepted :=
      fun accepted => rejected (LoadAnswer.delivery.inj accepted)
    exact o.pass _ ignored rfl rfl (congrArg Rig.fetches same) (congrArg (·.journal.deeds) same)
  · simp only [Session.abandon, after]
    refine o.accept _ there (fun other different => ⟨LoadHistory.deliveries_abandon _ _ _, ?_⟩)
      fun l m => m.hangUp
    rw [LoadHistory.hungUp_abandon, beq_false_of_ne different, Bool.or_false]

theorem start (machine : σ) (frameRate : Float) (fetcher : Fetcher) (catalog : Catalog) :
    Orderly fetcher catalog (.new machine frameRate fetcher catalog) [] [] where
  fetcher_eq := rfl
  catalog_eq := rfl
  programs := by simp
  underway := .idle rfl rfl (by simp)
  milestones := rfl
  deeds := rfl
  size := rfl
  mailbox := by simp
  unsent _ _ := ⟨rfl, rfl⟩

/-- The last load ends with what its fetch has come to. -/
theorem finish {done : List Load} {l : Load} (o : Orderly fetcher catalog s history (done ++ [l]))
    (unanswered : l.outcome = none) {answer : Fetched}
    (outcome : s.rig.outcome? done.length = some answer)
    (loader : later.loader = { s.loader with state := .idle, pending := none })
    (fetches : later.rig.fetches = (s.rig.closeFetch done.length).fetches)
    (deeds : later.rig.journal.deeds = s.rig.journal.deeds ++ answer.deeds) :
    Orderly fetcher catalog later (history ++ [(.poll, .completion (answer.completion l.index))])
      (done ++ [{ l with outcome := some answer }]) := by
  have ignored : LoadAnswer.completion (answer.completion l.index) ≠ .delivery .accepted := nofun
  have last : (done ++ [l])[done.length]? = some l := List.getElem?_concat_length
  obtain ⟨fetch, there, m⟩ := o.mailbox done.length l last
  have settled := o.underway.one
  rw [List.dropLast_concat] at settled
  refine ⟨by rw [loader]; exact o.fetcher_eq, by rw [loader]; exact o.catalog_eq, ?_, ?_, ?_, ?_, ?_,
    ?_, ?_⟩
  · obtain ⟨earlier, listed⟩ := List.forall_mem_append.mp o.programs
    have same := List.forall_mem_singleton.mp listed
    exact List.forall_mem_append.mpr ⟨earlier, List.forall_mem_singleton.mpr same⟩
  · exact .idle (by rw [loader]) (by rw [loader])
      (List.forall_mem_append.mpr ⟨settled, List.forall_mem_singleton.mpr rfl⟩)
  · rw [LoadHistory.milestones_concat, o.milestones, List.flatMap_append, List.flatMap_append,
      List.append_assoc]
    congr 1
    cases answer <;> simp [Load.milestones, unanswered, Fetched.completion, LoadAnswer.milestone?]
  · rw [deeds, o.deeds, List.flatMap_append, List.flatMap_append, List.append_assoc]
    congr 1
    simp [Load.deeds, unanswered]
  · rw [fetches, Rig.closeFetch, Array.size_modify, o.size, List.length_append, List.length_append]
    rfl
  · -- Of the fetches only that of the last load is closed.
    intro ticket l' found
    simp only [fetches, Rig.closeFetch, Array.getElem?_modify]
    rcases Load.find_concat found with ⟨before, earlier⟩ | ⟨rfl, rfl⟩
    · obtain ⟨fetch', there', m'⟩ := o.mailbox ticket l' (by rw [List.getElem?_append_left earlier, before])
      rw [if_neg (Nat.ne_of_gt earlier)]
      exact ⟨fetch', there', m'.skip _ ignored⟩
    · rw [if_pos rfl, there]
      rw [m.outcome? unanswered there] at outcome
      exact ⟨_, rfl, (m.take outcome).skip _ ignored⟩
  · have unsent := o.unsent.skip (.poll : LoadEvent σ) ignored
    rw [List.length_append, List.length_singleton] at unsent ⊢
    exact unsent

variable [Machine σ]

theorem send (o : Orderly fetcher catalog s history loads) (event : LoadEvent σ) {index : Nat}
    {program : Program} (listed : catalog.get? index = some program)
    (settled : ∀ l ∈ loads, l.outcome.isSome) :
    Orderly fetcher catalog (s.send index program)
      (history ++ [(event, .selection (.ok (.loading index)))]) (loads ++ [⟨index, program, none⟩]) := by
  have ignored : LoadAnswer.selection (.ok (.loading index)) ≠ .delivery .accepted := nofun
  have fetches : (s.send index program).rig.fetches =
      s.rig.fetches.push { locator := program.locator, answer := fetcher.atOnce program.locator } := by
    rw [← o.fetcher_eq]
    rfl
  refine ⟨o.fetcher_eq, o.catalog_eq, ?_, ?_, ?_, ?_, ?_, ?_, ?_⟩
  · exact List.forall_mem_append.mpr ⟨o.programs, List.forall_mem_singleton.mpr listed⟩
  · exact .loading rfl (congrArg some o.size) rfl settled rfl
  · rw [LoadHistory.milestones_concat, o.milestones, List.flatMap_append]
    rfl
  · rw [Session.deeds_send, o.deeds, List.flatMap_append]
    rfl
  · rw [fetches, Array.size_push, o.size, List.length_append, List.length_singleton]
  · -- The loads before keep their fetches, and the new one has the fetch that was just started.
    intro ticket l found
    rcases Load.find_concat found with ⟨before, earlier⟩ | ⟨rfl, rfl⟩
    · obtain ⟨fetch, there, m⟩ := o.mailbox ticket l before
      refine ⟨fetch, ?_, m.skip event ignored⟩
      rw [fetches, Array.getElem?_push_lt (by rw [o.size]; exact earlier)]
      exact (Array.getElem?_eq_getElem _).symm.trans there
    · obtain ⟨undelivered, present⟩ := o.unsent loads.length (Nat.le_refl _)
      exact ⟨_, by rw [fetches, ← o.size, Array.getElem?_push_size],
        (Mailbox.start index program undelivered present).skip event ignored⟩
  · rw [List.length_append]
    exact (o.unsent.skip event ignored).mono (Nat.le_add_right _ _)

theorem select (o : Orderly fetcher catalog s history loads) (event : LoadEvent σ) (index : Nat) :
    ∃ grown, Orderly fetcher catalog (s.select index).1
      (history ++ [(event, .selection (s.select index).2)]) grown := by
  have idle := o.underway.isLoading_eq
  unfold Session.select
  split
  · exact ⟨loads, o.pass event nofun rfl rfl rfl (Rig.deeds_note _ _)⟩
  · rename_i open_
    rw [o.catalog_eq]
    cases listed : catalog.get? index with
    | none => exact ⟨loads, o.pass event nofun rfl rfl rfl rfl⟩
    | some program =>
      refine ⟨_, o.send event listed fun l among => ?_⟩
      rw [idle, Bool.not_eq_true, List.any_eq_false] at open_
      simpa [Option.isSome_iff_ne_none] using open_ l among

theorem poll (o : Orderly fetcher catalog s history loads) :
    ∃ grown, Orderly fetcher catalog s.poll.1 (history ++ [(.poll, .completion s.poll.2)]) grown := by
  unfold Session.poll
  split
  · exact ⟨loads, o.pass _ nofun rfl rfl rfl rfl⟩
  · rename_i ticket pending
    -- The pending fetch is that of the last load.
    cases underway : o.underway with
    | idle _ none _ => simp [none] at pending
    | @loading done l _ ticket_eq current _ unanswered =>
      obtain rfl := Option.some.inj (ticket_eq.symm.trans pending)
      rw [current]
      cases outcome : s.rig.outcome? done.length with
      | none => exact ⟨_, o.pass _ nofun rfl rfl rfl rfl⟩
      | some answer =>
        cases answer with
        | ok bytes =>
          exact ⟨_, o.finish unanswered outcome rfl (Session.fetches_finish _ _ _)
            (Session.deeds_finish _ _ _)⟩
        | error failure =>
          refine ⟨_, o.finish unanswered outcome rfl rfl ?_⟩
          rw [Session.deeds_fail, Session.deeds_close]
          exact (List.append_nil _).symm

theorem take (o : Orderly fetcher catalog s history loads) (event : LoadEvent σ) :
    ∃ grown, Orderly fetcher catalog (s.take event).1 (history ++ [(event, (s.take event).2)]) grown := by
  cases event with
  | select index => exact o.select _ index
  | selectNext => exact o.select _ _
  | selectPrev => exact o.select _ _
  | poll => exact o.poll
  | deliver ticket answer => exact ⟨loads, o.deliver ticket answer⟩
  | abandon ticket => exact ⟨loads, o.abandon ticket⟩
  | lend machine scheduler router panel => exact ⟨loads, o.pass _ nofun rfl rfl rfl rfl⟩

theorem run (machine : σ) (frameRate : Float) (fetcher : Fetcher) (catalog : Catalog)
    (events : List (LoadEvent σ)) :
    ∃ loads, Orderly fetcher catalog ((Session.new machine frameRate fetcher catalog).takeAll events).1
      ((Session.new machine frameRate fetcher catalog).takeAll events).2 loads := by
  induction events using List.reverseRecOn with
  | nil => exact ⟨[], start machine frameRate fetcher catalog⟩
  | append_singleton events event ih =>
    obtain ⟨loads, o⟩ := ih
    rw [Session.takeAll_concat]
    exact o.take event

end Orderly

/-! ## The series of loads -/

variable [Machine σ]

/-- All that a run has answered and done is a series of loads. -/
structure ExclusiveLoads (fetcher : Fetcher) (catalog : Catalog) (s : Session σ)
    (history : LoadHistory σ) (loads : List Load) : Prop where
  programs : ∀ l ∈ loads, catalog.get? l.index = some l.program
  one_underway : ∀ l ∈ loads.dropLast, l.outcome.isSome
  milestones : history.milestones = loads.flatMap Load.milestones
  deeds : s.rig.journal.deeds = loads.flatMap Load.deeds
  /-- A fetch has one result at most. -/
  one_result : ∀ ticket l, loads[ticket]? = some l →
    (history.results fetcher ticket l.program.locator).length ≤ 1
  /-- A load that is over has ended with what its own fetch has come to. -/
  own_outcome : ∀ ticket l answer, loads[ticket]? = some l → l.outcome = some answer →
    history.outcome? fetcher ticket l.program.locator = some answer
  /-- The load under way ends with the next poll if its fetch has come to anything. -/
  next_poll : ∀ ticket l, loads[ticket]? = some l → l.outcome = none →
    s.poll.2 = (history.outcome? fetcher ticket l.program.locator).elim .nothing (·.completion l.index)
  idle_poll : (∀ l ∈ loads, l.outcome.isSome) → s.poll = (s, .nothing)
  /-- Another load starts only when there is none under way. -/
  next_select : ∀ index, (s.select index).2 =
    if loads.any (·.outcome.isNone) then .ok .dropped
    else match catalog.get? index with
      | none => .error (.noSuchProgram index)
      | some _ => .ok (.loading index)

namespace Orderly

variable {fetcher : Fetcher} {catalog : Catalog} {s : Session σ} {history : LoadHistory σ}
  {loads : List Load}

theorem poll_of_unanswered (o : Orderly fetcher catalog s history loads) {ticket : Nat} {l : Load}
    (found : loads[ticket]? = some l) (unanswered : l.outcome = none) :
    s.poll.2 = (history.outcome? fetcher ticket l.program.locator).elim .nothing (·.completion l.index) := by
  obtain ⟨pending, current⟩ := o.underway.pending_of_unanswered found unanswered
  obtain ⟨fetch, there, m⟩ := o.mailbox ticket l found
  simp only [Session.poll, pending, m.outcome? unanswered there, current]
  cases history.outcome? fetcher ticket l.program.locator with
  | none => rfl
  | some answer => cases answer <;> rfl

theorem poll_of_settled (o : Orderly fetcher catalog s history loads)
    (settled : ∀ l ∈ loads, l.outcome.isSome) : s.poll = (s, .nothing) := by
  cases underway : o.underway with
  | idle _ pending _ => simp only [Session.poll, pending]
  | @loading done l _ _ _ _ unanswered =>
    have ended := settled l List.mem_concat_self
    simp [unanswered] at ended

theorem select_answer (o : Orderly fetcher catalog s history loads) (index : Nat) :
    (s.select index).2 =
      if loads.any (·.outcome.isNone) then .ok .dropped
      else match catalog.get? index with
        | none => .error (.noSuchProgram index)
        | some _ => .ok (.loading index) := by
  rw [Session.select, o.underway.isLoading_eq, o.catalog_eq]
  split
  · rfl
  · cases catalog.get? index <;> rfl

end Orderly

/-- Every run is a series of loads.  From any point of it on, until the machine is next lent to others, the machine goes
through the calls of these loads and through nothing else. -/
theorem loads_exclusive (machine : σ) (frameRate : Float) (fetcher : Fetcher)
    (catalog : Catalog) (events : List (LoadEvent σ)) :
    (∃ loads, ExclusiveLoads fetcher catalog
      ((Session.new machine frameRate fetcher catalog).takeAll events).1
      ((Session.new machine frameRate fetcher catalog).takeAll events).2 loads) ∧
    ∀ before after, events = before ++ after → (∀ event ∈ after, event.lends = false) →
      ∃ asked, ((Session.new machine frameRate fetcher catalog).takeAll before).1.rig.Obeys asked
        ((Session.new machine frameRate fetcher catalog).takeAll events).1.rig := by
  constructor
  · obtain ⟨loads, o⟩ := Orderly.run machine frameRate fetcher catalog events
    refine ⟨loads, o.programs, o.underway.one, o.milestones, o.deeds, ?_, ?_,
      fun _ _ => o.poll_of_unanswered, o.poll_of_settled, o.select_answer⟩
    · intro ticket l found
      obtain ⟨_, -, m⟩ := o.mailbox ticket l found
      exact m.once
    · intro ticket l answer found settled
      obtain ⟨_, -, m⟩ := o.mailbox ticket l found
      exact (m.taken answer settled).2
  · rintro before after rfl kept
    obtain ⟨effects, does⟩ := Session.exists_does_takeAll (.new machine frameRate fetcher catalog) before kept
    exact ⟨_, does.obeys⟩

end Chip8Console
