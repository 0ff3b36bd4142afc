import Chip8Console.Proofs.Console.Recovery
import Mathlib.Data.List.Nodup
import Mathlib.Data.Nat.ModEq
import Mathlib.Data.List.Perm.Subperm

/-! # Going through the catalog

To ask for the next program adds one to the place of the loader, to ask for the one before adds one less than there are
programs, both up to multiples of their number (`Advances`).  Whether the program then comes or fails, the loader stays
at its place (`Round`).  Both strides have no divisor in common with the number of programs, so as many rounds as there
are programs lead to each of them once, and back to where they began (`navigation_goes_round`).
-/

namespace Chip8Console

/-! ## Strides -/

/-- On the places of a catalog of this size, `step` adds `stride`, beginning again at the end. -/
def Advances (size stride : Nat) (step : Nat → Nat) : Prop :=
  ∀ place, place < size → step place = (place + stride) % size

namespace Catalog

theorem advances_next (c : Catalog) : Advances c.size 1 c.next := by
  intro place inside
  unfold next
  split
  · obtain rfl : place = c.size - 1 := by omega
    rw [Nat.sub_add_cancel c.size_pos, Nat.mod_self]
  · rw [Nat.mod_eq_of_lt (by omega)]

theorem advances_prev (c : Catalog) : Advances c.size (c.size - 1) c.prev := by
  intro place inside
  have positive := c.size_pos
  unfold prev
  split
  · obtain rfl : place = 0 := by omega
    rw [Nat.zero_add, Nat.mod_eq_of_lt (by omega)]
  · have whole : place + (c.size - 1) = place - 1 + c.size := by omega
    rw [whole, Nat.add_mod_right, Nat.mod_eq_of_lt (by omega)]

theorem coprime_pred_size (c : Catalog) : Nat.Coprime (c.size - 1) c.size := by
  have next : c.size - 1 + 1 = c.size := Nat.sub_add_cancel c.size_pos
  rw [← next, Nat.add_sub_cancel]
  exact Nat.coprime_self_add_right.mpr (Nat.coprime_one_right _)

theorem prev_next (c : Catalog) {place : Nat} (inside : place < c.size) : c.prev (c.next place) = place := by
  unfold prev next
  split <;> split <;> omega

theorem next_prev (c : Catalog) {place : Nat} (inside : place < c.size) : c.next (c.prev place) = place := by
  unfold prev next
  split <;> split <;> omega

end Catalog

/-- The places that a number of strides lead to, one after the other. -/
def visited (size stride start count : Nat) : List Nat :=
  (List.range count).map fun k => (start + (k + 1) * stride) % size

theorem visited_succ (size stride start count : Nat) :
    visited size stride start (count + 1) =
      (start + stride) % size :: visited size stride ((start + stride) % size) count := by
  simp only [visited, List.range_succ_eq_map, List.map_cons, List.map_map, Nat.zero_add, Nat.one_mul]
  congr 1
  refine List.map_congr_left fun k _ => ?_
  rw [Nat.mod_add_mod]
  change (start + (k + 1 + 1) * stride) % size = _
  rw [Nat.succ_mul (k + 1), Nat.add_assoc, Nat.add_comm stride]

/-- As many strides as there are places lead to each place once. -/
theorem visited_perm {size stride : Nat} (coprime : Nat.Coprime stride size) (positive : 0 < size) (start : Nat) :
    (visited size stride start size).Perm (List.range size) := by
  -- Two equal places would make the difference of their numbers a multiple of the size, and it is smaller.
  have nodup : (visited size stride start size).Nodup := by
    refine List.Nodup.map_on (fun a aIn b bIn same => ?_) List.nodup_range
    have congruent : a * stride ≡ b * stride [MOD size] := by
      have strides := Nat.ModEq.add_left_cancel' start same
      rw [Nat.succ_mul, Nat.succ_mul] at strides
      exact Nat.ModEq.add_right_cancel' stride strides
    have cancelled := congruent.cancel_right_of_coprime (Nat.coprime_comm.mp coprime)
    exact cancelled.eq_of_lt_of_lt (List.mem_range.mp aIn) (List.mem_range.mp bIn)
  have inside : visited size stride start size ⊆ List.range size := by
    intro place among
    obtain ⟨k, -, rfl⟩ := List.mem_map.mp among
    exact List.mem_range.mpr (Nat.mod_lt _ positive)
  exact (nodup.subperm inside).perm_of_length_le (by simp [visited])

/-! ## Rounds -/

namespace Session

variable {σ : Type} [Machine σ]

/-- The program on its way is polled for until it has come or has failed.  In the meantime anything may happen by which
no load starts or ends. -/
inductive EndsWith : Session σ → Completion → Session σ → Prop where
  | now {s : Session σ} (ended : s.poll.2 ≠ .nothing) : EndsWith s s.poll.2 s.poll.1
  | later {s t : Session σ} {completion : Completion} (event : LoadEvent σ)
      (between : (s.take event).2.milestone? = none) (more : EndsWith (s.take event).1 completion t) :
      EndsWith s completion t

/-- A program is asked for, the one at `index` is sent for, and it comes or fails. -/
structure Round (ask : Session σ → Session σ × Except Failure Selection) (s : Session σ) (index : Nat)
    (completion : Completion) (t : Session σ) : Prop where
  answer : (ask s).2 = .ok (.loading index)
  ends : EndsWith (ask s).1 completion t

/-- Rounds one after the other, with what was sent for in each of them and what has become of it. -/
inductive Rounds (ask : Session σ → Session σ × Except Failure Selection) :
    Session σ → List (Nat × Completion) → Session σ → Prop where
  | done (s : Session σ) : Rounds ask s [] s
  | more {s t u : Session σ} {index : Nat} {completion : Completion} {rounds : List (Nat × Completion)}
      (round : Round ask s index completion t) (rest : Rounds ask t rounds u) :
      Rounds ask s ((index, completion) :: rounds) u

variable {s t : Session σ}

/-- The loader does not change while no load starts or ends. -/
theorem loader_take {event : LoadEvent σ} (between : (s.take event).2.milestone? = none) :
    (s.take event).1.loader = s.loader := by
  have asked (index : Nat) (silent : (LoadAnswer.selection (s.select index).2).milestone? = none) :
      (s.select index).1.loader = s.loader := by
    rcases s.select_cases index with ⟨aside, -⟩ | ⟨program, -, sends⟩
    · exact aside.loader
    · rw [sends] at silent
      cases silent
  cases event with
  | select index => exact asked index between
  | selectNext => exact asked _ between
  | selectPrev => exact asked _ between
  | poll =>
    change s.poll.1.loader = s.loader
    change (LoadAnswer.completion s.poll.2).milestone? = none at between
    unfold poll at between ⊢
    split at between
    · rfl
    · split at between
      · rfl
      · cases between
      · cases between
  | deliver | abandon | lend => rfl

theorem loader_poll (ended : s.poll.2 ≠ .nothing) :
    s.poll.1.loader = { s.loader with state := .idle, pending := none } ∧
      (s.poll.2 = .loaded s.loader.current ∨ s.poll.2 = .failed s.loader.current) := by
  unfold poll at ended ⊢
  split at ended
  · exact absurd rfl ended
  · split at ended
    · exact absurd rfl ended
    · exact ⟨rfl, .inl rfl⟩
    · exact ⟨rfl, .inr rfl⟩

theorem EndsWith.loader {completion : Completion} (ends : EndsWith s completion t) :
    t.loader = { s.loader with state := .idle, pending := none } ∧
      (completion = .loaded s.loader.current ∨ completion = .failed s.loader.current) := by
  induction ends with
  | now ended => exact loader_poll ended
  | later event between _ ih => rwa [loader_take between] at ih

/-! ## The places of the loader -/

/-- Nothing is on its way, and the loader has its place in this catalog. -/
structure Rests (s : Session σ) (fetcher : Fetcher) (catalog : Catalog) (place : Nat) : Prop where
  idle : s.loader.state = .idle
  fetcher_eq : s.loader.fetcher = fetcher
  catalog_eq : s.loader.catalog = catalog
  current_eq : s.loader.current = place
  inside : place < catalog.size

/-- A request that asks for the place to which `step` leads. -/
def Asks (ask : Session σ → Session σ × Except Failure Selection) (catalog : Catalog) (step : Nat → Nat) : Prop :=
  ∀ s : Session σ, s.loader.catalog = catalog → ask s = s.select (step s.loader.current)

theorem asks_next (catalog : Catalog) : Asks (σ := σ) selectNext catalog catalog.next :=
  fun _ same => same ▸ rfl

theorem asks_prev (catalog : Catalog) : Asks (σ := σ) selectPrev catalog catalog.prev :=
  fun _ same => same ▸ rfl

variable {ask : Session σ → Session σ × Except Failure Selection} {fetcher : Fetcher} {catalog : Catalog}
  {step : Nat → Nat} {place stride : Nat}

theorem step_lt (advances : Advances catalog.size stride step) (inside : place < catalog.size) :
    step place < catalog.size :=
  advances place inside ▸ Nat.mod_lt _ catalog.size_pos

/-- A loader that rests accepts the request. -/
theorem Rests.sends (rests : s.Rests fetcher catalog place) (asks : Asks (σ := σ) ask catalog step)
    (advances : Advances catalog.size stride step) :
    ∃ program, catalog.get? (step place) = some program ∧
      ask s = (s.send (step place) program, .ok (.loading (step place))) := by
  have inside := step_lt advances rests.inside
  obtain ⟨program, listed⟩ : ∃ program, catalog.get? (step place) = some program :=
    ⟨_, List.getElem?_eq_getElem inside⟩
  refine ⟨program, listed, ?_⟩
  rw [asks s rests.catalog_eq, select_of_idle rests.idle, rests.catalog_eq, rests.current_eq, listed]

theorem Round.rests {index : Nat} {completion : Completion} (round : Round ask s index completion t)
    (rests : s.Rests fetcher catalog place) (asks : Asks (σ := σ) ask catalog step)
    (advances : Advances catalog.size stride step) :
    index = step place ∧ t.Rests fetcher catalog (step place) ∧ (completion = .loaded index ∨ completion = .failed index) := by
  obtain ⟨program, -, sent⟩ := rests.sends asks advances
  obtain ⟨answer, ends⟩ := round
  rw [sent] at answer ends
  cases answer
  obtain ⟨loader, named⟩ := ends.loader
  refine ⟨rfl, ⟨?_, ?_, ?_, ?_, step_lt advances rests.inside⟩, named⟩
  · rw [loader]
  · rw [loader]
    exact rests.fetcher_eq
  · rw [loader]
    exact rests.catalog_eq
  · rw [loader]
    rfl

theorem Rounds.rests {rounds : List (Nat × Completion)} (all : Rounds ask s rounds t) (rests : s.Rests fetcher catalog place)
    (asks : Asks (σ := σ) ask catalog step) (advances : Advances catalog.size stride step) :
    rounds.map (·.1) = visited catalog.size stride place rounds.length ∧
      t.Rests fetcher catalog ((place + rounds.length * stride) % catalog.size) ∧
      ∀ round ∈ rounds, round.2 = .loaded round.1 ∨ round.2 = .failed round.1 := by
  induction all generalizing place with
  | done s =>
    refine ⟨rfl, ?_, nofun⟩
    rw [List.length_nil, Nat.zero_mul, Nat.add_zero, Nat.mod_eq_of_lt rests.inside]
    exact rests
  | @more s t u index completion rounds round _ ih =>
    -- The first round moves the loader by one stride, and the others start from there.
    have stepped := advances place rests.inside
    obtain ⟨rfl, there, named⟩ := round.rests rests asks advances
    obtain ⟨places, last, others⟩ := ih there
    rw [stepped] at places last
    refine ⟨?_, ?_, ?_⟩
    · rw [List.map_cons, List.length_cons, visited_succ, places, stepped]
    · rw [List.length_cons, Nat.succ_mul, Nat.add_comm (_ * stride), ← Nat.add_assoc, ← Nat.mod_add_mod]
      exact last
    · rintro among (_ | ⟨_, isOther⟩)
      · exact named
      · exact others among isOther

/-! ## Every pattern of outcomes -/

/-- What has been sent for can be answered in any way, if it is not answered at once. -/
theorem exists_endsWith {index : Nat} {program : Program} (listed : s.loader.catalog.get? index = some program)
    (waits : s.loader.fetcher.atOnce program.locator = none) (answer : Fetched) :
    ∃ t, EndsWith (s.send index program) (answer.completion index) t := by
  have way : (s.send index program).OnItsWay s.rig.fetches.size := (inOrder_send listed).onItsWay _ rfl
  have unanswered : (s.send index program).rig.outcome? s.rig.fetches.size = none :=
    (s.outcome_send index program).trans waits
  obtain ⟨accepted, settled⟩ := (way.openTo unanswered).deliver answer
  have pending : ((s.send index program).deliver s.rig.fetches.size answer).1.loader.pending =
      some s.rig.fetches.size := by rw [settled.loader]; rfl
  have polled : ((s.send index program).deliver s.rig.fetches.size answer).1.poll.2 = answer.completion index := by
    cases answer with
    | ok bytes =>
      rw [poll_of_ok pending settled.outcome, settled.loader]
      rfl
    | error failure =>
      rw [poll_of_error pending settled.outcome, settled.loader]
      rfl
  have ends : EndsWith ((s.send index program).deliver s.rig.fetches.size answer).1 (answer.completion index)
      ((s.send index program).deliver s.rig.fetches.size answer).1.poll.1 := by
    rw [← polled]
    refine .now ?_
    rw [polled]
    cases answer <;> nofun
  refine ⟨_, .later (.deliver s.rig.fetches.size answer) ?_ ends⟩
  simp only [take, accepted]
  rfl

theorem exists_rounds (rests : s.Rests fetcher catalog place) (asks : Asks (σ := σ) ask catalog step)
    (advances : Advances catalog.size stride step) (waits : ∀ locator, fetcher.atOnce locator = none)
    (answers : List Fetched) :
    ∃ rounds t, Rounds ask s rounds t ∧
      List.Forall₂ (fun answer round => round.2 = answer.completion round.1) answers rounds := by
  induction answers generalizing s place with
  | nil => exact ⟨[], s, .done s, .nil⟩
  | cons answer answers ih =>
    obtain ⟨program, listed, sent⟩ := rests.sends asks advances
    obtain ⟨t, ends⟩ := exists_endsWith (s := s) (by rw [rests.catalog_eq]; exact listed)
      (by rw [rests.fetcher_eq]; exact waits program.locator) answer
    have round : Round ask s (step place) (answer.completion (step place)) t :=
      ⟨by rw [sent], by rw [sent]; exact ends⟩
    obtain ⟨-, there, -⟩ := round.rests rests asks advances
    obtain ⟨rounds, u, rest, outcomes⟩ := ih there
    exact ⟨_, u, .more round rest, .cons rfl outcomes⟩

/-! ## Going round -/

/-- Rounds of a request lead through the catalog, whatever becomes of the programs. -/
structure GoesRound (ask : Session σ → Session σ × Except Failure Selection) (s : Session σ) : Prop where
  accepted : ∀ rounds t, Rounds ask s rounds t → ∃ index, (ask t).2 = .ok (.loading index)
  /-- Each pattern of outcomes can come about, if it is not decided at once. -/
  possible : (∀ locator, s.loader.fetcher.atOnce locator = none) → ∀ answers : List Fetched, ∃ rounds t,
    Rounds ask s rounds t ∧ List.Forall₂ (fun answer round => round.2 = answer.completion round.1) answers rounds
  outcomes : ∀ rounds t, Rounds ask s rounds t →
    ∀ round ∈ rounds, round.2 = .loaded round.1 ∨ round.2 = .failed round.1
  once : ∀ rounds t, Rounds ask s rounds t → rounds.length = s.loader.catalog.size →
    (rounds.map (·.1)).Perm (List.range s.loader.catalog.size)
  back : ∀ rounds t, Rounds ask s rounds t → rounds.length = s.loader.catalog.size →
    t.loader.current = s.loader.current

theorem Rests.goesRound (rests : s.Rests s.loader.fetcher s.loader.catalog s.loader.current)
    (asks : Asks (σ := σ) ask s.loader.catalog step) (advances : Advances s.loader.catalog.size stride step)
    (coprime : Nat.Coprime stride s.loader.catalog.size) : s.GoesRound ask where
  accepted rounds t all := by
    obtain ⟨-, there, -⟩ := all.rests rests asks advances
    obtain ⟨program, -, sent⟩ := there.sends asks advances
    exact ⟨_, by rw [sent]⟩
  possible waits answers := exists_rounds rests asks advances waits answers
  outcomes rounds t all := (all.rests rests asks advances).2.2
  once rounds t all whole := by
    obtain ⟨places, -, -⟩ := all.rests rests asks advances
    rw [places, whole]
    exact visited_perm coprime s.loader.catalog.size_pos _
  back rounds t all whole := by
    obtain ⟨-, there, -⟩ := all.rests rests asks advances
    rw [there.current_eq, whole, Nat.add_mul_mod_self_left, Nat.mod_eq_of_lt rests.inside]

end Session

/-- From any place of an idle loader, as many rounds of requests for the next program as there are programs lead to each
of them once and back to that place, and so do rounds of requests for the one before; one of either kind undoes one of
the other.  No place, in the catalog or beyond, leads out of the catalog. -/
theorem navigation_goes_round {σ : Type} [Machine σ] (s : Session σ) (idle : s.loader.state = .idle)
    (inside : s.loader.current < s.loader.catalog.size) :
    s.GoesRound Session.selectNext ∧ s.GoesRound Session.selectPrev ∧
    (∀ index completion t index' completion' u, Session.Round Session.selectNext s index completion t →
      Session.Round Session.selectPrev t index' completion' u → u.loader.current = s.loader.current) ∧
    (∀ index completion t index' completion' u, Session.Round Session.selectPrev s index completion t →
      Session.Round Session.selectNext t index' completion' u → u.loader.current = s.loader.current) ∧
    ∀ index, s.loader.catalog.next index < s.loader.catalog.size ∧
      s.loader.catalog.prev index < s.loader.catalog.size := by
  have rests : s.Rests s.loader.fetcher s.loader.catalog s.loader.current := ⟨idle, rfl, rfl, rfl, inside⟩
  have next := s.loader.catalog.advances_next
  have prev := s.loader.catalog.advances_prev
  refine ⟨rests.goesRound (Session.asks_next _) next (Nat.coprime_one_left _),
    rests.goesRound (Session.asks_prev _) prev s.loader.catalog.coprime_pred_size, ?_, ?_,
    fun index => ⟨s.loader.catalog.next_lt index, s.loader.catalog.prev_lt index⟩⟩
  · intro _ _ t _ _ u forth back
    obtain ⟨-, there, -⟩ := forth.rests rests (Session.asks_next _) next
    obtain ⟨-, again, -⟩ := back.rests there (Session.asks_prev _) prev
    rw [again.current_eq, Catalog.prev_next _ inside]
  · intro _ _ t _ _ u back forth
    obtain ⟨-, there, -⟩ := back.rests rests (Session.asks_prev _) prev
    obtain ⟨-, again, -⟩ := forth.rests there (Session.asks_next _) next
    rw [again.current_eq, Catalog.next_prev _ inside]

/-- From the last of the games that come along, four requests for the next one lead to all of them and back, though two
of them do not come. -/
theorem goes_round_past_failures :
    let s := ((Session.new ({} : Puppet) 60 .promised .builtin).takeAll [.select 3, .abandon 0, .poll]).1
    let missing : Fetched := .error (.fetch "PONG2.ch8" .unknownProgram)
    let answers : List Fetched := [.ok [18, 0], missing, missing, .ok [17]]
    s.loader.state = .idle ∧ s.loader.current < s.loader.catalog.size ∧
      ∃ rounds t, Session.Rounds Session.selectNext s rounds t ∧
        List.Forall₂ (fun answer round => round.2 = answer.completion round.1) answers rounds ∧
        (rounds.map (·.1)).Perm [0, 1, 2, 3] ∧ t.loader.current = 3 := by
  intro s missing answers
  have idle : s.loader.state = .idle := rfl
  have inside : s.loader.current < s.loader.catalog.size := by decide
  obtain ⟨forth, -⟩ := navigation_goes_round s idle inside
  obtain ⟨rounds, t, all, outcomes⟩ := forth.possible (fun _ => rfl) answers
  have whole : rounds.length = s.loader.catalog.size := outcomes.length_eq.symm
  exact ⟨idle, inside, rounds, t, all, outcomes, forth.once rounds t all whole, forth.back rounds t all whole⟩

end Chip8Console
