import Chip8Console.Proofs.Effects
import Mathlib.Data.List.Induction

/-! # Runs of loads

A `LoadEvent` is a request for a program, a look at what has become of one, or something that goes
on elsewhere: at the other end of a fetch, or with the parts that the loader is only lent.  A run
takes any events in any order and keeps a record of each with its answer.

`Load` is one block of what a run does, from the reset of the machine to the image in its memory.  As long as the
machine is not lent to others, it goes through the calls of these blocks and through nothing else
(`Session.exists_does_takeAll`).
-/

namespace Chip8Console

inductive LoadEvent (σ : Type) where
  | select (index : Nat)
  | selectNext
  | selectPrev
  | poll
  | deliver (ticket : Nat) (answer : Fetched)
  | abandon (ticket : Nat)
  /-- Others have had the machine and the parts that a load touches, and bring them back. -/
  | lend (machine : σ) (scheduler : Scheduler Float) (router : Router) (panel : Panel)

inductive LoadAnswer where
  | selection (selection : Except Failure Selection)
  | completion (completion : Completion)
  | delivery (delivery : Delivery)
  | silence

/-- An answer that starts a load or ends one. -/
inductive Milestone where
  | started (index : Nat)
  | loaded (index : Nat)
  | failed (index : Nat)
deriving DecidableEq

def LoadAnswer.milestone? : LoadAnswer → Option Milestone
  | .selection (.ok (.loading index)) => some (.started index)
  | .completion (.loaded index) => some (.loaded index)
  | .completion (.failed index) => some (.failed index)
  | _ => none

/-- Others have had the machine. -/
def LoadEvent.lends {σ : Type} : LoadEvent σ → Bool
  | .lend .. => true
  | _ => false

abbrev LoadHistory (σ : Type) := List (LoadEvent σ × LoadAnswer)

namespace LoadHistory

variable {σ : Type}

def milestones (history : LoadHistory σ) : List Milestone :=
  history.filterMap fun (_, answer) => answer.milestone?

/-- What an accepted delivery has brought for a fetch. -/
def brought? (ticket : Nat) : LoadEvent σ × LoadAnswer → Option Fetched
  | (.deliver receiver answer, .delivery .accepted) => if receiver = ticket then some answer else none
  | _ => none

def hangsUp (ticket : Nat) : LoadEvent σ × LoadAnswer → Bool
  | (.abandon receiver, .delivery .accepted) => receiver == ticket
  | _ => false

def deliveries (history : LoadHistory σ) (ticket : Nat) : List Fetched :=
  history.filterMap (brought? ticket)

/-- Whoever was to answer the fetch has gone away. -/
def hungUp (history : LoadHistory σ) (ticket : Nat) : Bool :=
  history.any (hangsUp ticket)

/-- The result that was there when the fetch was started, and those that were delivered since. -/
def results (history : LoadHistory σ) (fetcher : Fetcher) (ticket : Nat) (locator : String) :
    List Fetched :=
  (fetcher.atOnce locator).toList ++ history.deliveries ticket

/-- What the fetch has come to: a result counts even if its worker has gone away. -/
def outcome? (history : LoadHistory σ) (fetcher : Fetcher) (ticket : Nat) (locator : String) :
    Option Fetched :=
  match history.results fetcher ticket locator with
  | answer :: _ => some answer
  | [] => if history.hungUp ticket then some (.error (.fetch locator .abandoned)) else none

@[simp] theorem milestones_concat (history : LoadHistory σ) (event : LoadEvent σ) (answer : LoadAnswer) :
    milestones (history ++ [(event, answer)]) = milestones history ++ answer.milestone?.toList := by
  cases reached : answer.milestone? <;> simp [milestones, reached]

/-! A fetch hears of nothing but the deliveries that were accepted for it. -/

theorem deliveries_of_not_accepted (history : LoadHistory σ) (event : LoadEvent σ) {answer : LoadAnswer}
    (ignored : answer ≠ .delivery .accepted) (ticket : Nat) :
    deliveries (history ++ [(event, answer)]) ticket = deliveries history ticket := by
  have nothing : brought? ticket (event, answer) = none := by
    unfold brought?
    split <;> simp_all
  simp [deliveries, nothing]

theorem hungUp_of_not_accepted (history : LoadHistory σ) (event : LoadEvent σ) {answer : LoadAnswer}
    (ignored : answer ≠ .delivery .accepted) (ticket : Nat) :
    hungUp (history ++ [(event, answer)]) ticket = hungUp history ticket := by
  have nothing : hangsUp ticket (event, answer) = false := by
    unfold hangsUp
    split <;> simp_all
  simp [hungUp, nothing]

theorem deliveries_deliver (history : LoadHistory σ) (receiver : Nat) (answer : Fetched) (ticket : Nat) :
    deliveries (history ++ [(.deliver receiver answer, .delivery .accepted)]) ticket =
      deliveries history ticket ++ if receiver = ticket then [answer] else [] := by
  by_cases same : receiver = ticket <;> simp [deliveries, brought?, same]

theorem hungUp_deliver (history : LoadHistory σ) (receiver : Nat) (answer : Fetched) (ticket : Nat) :
    hungUp (history ++ [(.deliver receiver answer, .delivery .accepted)]) ticket =
      hungUp history ticket := by
  simp [hungUp, hangsUp]

theorem deliveries_abandon (history : LoadHistory σ) (receiver ticket : Nat) :
    deliveries (history ++ [(.abandon receiver, .delivery .accepted)]) ticket =
      deliveries history ticket := by
  simp [deliveries, brought?]

theorem hungUp_abandon (history : LoadHistory σ) (receiver ticket : Nat) :
    hungUp (history ++ [(.abandon receiver, .delivery .accepted)]) ticket =
      (hungUp history ticket || receiver == ticket) := by
  simp [hungUp, hangsUp]

/-- Nothing was ever delivered for the fetches from number `count` on. -/
def Unsent (history : LoadHistory σ) (count : Nat) : Prop :=
  ∀ ticket, count ≤ ticket → history.deliveries ticket = [] ∧ history.hungUp ticket = false

theorem Unsent.mono {history : LoadHistory σ} {count more : Nat} (unsent : history.Unsent count)
    (le : count ≤ more) : history.Unsent more :=
  fun ticket beyond => unsent ticket (Nat.le_trans le beyond)

theorem Unsent.skip {history : LoadHistory σ} {count : Nat} (unsent : history.Unsent count)
    (event : LoadEvent σ) {answer : LoadAnswer} (ignored : answer ≠ .delivery .accepted) :
    Unsent (history ++ [(event, answer)]) count := by
  intro ticket beyond
  rw [deliveries_of_not_accepted history event ignored, hungUp_of_not_accepted history event ignored]
  exact unsent ticket beyond

end LoadHistory

namespace Session

variable {σ : Type} [Machine σ]

def take (s : Session σ) : LoadEvent σ → Session σ × LoadAnswer
  | .select index => ((s.select index).1, .selection (s.select index).2)
  | .selectNext => (s.selectNext.1, .selection s.selectNext.2)
  | .selectPrev => (s.selectPrev.1, .selection s.selectPrev.2)
  | .poll => (s.poll.1, .completion s.poll.2)
  | .deliver ticket answer => ((s.deliver ticket answer).1, .delivery (s.deliver ticket answer).2)
  | .abandon ticket => ((s.abandon ticket).1, .delivery (s.abandon ticket).2)
  | .lend machine scheduler router panel =>
    ({ s with rig := { s.rig with machine }, scheduler, router, panel }, .silence)

/-- Takes one event after the other, and keeps the record. -/
def takeAll (s : Session σ) (events : List (LoadEvent σ)) : Session σ × LoadHistory σ :=
  events.foldl (fun (s, history) event => ((s.take event).1, history ++ [(event, (s.take event).2)]))
    (s, [])

@[simp] theorem takeAll_nil (s : Session σ) : s.takeAll [] = (s, []) := rfl

@[simp] theorem takeAll_concat (s : Session σ) (events : List (LoadEvent σ)) (event : LoadEvent σ) :
    s.takeAll (events ++ [event]) =
      (((s.takeAll events).1.take event).1,
        (s.takeAll events).2 ++ [(event, ((s.takeAll events).1.take event).2)]) := by
  simp [takeAll]

theorem exists_does_take (s : Session σ) {event : LoadEvent σ} (kept : event.lends = false) :
    ∃ effects, s.rig.Does effects (s.take event).1.rig := by
  cases event with
  | select index => exact s.exists_does_select index
  | selectNext => exact s.exists_does_select _
  | selectPrev => exact s.exists_does_select _
  | poll => exact s.exists_does_poll
  | deliver ticket answer => exact ⟨[], s.rig.does_deliver ticket answer⟩
  | abandon ticket => exact ⟨[], s.rig.does_abandon ticket⟩
  | lend => cases kept

/-- From some point of a run on, as long as the machine is not lent to anybody. -/
theorem exists_does_takeAll (s : Session σ) (before : List (LoadEvent σ)) {after : List (LoadEvent σ)}
    (kept : ∀ event ∈ after, event.lends = false) :
    ∃ effects, (s.takeAll before).1.rig.Does effects (s.takeAll (before ++ after)).1.rig := by
  induction after using List.reverseRecOn with
  | nil =>
    rw [List.append_nil]
    exact ⟨[], .refl _⟩
  | append_singleton after event ih =>
    obtain ⟨effects, first⟩ := ih fun other among => kept other (List.mem_append_left _ among)
    obtain ⟨more, last⟩ := (s.takeAll (before ++ after)).1.exists_does_take (kept event List.mem_concat_self)
    rw [← List.append_assoc, takeAll_concat]
    exact ⟨_, first.trans last⟩

end Session

/-! ## Loads -/

/-- A load: the program that was asked for, and what has come of it. -/
structure Load where
  index : Nat
  program : Program
  outcome : Option Fetched := none

/-- The answer that ends a load. -/
def Fetched.completion (answer : Fetched) (index : Nat) : Completion :=
  match answer with
  | .ok _ => .loaded index
  | .error _ => .failed index

/-- What is done to the machine at the end of a load. -/
def Fetched.deeds : Fetched → List Deed
  | .ok bytes => .call (.load bytes) :: Rig.releases
  | .error _ => []

namespace Load

def milestones (l : Load) : List Milestone :=
  .started l.index :: match l.outcome with
    | none => []
    | some (.ok _) => [.loaded l.index]
    | some (.error _) => [.failed l.index]

def deeds (l : Load) : List Deed :=
  .call .reset :: .fetch l.program.locator :: (l.outcome.elim [] Fetched.deeds)

end Load

end Chip8Console
