import Chip8Console.Fetching
import Chip8Console.Machine.Puppet
import Chip8Console.Proofs.Console.History
import Chip8Console.Proofs.Effects

/-! # Asking for programs

A request for a program is dropped while another one is on its way, refused if there is no such program, and accepted
otherwise.  Dropped or refused, it leaves everything as it was but for the journal's notices (`Untouched`).  The place
of the loader stays within the catalog, whatever happens, and so the requests that a player can make are never refused
(`selections_answered`).
-/

namespace Chip8Console

/-! ## Leaving everything as it was -/

/-- The session is as before, and has had no effect; something may have been noted. -/
structure Session.Untouched {σ : Type} (before after : Session σ) : Prop where
  state : after = { before with rig := { before.rig with journal := after.rig.journal } }
  effects : after.rig.journal.effects = before.rig.journal.effects

structure Console.Untouched {σ δ : Type} (before after : Console σ δ) : Prop where
  session : before.session.Untouched after.session
  screen : after.screen = before.screen
  tone : after.tone = before.tone

/-! ## Requests to a session -/

namespace Session

variable {σ : Type}

theorem untouched_note (s : Session σ) (notice : Notice) : s.Untouched { s with rig := s.rig.note notice } :=
  ⟨rfl, Journal.effects_note _ _⟩

variable [Machine σ]

/-- A request has been dropped. -/
def Drops (s : Session σ) (asked : Session σ × Except Failure Selection) : Prop :=
  asked.2 = .ok .dropped ∧ s.Untouched asked.1

variable {s : Session σ}

theorem drops_select (loading : s.loader.state = .loading) (index : Nat) : s.Drops (s.select index) := by
  have dropped : s.select index = ({ s with rig := s.rig.note (.loadDropped index) }, .ok .dropped) := by
    simp [select, Loader.isLoading, loading]
  rw [dropped]
  exact ⟨rfl, s.untouched_note _⟩

theorem select_of_idle (idle : s.loader.state = .idle) (index : Nat) :
    s.select index = match s.loader.catalog.get? index with
      | none => (s, .error (.noSuchProgram index))
      | some program => (s.send index program, .ok (.loading index)) := by
  simp only [select, Loader.isLoading, idle, reduceCtorEq, decide_false]
  rfl

theorem select_of_lt (idle : s.loader.state = .idle) {index : Nat} (inside : index < s.loader.catalog.size) :
    (s.select index).2 = .ok (.loading index) := by
  obtain ⟨program, listed⟩ : ∃ program, s.loader.catalog.get? index = some program :=
    ⟨_, List.getElem?_eq_getElem inside⟩
  rw [select_of_idle idle, listed]

theorem select_of_le (idle : s.loader.state = .idle) {index : Nat} (outside : s.loader.catalog.size ≤ index) :
    s.select index = (s, .error (.noSuchProgram index)) := by
  have absent : s.loader.catalog.get? index = none := List.getElem?_eq_none outside
  rw [select_of_idle idle, absent]

/-- What is in the catalog can be asked for, whatever the loader is doing. -/
theorem exists_selection (s : Session σ) {index : Nat} (inside : index < s.loader.catalog.size) :
    ∃ selection, (s.select index).2 = .ok selection := by
  cases state : s.loader.state with
  | loading => exact ⟨_, (drops_select state index).1⟩
  | idle => exact ⟨_, select_of_lt state inside⟩

end Session

/-! ## Requests to a console -/

namespace Console

variable {σ δ : Type} [Beeper δ] {c : Console σ δ} {ask : Session σ → Session σ × Except Failure Selection}

/-- A console that has dropped a request. -/
def Drops (c : Console σ δ) (asked : Console σ δ × Except Failure Selection) : Prop :=
  asked.2 = .ok .dropped ∧ c.Untouched asked.1

theorem drops_choose (dropped : c.session.Drops (ask c.session)) : c.Drops (c.choose ask) := by
  obtain ⟨answer, untouched⟩ := dropped
  rcases c.choose_cases ask with ⟨-, chosen⟩ | ⟨index, accepted, -⟩
  · rw [chosen]
    exact ⟨answer, untouched, rfl, rfl⟩
  · rw [answer] at accepted
    cases accepted

/-- Where nothing can be refused, nothing is reported. -/
theorem change_of_ok {selection : Selection} (answer : (c.choose ask).2 = .ok selection) :
    c.change ask = (c.choose ask).1 := by
  unfold change
  split
  · rename_i chosen
    rw [chosen]
  · rename_i chosen
    rw [chosen] at answer
    cases answer

end Console

/-! ## The place of the loader -/

/-- The loader has a place in the catalog. -/
structure Loader.Placed (catalog : Catalog) (l : Loader) : Prop where
  catalog_eq : l.catalog = catalog
  current_lt : l.current < catalog.size

namespace Session

variable {σ : Type} [Machine σ] {catalog : Catalog} {s : Session σ}

theorem placed_change (s t : Session σ) (happenings : List (Happening σ)) (placed : s.loader.Placed catalog)
    (change : Change s t happenings) : t.loader.Placed catalog := by
  cases change with
  | aside aside => rwa [aside.loader]
  | edge edge aside => rwa [aside.loader]
  | send listed =>
    rw [placed.catalog_eq] at listed
    exact ⟨placed.catalog_eq, (List.getElem?_eq_some_iff.mp listed).1⟩
  | load => exact ⟨placed.catalog_eq, placed.current_lt⟩
  | fail => exact ⟨placed.catalog_eq, placed.current_lt⟩

theorem placed_take (placed : s.loader.Placed catalog) (event : LoadEvent σ) :
    (s.take event).1.loader.Placed catalog := by
  have spared (spares : s.Spares event) : (s.take event).1.loader.Placed catalog :=
    (turn_take spares).stays placed_change placed
  -- Whoever is lent the other parts may change the keys and the texts, but does not get the loader.
  cases event with
  | lend => exact placed
  | select | selectNext | selectPrev | poll | deliver | abandon => exact spared trivial

theorem placed_takeAll (placed : s.loader.Placed catalog) (events : List (LoadEvent σ)) :
    (s.takeAll events).1.loader.Placed catalog := by
  induction events generalizing s with
  | nil => exact placed
  | cons event events ih =>
    rw [takeAll_cons]
    exact ih (placed_take placed event)

end Session

/-! ## All requests -/

/-- How a session answers to requests for programs. -/
structure Session.AnswersRequests {σ : Type} [Machine σ] (catalog : Catalog) (s : Session σ) : Prop where
  placed : s.loader.Placed catalog
  dropped : s.loader.state = .loading →
    (∀ index, s.Drops (s.select index)) ∧ s.Drops s.selectNext ∧ s.Drops s.selectPrev
  refused : s.loader.state = .idle → ∀ index, catalog.size ≤ index →
    s.select index = (s, .error (.noSuchProgram index))
  accepted : s.loader.state = .idle → ∀ index, index < catalog.size → (s.select index).2 = .ok (.loading index)
  next : ∃ selection, s.selectNext.2 = .ok selection
  prev : ∃ selection, s.selectPrev.2 = .ok selection

/-- How a console answers to its player's requests for programs.  No failure is reported for the next program and the
one before, as there is none. -/
structure Console.AnswersRequests {σ δ : Type} [Machine σ] [Beeper δ] (c : Console σ δ) : Prop where
  dropped : c.session.loader.state = .loading →
    c.Drops c.boot ∧ c.Drops (c.choose Session.selectNext) ∧ c.Drops (c.choose Session.selectPrev)
  boot : ∃ selection, c.boot.2 = .ok selection
  next : (∃ selection, (c.choose Session.selectNext).2 = .ok selection) ∧
    c.handle .nextProgram = ((c.choose Session.selectNext).1, .continue)
  prev : (∃ selection, (c.choose Session.selectPrev).2 = .ok selection) ∧
    c.handle .prevProgram = ((c.choose Session.selectPrev).1, .continue)

theorem Session.answersRequests {σ : Type} [Machine σ] {catalog : Catalog} {s : Session σ}
    (placed : s.loader.Placed catalog) : s.AnswersRequests catalog where
  placed := placed
  dropped loading := ⟨drops_select loading, drops_select loading _, drops_select loading _⟩
  refused idle _ outside := select_of_le idle (placed.catalog_eq ▸ outside)
  accepted idle _ inside := select_of_lt idle (placed.catalog_eq ▸ inside)
  next := s.exists_selection (s.loader.catalog.next_lt _)
  prev := s.exists_selection (s.loader.catalog.prev_lt _)

theorem Console.answersRequests {σ δ : Type} [Machine σ] [Beeper δ] (c : Console σ δ) : c.AnswersRequests := by
  have boot : ∃ selection, c.boot.2 = .ok selection := by
    rw [Console.boot, choose_snd]
    exact c.session.exists_selection c.session.loader.catalog.size_pos
  have next : ∃ selection, (c.choose Session.selectNext).2 = .ok selection := by
    rw [choose_snd]
    exact c.session.exists_selection (c.session.loader.catalog.next_lt _)
  have prev : ∃ selection, (c.choose Session.selectPrev).2 = .ok selection := by
    rw [choose_snd]
    exact c.session.exists_selection (c.session.loader.catalog.prev_lt _)
  refine ⟨fun loading => ?_, boot, ⟨next, ?_⟩, ⟨prev, ?_⟩⟩
  · exact ⟨drops_choose (Session.drops_select loading 0), drops_choose (Session.drops_select loading _),
      drops_choose (Session.drops_select loading _)⟩
  · obtain ⟨selection, answer⟩ := next
    rw [handle, change_of_ok answer]
  · obtain ⟨selection, answer⟩ := prev
    rw [handle, change_of_ok answer]

/-- In every state that a loader or a console comes to, requests are dropped while a program is on its way, refused if
there is no such program, and accepted otherwise, and only an accepted one changes anything. -/
theorem selections_answered {σ δ : Type} [Machine σ] [Beeper δ] (machine : σ) (frameRate : Float) (fetcher : Fetcher)
    (catalog : Catalog) (screen : Screen) (tone : ToneGate δ) (actions : List Action) (events : List (LoadEvent σ)) :
    let s := Session.new machine frameRate fetcher catalog
    let c : Console σ δ := { session := s, screen, tone }
    (s.takeAll events).1.AnswersRequests catalog ∧ (c.run actions).session.AnswersRequests catalog ∧
      (c.run actions).AnswersRequests := by
  intro s c
  have start : s.loader.Placed catalog := ⟨rfl, catalog.size_pos⟩
  have placed : (c.run actions).session.loader.Placed catalog := Console.stays_run Session.placed_change start actions
  exact ⟨Session.answersRequests (Session.placed_takeAll start events), Session.answersRequests placed,
    (c.run actions).answersRequests⟩

/-- There is no fifth program to ask for, and while the first one is on its way the second is not sent for. -/
theorem requests_while_booting :
    let c : Console Puppet Unit :=
      { session := .new {} 60 .promised .builtin
        screen := .new { resolution := {}, foreground := ⟨255, 255, 255⟩ }
        tone := .muted }
    let booted := c.run [.boot]
    c.session.select 4 = (c.session, .error (.noSuchProgram 4)) ∧ booted.session.loader.state = .loading ∧
      booted.Drops (booted.choose Session.selectNext) ∧ booted.session.Drops (booted.session.select 4) := by
  intro c booted
  obtain ⟨-, fresh, -⟩ := selections_answered ({} : Puppet) 60 .promised .builtin c.screen c.tone [] []
  obtain ⟨-, session, console⟩ := selections_answered ({} : Puppet) 60 .promised .builtin c.screen c.tone [.boot] []
  exact ⟨fresh.refused rfl 4 (by decide), rfl, (console.dropped rfl).2.1, (session.dropped rfl).1 4⟩

end Chip8Console
