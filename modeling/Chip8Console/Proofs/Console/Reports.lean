import Chip8Console.Proofs.Console.Lines
import Chip8Console.Proofs.Input.Keyboard

/-! # Lines that are let go

The keyboard knows how long ago each key was reported, and nothing of programs; the router knows the lines of the
program that was loaded last, and nothing of time.  They agree all the same: a line is held only by a key that is on it
now and that the keyboard holds too, so it is let go with the first poll that comes late enough
(`held_lines_reported`).
-/

namespace Chip8Console

def Action.edge? : Action → Option KeyEdge
  | .event e => e.edge?
  | _ => none

namespace Session

variable {σ : Type}

theorem filterMap_edge?_sent (answer : Except Failure Selection) :
    (sent answer : List (Happening σ)).filterMap Happening.edge? = [] :=
  filterMap_sent (fun _ => rfl) answer

theorem filterMap_edge?_arrival [Machine σ] (s : Session σ) : s.arrival.filterMap Happening.edge? = [] :=
  s.filterMap_arrival (fun _ => rfl) fun _ _ => rfl

end Session

namespace Console

variable {σ δ : Type} [Machine σ] [Beeper δ]

theorem edges_happenings (c : Console σ δ) (action : Action) :
    (c.happenings action).filterMap Happening.edge? = action.edge?.toList := by
  cases action with
  | boot => exact Session.filterMap_edge?_sent _
  | tick now =>
    rw [happenings, List.filterMap_append, Session.filterMap_edge?_arrival]
    cases (c.tick now).2 <;> rfl
  | event event =>
    cases event with
    | nextProgram | prevProgram => exact Session.filterMap_edge?_sent _
    | key _ | halt | resume | step | toggleDebug | quit => rfl
  | deliver _ _ | abandon _ => rfl

/-- The edges in the history of a run are those that were handled. -/
theorem edges_history (c : Console σ δ) (actions : List Action) :
    (c.history actions).filterMap Happening.edge? = actions.filterMap Action.edge? := by
  induction actions generalizing c with
  | nil => rfl
  | cons action actions ih =>
    rw [history, List.filterMap_append, edges_happenings, ih]
    cases edge : action.edge? <;> simp [edge]

/-- A held line has a key on it of which the latest edge, of all that were handled, went down. -/
theorem down_of_held {c : Console σ δ} (start : Session.LinesHeld [] c.session) (actions : List Action) {line : UInt8}
    (held : Call.Held (c.run actions).session.rig.journal.calls line) :
    ∃ key, (c.run actions).session.router.numberOf? key = some line ∧
      ((actions.filterMap Action.edge?).filter (·.key = key)).getLast? = some (.down key) := by
  have lines : Session.LinesHeld (c.history actions) (c.run actions).session :=
    c.history_induction (P := Session.LinesHeld) (fun _ _ _ _ h change => h.change change) start actions
  obtain ⟨key, mapped, last⟩ := lines.held_by_key held
  have whole := Happening.lastEdge?_of_suffix (sinceLast_suffix _ (c.history actions)) last
  rw [Happening.lastEdge?, edges_history] at whole
  exact ⟨key, mapped, whole⟩

/-- If the edges that were handled are those of some polls, each held line has a key on it that one of them has
reported, and none of the polls since then was late enough to let it go. -/
theorem report_of_held {c : Console σ δ} (start : Session.LinesHeld [] c.session) {k : Keyboard}
    (fresh : k.held.deadlines = []) {polls : List Poll} {actions : List Action}
    (passed : actions.filterMap Action.edge? = (k.pollAll polls).2.filterMap HostEvent.edge?) {line : UInt8}
    (held : Call.Held (c.run actions).session.rig.journal.calls line) :
    ∃ key poll later, (c.run actions).session.router.numberOf? key = some line ∧
      Poll.LatestReport polls key poll later ∧ ∀ p ∈ later, p.now < poll.now + k.held.hold := by
  obtain ⟨key, mapped, down⟩ := down_of_held start actions held
  rw [passed, (k.held_pollAll polls).2] at down
  obtain ⟨time, due⟩ := HeldKeys.exists_lookup_of_down fresh down
  obtain ⟨poll, later, latest, rfl, lasts⟩ := Keyboard.report_of_lookup fresh due
  exact ⟨key, poll, later, mapped, latest, lasts⟩

end Console

/-- Whatever else a console does while it handles the edges of a keyboard in their order, no line stays down for long
after the last report of its keys.  Once the keys have come up that run out by `now`, every held line has a key on it
that was reported less than `hold` before; and at any other time between two polls, a key whose time had not run out
with the last of them. -/
theorem held_lines_reported {σ δ : Type} [Machine σ] [Beeper δ] (machine : σ) (frameRate : Float)
    (fetcher : Fetcher) (catalog : Catalog) (screen : Screen) (tone : ToneGate δ) (hold : Nat)
    (polls : List Poll) (actions : List Action) :
    let c : Console σ δ := { session := .new machine frameRate fetcher catalog, screen, tone }
    let k : Keyboard := { held := { hold } }
    let edges := (k.pollAll polls).2.filterMap HostEvent.edge?
    let s := (c.run actions).session
    let Held := Call.Held s.rig.journal.calls
    (∀ now, actions.filterMap Action.edge? = edges ++ ((k.pollAll polls).1.expire now).2 →
      ∀ line, Held line → ∃ key poll later, s.router.numberOf? key = some line ∧
        Poll.LatestReport polls key poll later ∧ now < poll.now + hold) ∧
    (actions.filterMap Action.edge? = edges →
      ∀ line, Held line → ∃ key poll later, s.router.numberOf? key = some line ∧
        Poll.LatestReport polls key poll later ∧ ∀ p ∈ later, p.now < poll.now + hold) := by
  intro c k edges s Held
  have start : Session.LinesHeld [] c.session := .new machine frameRate fetcher catalog
  constructor
  · intro now passed line held
    -- To have the keys come up is a poll as well, one without reports.
    rw [← Keyboard.edges_pollAll_silent] at passed
    obtain ⟨key, poll, later, mapped, ⟨earlier, split, reported, silent⟩, lasts⟩ :=
      Console.report_of_held start rfl passed held
    rcases List.eq_nil_or_concat' later with rfl | ⟨later, last, rfl⟩
    · obtain rfl : (⟨now, []⟩ : Poll) = poll := by simpa using (List.append_inj' split rfl).2
      cases reported
    · rw [← List.cons_append, ← List.append_assoc] at split
      obtain ⟨rfl, same⟩ := List.append_inj' split rfl
      obtain rfl : (⟨now, []⟩ : Poll) = last := by simpa using same
      exact ⟨key, poll, later, mapped, ⟨earlier, rfl, reported, fun p among => silent p (List.mem_append_left _ among)⟩,
        lasts _ List.mem_concat_self⟩
  · intro passed line held
    exact Console.report_of_held start rfl passed held

/-- Two keys, reported under two programs that have them on the same line.  The first one comes up when the keys of the
second program are installed, and the line stays down with the other. -/
theorem held_lines_reported_across_programs :
    let c : Console Puppet Unit :=
      { session := .new {} 60 .promised .builtin
        screen := .new { resolution := {}, foreground := ⟨255, 255, 255⟩ }
        tone := .muted }
    let k : Keyboard := { held := { hold := 100 } }
    let polls : List Poll := [⟨10, [.char 'q']⟩, ⟨60, [.char 'z', .pageDown]⟩, ⟨80, [.tab, .char 'z']⟩]
    let edges := (k.pollAll polls).2.filterMap HostEvent.edge?
    let polled : List Action := [.boot, .deliver 0 (.ok [0x12]), .tick 0, .event (.key (.down ⟨81⟩)),
      .event (.key (.down ⟨90⟩)), .event .nextProgram, .deliver 1 (.ok [0x13]), .tick 1, .event (.key (.down ⟨90⟩))]
    let lifted := polled ++ [.event (.key (.up ⟨81⟩)), .tick 2]
    let s := (c.run polled).session
    let t := (c.run lifted).session
    (polled.filterMap Action.edge? = edges ∧ Call.Held s.rig.journal.calls 4 ∧
      ∃ key poll later, s.router.numberOf? key = some 4 ∧ Poll.LatestReport polls key poll later ∧
        ∀ p ∈ later, p.now < poll.now + 100) ∧
    lifted.filterMap Action.edge? = edges ++ ((k.pollAll polls).1.expire 120).2 ∧ Call.Held t.rig.journal.calls 4 ∧
      ∃ key poll later, t.router.numberOf? key = some 4 ∧ Poll.LatestReport polls key poll later ∧
        120 < poll.now + 100 := by
  intro c k polls edges polled lifted s t
  have passed : polled.filterMap Action.edge? = edges := by decide
  have passed' : lifted.filterMap Action.edge? = edges ++ ((k.pollAll polls).1.expire 120).2 := by decide
  have held : Call.Held s.rig.journal.calls 4 := by
    unfold Call.Held
    decide +kernel
  have held' : Call.Held t.rig.journal.calls 4 := by
    unfold Call.Held
    decide +kernel
  exact ⟨⟨passed, held, (held_lines_reported _ 60 .promised .builtin _ _ 100 polls polled).2 passed 4 held⟩,
    passed', held', (held_lines_reported _ 60 .promised .builtin _ _ 100 polls lifted).1 120 passed' 4 held'⟩

end Chip8Console
