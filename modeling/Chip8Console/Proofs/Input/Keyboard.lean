import Chip8Console.Input.Keyboard
import Chip8Console.Proofs.Input.HeldKeys

/-! # Polls of the keyboard

To poll the keyboard is to have the keys expire that have run out, and then to have those pressed that the terminal
has reported.  A key that is held has its deadline from the latest poll that has reported it, and none of the polls
since then was late enough to end it (`Keyboard.report_of_lookup`).
-/

namespace Chip8Console

/-- The host asks for input at a time, and this is what the terminal has reported. -/
structure Poll where
  now : Nat
  reports : List TerminalKey

namespace Poll

/-- The keys of the host among the reports. -/
def keys (p : Poll) : List HostKey :=
  p.reports.filterMap TerminalKey.hostKey?

def requests (p : Poll) : List KeyRequest :=
  .expire p.now :: p.keys.map (.press · p.now)

/-- The latest poll that has reported the key, and those that have come after it. -/
def LatestReport (polls : List Poll) (key : HostKey) (poll : Poll) (later : List Poll) : Prop :=
  ∃ earlier, polls = earlier ++ poll :: later ∧ key ∈ poll.keys ∧ ∀ p ∈ later, key ∉ p.keys

end Poll

def HostEvent.edge? : HostEvent → Option KeyEdge
  | .key edge => some edge
  | _ => none

theorem TerminalKey.edge?_of_control? {key : TerminalKey} {event : HostEvent} (h : key.control? = some event) :
    event.edge? = none := by
  unfold control? at h
  split at h
  all_goals cases h
  all_goals rfl

/-! ## The deadlines after a poll -/

namespace HeldKeys

theorem edges_append (h : HeldKeys) (requests more : List KeyRequest) :
    h.edges (requests ++ more) = h.edges requests ++ (h.serveAll requests).edges more := by
  induction requests generalizing h with
  | nil => rfl
  | cons request requests ih => simp [edges, ih, serveAll]

theorem lookup_presses (h : HeldKeys) (keys : List HostKey) (now : Nat) (key : HostKey) :
    (h.serveAll (keys.map (.press · now))).deadlines.lookup key =
      if key ∈ keys then some (now + h.hold) else h.deadlines.lookup key := by
  induction keys using List.reverseRecOn with
  | nil => rfl
  | append_singleton keys last ih =>
    rw [List.map_append, List.map_singleton, serveAll_concat]
    simp only [serve, press, lookup_setDeadline, ih, hold_serveAll, List.mem_append, List.mem_singleton]
    by_cases same : key = last
    · simp [same]
    · simp [same]

/-- A key that is reported starts anew, and any other stays held if it has not run out. -/
theorem lookup_poll {h : HeldKeys} (ascending : Ascending h.deadlines) (p : Poll) (key : HostKey) :
    (h.serveAll p.requests).deadlines.lookup key =
      if key ∈ p.keys then some (p.now + h.hold) else (h.deadlines.lookup key).filter (p.now < ·) := by
  have expired := (Prod.mk.inj (serve_key ascending key (.expire p.now))).1
  have presses := lookup_presses (h.serve (.expire p.now)).1 p.keys p.now key
  rw [expired, hold_serve] at presses
  exact presses

/-- Where the latest edge of a key has gone down, the key is held. -/
theorem exists_lookup_of_down {h : HeldKeys} (fresh : h.deadlines = []) {requests : List KeyRequest} {key : HostKey}
    (down : ((h.edges requests).filter (·.key = key)).getLast? = some (.down key)) :
    ∃ time, (h.serveAll requests).deadlines.lookup key = some time := by
  obtain ⟨strokes, rest, word, held⟩ := strokes_of_run fresh key requests
  apply Option.ne_none_iff_exists'.mp
  intro none
  -- Then all strokes are complete, and the last of them ends with the key coming up.
  rw [word, held.mpr none, List.replicate_zero, List.append_nil] at down
  induction strokes using List.reverseRecOn with
  | nil => cases down
  | append_singleton strokes last _ => simp [stroke] at down

end HeldKeys

/-! ## Polls in a row -/

namespace Keyboard

/-- Polls one after the other, with all events in their order. -/
def pollAll (k : Keyboard) : List Poll → Keyboard × List HostEvent
  | [] => (k, [])
  | p :: polls =>
    let (k, events, _) := k.poll p.reports p.now
    let (k, more) := pollAll k polls
    (k, events ++ more)

theorem held_report (k : Keyboard) (key : TerminalKey) (now : Nat) :
    (k.report key now).1.held = k.held.serveAll (key.hostKey?.toList.map (.press · now)) ∧
      (k.report key now).2.1.toList.filterMap HostEvent.edge? =
        k.held.edges (key.hostKey?.toList.map (.press · now)) := by
  unfold report
  cases control : key.control? with
  | some event =>
    rw [TerminalKey.hostKey?_of_control? control]
    simp [TerminalKey.edge?_of_control? control, HeldKeys.serveAll, HeldKeys.edges]
  | none =>
    cases key.hostKey? with
    | none => simp [HeldKeys.serveAll, HeldKeys.edges]
    | some hostKey =>
      simp [HeldKeys.serveAll, HeldKeys.edges, HeldKeys.serve, HeldKeys.press, HostEvent.edge?]

theorem held_reportAll (k : Keyboard) (now : Nat) (reports : List TerminalKey) :
    let requests := (reports.filterMap TerminalKey.hostKey?).map (.press · now)
    (k.reportAll now reports).1.held = k.held.serveAll requests ∧
      (k.reportAll now reports).2.1.filterMap HostEvent.edge? = k.held.edges requests := by
  induction reports generalizing k with
  | nil => exact ⟨rfl, rfl⟩
  | cons key reports ih =>
    obtain ⟨held, edges⟩ := k.held_report key now
    obtain ⟨heldAfter, edgesAfter⟩ := ih (k.report key now).1
    have split : ((key :: reports).filterMap TerminalKey.hostKey?).map (KeyRequest.press · now) =
        key.hostKey?.toList.map (.press · now) ++ (reports.filterMap TerminalKey.hostKey?).map (.press · now) := by
      cases reported : key.hostKey? <;> simp [reported]
    simp only [split, HeldKeys.serveAll_append, HeldKeys.edges_append, ← held, ← edges, ← heldAfter, ← edgesAfter]
    exact ⟨rfl, List.filterMap_append⟩

theorem filterMap_key (edges : List KeyEdge) : (edges.map HostEvent.key).filterMap HostEvent.edge? = edges := by
  rw [List.filterMap_map]
  exact List.filterMap_some

theorem held_poll (k : Keyboard) (p : Poll) :
    (k.poll p.reports p.now).1.held = k.held.serveAll p.requests ∧
      (k.poll p.reports p.now).2.1.filterMap HostEvent.edge? = k.held.edges p.requests := by
  obtain ⟨held, edges⟩ := (k.expire p.now).1.held_reportAll p.now p.reports
  refine ⟨held, ?_⟩
  simp only [poll, List.filterMap_append, filterMap_key, edges]
  rfl

theorem held_pollAll (k : Keyboard) (polls : List Poll) :
    (k.pollAll polls).1.held = k.held.serveAll (polls.flatMap Poll.requests) ∧
      (k.pollAll polls).2.filterMap HostEvent.edge? = k.held.edges (polls.flatMap Poll.requests) := by
  induction polls generalizing k with
  | nil => exact ⟨rfl, rfl⟩
  | cons p polls ih =>
    obtain ⟨held, edges⟩ := k.held_poll p
    obtain ⟨heldAfter, edgesAfter⟩ := ih (k.poll p.reports p.now).1
    rw [List.flatMap_cons, HeldKeys.serveAll_append, HeldKeys.edges_append, ← held, ← edges, ← heldAfter, ← edgesAfter]
    exact ⟨rfl, List.filterMap_append⟩

/-- A poll that reports nothing only has keys expire. -/
theorem edges_pollAll_silent (k : Keyboard) (polls : List Poll) (now : Nat) :
    (k.pollAll (polls ++ [⟨now, []⟩])).2.filterMap HostEvent.edge? =
      (k.pollAll polls).2.filterMap HostEvent.edge? ++ ((k.pollAll polls).1.expire now).2 := by
  obtain ⟨held, edges⟩ := k.held_pollAll polls
  rw [(k.held_pollAll _).2, List.flatMap_append, HeldKeys.edges_append, ← held, ← edges]
  simp [Poll.requests, Poll.keys, HeldKeys.edges, HeldKeys.serve, expire]

theorem report_of_lookup {k : Keyboard} (fresh : k.held.deadlines = []) {polls : List Poll} {key : HostKey} {time : Nat}
    (held : (k.held.serveAll (polls.flatMap Poll.requests)).deadlines.lookup key = some time) :
    ∃ poll later, Poll.LatestReport polls key poll later ∧ poll.now + k.held.hold = time ∧ ∀ p ∈ later, p.now < time := by
  induction polls using List.reverseRecOn with
  | nil => simp [HeldKeys.serveAll, fresh] at held
  | append_singleton polls last ih =>
    have ascending := HeldKeys.ascending_serveAll (h := k.held) (by rw [fresh]; exact .nil) (polls.flatMap Poll.requests)
    rw [List.flatMap_append, List.flatMap_singleton, HeldKeys.serveAll_append, HeldKeys.lookup_poll ascending,
      HeldKeys.hold_serveAll] at held
    split at held
    · rename_i reported
      exact ⟨last, [], ⟨polls, rfl, reported, by simp⟩, Option.some.inj held, by simp⟩
    · rename_i silent
      obtain ⟨held, before⟩ := Option.filter_eq_some_iff.mp held
      obtain ⟨poll, later, ⟨earlier, split, reported, none⟩, deadline, lasts⟩ := ih held
      refine ⟨poll, later ++ [last], ⟨earlier, by simp [split], reported, ?_⟩, deadline, ?_⟩
      · simpa [or_imp, forall_and] using ⟨none, silent⟩
      · simpa [or_imp, forall_and] using ⟨lasts, of_decide_eq_true before⟩

end Keyboard

end Chip8Console
