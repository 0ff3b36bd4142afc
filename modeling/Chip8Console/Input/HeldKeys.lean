import Chip8Console.Input.Event

/-!
# Held keys

Terminals report that a key is pressed, and report it again while it is held, but not that it is let go.  So a key
counts as let go once it has not been reported for a while.

The held keys are kept in ascending order of their codes, each with the time at which it runs out; those that run
out together come up in that order.
-/

namespace Chip8Console

/-- The keys that count as held.  Times are in nanoseconds. -/
structure HeldKeys where
  /-- How long a key counts as held after it was last reported. -/
  hold : Nat
  /-- The held keys in ascending order, with the times at which they run out. -/
  deadlines : List (HostKey × Nat) := []

namespace HeldKeys

/-- Sets the time of a key, in its place by code. -/
def setDeadline (key : HostKey) (time : Nat) : List (HostKey × Nat) → List (HostKey × Nat)
  | [] => [(key, time)]
  | (other, otherTime) :: rest =>
    if key.code < other.code then (key, time) :: (other, otherTime) :: rest
    else if key = other then (key, time) :: rest
    else (other, otherTime) :: setDeadline key time rest

/-- A key is reported.  Repeats are edges too, and put off the time at which the key runs out. -/
def press (h : HeldKeys) (key : HostKey) (now : Nat) : HeldKeys × KeyEdge :=
  ({ h with deadlines := setDeadline key (now + h.hold) h.deadlines }, .down key)

def expire (h : HeldKeys) (now : Nat) : HeldKeys × List KeyEdge :=
  let (ended, held) := h.deadlines.partition (·.2 ≤ now)
  ({ h with deadlines := held }, ended.map (.up ·.1))

def isHeld (h : HeldKeys) (key : HostKey) : Bool :=
  (h.deadlines.lookup key).isSome

theorem lookup_entry (key other : HostKey) (time : Nat) (held : List (HostKey × Nat)) :
    ((key, time) :: held).lookup other = if other = key then some time else held.lookup other := by
  rw [List.lookup_cons]
  by_cases h : other = key
  · simp [h]
  · have : (other == key) = false := by simpa using h
    simp [h, this]

theorem lookup_setDeadline (key other : HostKey) (time : Nat) (held : List (HostKey × Nat)) :
    (setDeadline key time held).lookup other =
      if other = key then some time else held.lookup other := by
  induction held with
  | nil => simp only [setDeadline, lookup_entry]
  | cons entry rest ih =>
    obtain ⟨first, firstTime⟩ := entry
    rw [setDeadline, lookup_entry]
    split
    · rw [lookup_entry, lookup_entry]
    · split
      · next same =>
        subst same
        rw [lookup_entry]
        split <;> rfl
      · rw [lookup_entry, ih]
        grind

/-- After a report, the key is held, and no other key has changed. -/
@[simp] theorem isHeld_press (h : HeldKeys) (key other : HostKey) (now : Nat) :
    (h.press key now).1.isHeld other = (other = key || h.isHeld other) := by
  simp only [isHeld, press, lookup_setDeadline]
  by_cases e : other = key <;> simp [e]

end HeldKeys

end Chip8Console
