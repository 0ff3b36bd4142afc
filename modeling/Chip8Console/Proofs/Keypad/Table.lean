import Chip8Console.Keypad.Router

/-! # The table of keys

Installing a list of mappings replaces the table by one in which each key has the line of its first
mapping (`Router.lookup_install`).
-/

namespace Chip8Console

namespace KeyMapping

/-- The line of the first mapping of a key. -/
def lineOf? (mappings : List KeyMapping) (key : HostKey) : Option KeyLine :=
  (mappings.find? (·.key = key)).map (·.line)

theorem lineOf?_cons (m : KeyMapping) (mappings : List KeyMapping) (key : HostKey) :
    lineOf? (m :: mappings) key = (if m.key = key then some m.line else none).or (lineOf? mappings key) := by
  by_cases same : m.key = key <;> simp [lineOf?, same]

end KeyMapping

namespace Router

/-- A mapping counts only for its own key, and only if that was not mapped before. -/
theorem lookup_add (r : Router) (m : KeyMapping) (key : HostKey) :
    (r.add m).1.lookup key = (r.lookup key).or (if m.key = key then some m.line else none) := by
  unfold add
  cases mapped : r.lookup m.key with
  | some line =>
    by_cases same : m.key = key
    · subst same
      simp [mapped]
    · simp [same]
  | none =>
    have entry : List.lookup key [(m.key, m.line)] = if m.key = key then some m.line else none := by
      by_cases same : key = m.key
      · simp [same]
      · simp [List.lookup_cons, beq_false_of_ne same, Ne.symm same]
    simp [lookup, List.lookup_append, entry]

theorem lookup_addAll (r : Router) (mappings : List KeyMapping) (key : HostKey) :
    (r.addAll mappings).1.lookup key = (r.lookup key).or (KeyMapping.lineOf? mappings key) := by
  induction mappings generalizing r with
  | nil => simp [addAll, KeyMapping.lineOf?]
  | cons m mappings ih =>
    rw [KeyMapping.lineOf?_cons, ← Option.or_assoc, ← lookup_add]
    exact ih (r.add m).1

theorem lookup_install (r : Router) (mappings : List KeyMapping) (key : HostKey) :
    (r.install mappings).1.lookup key = KeyMapping.lineOf? mappings key := by
  rw [install, lookup_addAll]
  rfl

end Router

end Chip8Console
