import Chip8Console.Proofs.Deeds
import Chip8Console.Proofs.Keypad.Table
import Mathlib.Data.Finset.Card
import Mathlib.Data.List.Induction

/-! # Installing a table

Whatever was installed before, a new table has for each key the line of its first mapping, and nothing else
(`installed_first_wins`).  Each later mapping of a key is reported, in the order of the list, and so there are as
many reports as there are mappings more than keys.

Both follow from what one more mapping at the end of a list does: it is the first one of its key and is added, or it is
one of the `repeats` and is reported.
-/

namespace Chip8Console

namespace KeyMapping

/-- The mappings that come after another one of the same key. -/
def repeats (mappings : List KeyMapping) : List KeyMapping :=
  (mappings.zipIdx.filter fun (m, place) => (mappings.take place).any (·.key = m.key)).map (·.1)

/-- The keys that are mapped. -/
def keys (mappings : List KeyMapping) : Finset HostKey :=
  (mappings.map (·.key)).toFinset

/-- The report on a mapping that comes after another one of the same key: it names the line that the key keeps and the
one that it does not get. -/
def Reports (mappings : List KeyMapping) (m : KeyMapping) (notice : Notice) : Prop :=
  ∃ kept, lineOf? mappings m.key = some kept ∧ notice = .duplicateKey m.key kept m.line m.description

variable {mappings : List KeyMapping}

theorem mem_keys {key : HostKey} : key ∈ keys mappings ↔ (lineOf? mappings key).isSome := by
  simp [keys, lineOf?]

theorem keys_concat (m : KeyMapping) : keys (mappings ++ [m]) = insert m.key (keys mappings) := by
  ext key
  simp [keys]

theorem repeats_concat (m : KeyMapping) :
    repeats (mappings ++ [m]) = repeats mappings ++ if m.key ∈ keys mappings then [m] else [] := by
  -- What comes in front of an earlier mapping is not changed by one at the end.
  have before : (mappings.zipIdx.filter fun (n, place) => ((mappings ++ [m]).take place).any (·.key = n.key)) =
      mappings.zipIdx.filter fun (n, place) => (mappings.take place).any (·.key = n.key) := by
    apply List.filter_congr
    rintro ⟨n, place⟩ among
    have inside : place < mappings.length := by
      have := List.snd_lt_of_mem_zipIdx among
      omega
    simp only [List.take_append_of_le_length inside.le]
  simp only [repeats, List.zipIdx_append, List.filter_append, before, List.map_append]
  by_cases known : m.key ∈ keys mappings
  · have earlier : ∃ n ∈ mappings, n.key = m.key := by simpa [keys] using known
    simp [known, earlier]
  · have earlier : ¬∃ n ∈ mappings, n.key = m.key := by simpa [keys] using known
    simp [known, earlier]

/-- Every mapping is the first of its key or comes after it. -/
theorem length_repeats (mappings : List KeyMapping) :
    (repeats mappings).length + (keys mappings).card = mappings.length := by
  induction mappings using List.reverseRecOn with
  | nil => rfl
  | append_singleton mappings m ih =>
    rw [repeats_concat, keys_concat, List.length_append, List.length_append, List.length_singleton, ← ih]
    by_cases known : m.key ∈ keys mappings
    · rw [if_pos known, Finset.insert_eq_of_mem known, List.length_singleton]
      omega
    · rw [if_neg known, Finset.card_insert_of_notMem known, List.length_nil]
      omega

/-- The first mapping of a key stays the first one, whatever comes after it. -/
theorem Reports.concat {m : KeyMapping} {notice : Notice} (reports : Reports mappings m notice) (later : KeyMapping) :
    Reports (mappings ++ [later]) m notice := by
  obtain ⟨kept, first, named⟩ := reports
  refine ⟨kept, ?_, named⟩
  simp only [lineOf?, List.find?_append, Option.map_or] at first ⊢
  rw [first, Option.some_or]

end KeyMapping

open KeyMapping (lineOf? Reports repeats keys)

namespace Router

/-! ## The reports -/

theorem addAll_concat (r : Router) (mappings : List KeyMapping) (m : KeyMapping) :
    r.addAll (mappings ++ [m]) =
      (((r.addAll mappings).1.add m).1, (r.addAll mappings).2 ++ ((r.addAll mappings).1.add m).2.toList) := by
  induction mappings generalizing r with
  | nil => simp [addAll]
  | cons first mappings ih => simp only [List.cons_append, addAll, ih, List.append_assoc]

/-- The mappings that are reported are those that come after another one of their key. -/
theorem reports_install (r : Router) (mappings : List KeyMapping) :
    List.Forall₂ (Reports mappings) (repeats mappings) (r.install mappings).2 := by
  induction mappings using List.reverseRecOn with
  | nil => exact .nil
  | append_singleton mappings m ih =>
    have before : List.Forall₂ (Reports (mappings ++ [m])) (repeats mappings) (r.install mappings).2 :=
      ih.imp fun _ _ reports => reports.concat m
    have mapped : (r.clear.addAll mappings).1.lookup m.key = lineOf? mappings m.key := r.lookup_install mappings m.key
    rw [KeyMapping.repeats_concat, install, addAll_concat]
    refine List.rel_append before ?_
    cases first : lineOf? mappings m.key with
    | none =>
      have new : m.key ∉ keys mappings := by simp [KeyMapping.mem_keys, first]
      rw [if_neg new, add, mapped, first]
      exact .nil
    | some kept =>
      have known : m.key ∈ keys mappings := by simp [KeyMapping.mem_keys, first]
      have reports : Reports mappings m (.duplicateKey m.key kept m.line m.description) := ⟨kept, first, rfl⟩
      rw [if_pos known, add, mapped, first]
      exact .cons (reports.concat m) .nil

/-! ## The edges of a key -/

/-- An edge of a key that is mapped to `line?` has been passed on to the machine, by one call and no more, or ignored if
the key is not mapped.  The answer says which. -/
structure PassesOn {σ : Type} (line? : Option KeyLine) (call : UInt8 → Call) (act : σ → UInt8 → σ) (before : Rig σ)
    (after : Rig σ × Bool) : Prop where
  entries : after.1.journal.toList = before.journal.toList ++ (line?.map fun line => .call (call line.number)).toList
  machine : after.1.machine = line?.elim before.machine fun line => act before.machine line.number
  fetches : after.1.fetches = before.fetches
  answer : after.2 = line?.isSome

variable {σ : Type} [Machine σ]

theorem passesOn_keyDown (r : Router) (key : HostKey) (rig : Rig σ) :
    PassesOn (r.lookup key) .press Machine.press rig (r.keyDown key rig) := by
  unfold keyDown
  cases r.lookup key with
  | none => exact ⟨(List.append_nil _).symm, rfl, rfl, rfl⟩
  | some line => exact ⟨Array.toList_push, rfl, rfl, rfl⟩

theorem passesOn_keyUp (r : Router) (key : HostKey) (rig : Rig σ) :
    PassesOn (r.lookup key) .release Machine.release rig (r.keyUp key rig) := by
  unfold keyUp
  cases r.lookup key with
  | none => exact ⟨(List.append_nil _).symm, rfl, rfl, rfl⟩
  | some line => exact ⟨Array.toList_push, rfl, rfl, rfl⟩

end Router

/-- A table that is installed has each key on the line of its first mapping, whatever was installed before; the other
mappings are reported one by one, and the edges of a key go to its line. -/
theorem installed_first_wins {σ : Type} [Machine σ] (r : Router) (mappings : List KeyMapping) :
    let installed := (r.install mappings).1
    let reports := (r.install mappings).2
    (∀ key, installed.lookup key = lineOf? mappings key) ∧
    (∀ other : Router, other.install mappings = r.install mappings) ∧
    reports.length + (keys mappings).card = mappings.length ∧
    List.Forall₂ (Reports mappings) (repeats mappings) reports ∧
    ∀ (key : HostKey) (rig : Rig σ),
      Router.PassesOn (lineOf? mappings key) .press Machine.press rig (installed.keyDown key rig) ∧
      Router.PassesOn (lineOf? mappings key) .release Machine.release rig (installed.keyUp key rig) := by
  intro installed reports
  have reported := r.reports_install mappings
  refine ⟨r.lookup_install mappings, fun _ => rfl, ?_, reported, fun key rig => ?_⟩
  · rw [← reported.length_eq]
    exact KeyMapping.length_repeats mappings
  · rw [← r.lookup_install mappings key]
    exact ⟨installed.passesOn_keyDown key rig, installed.passesOn_keyUp key rig⟩

end Chip8Console
