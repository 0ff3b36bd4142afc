import Chip8Console.Input.HeldKeys
import Mathlib.Data.List.Induction
import Mathlib.Data.List.Sort

/-! # Keys that are let go

A key that is reported goes down, again and again, and comes up once when it has not been reported for a while.
So what happens to one key is a word of strokes, each of them some downs and an up, and then perhaps some downs of a
stroke that has not ended.  The held keys are those with a report that has not been answered by an up, and their
deadlines say when it was made (`InOrder`).
-/

namespace Chip8Console

/-- A key is reported, or the host looks which keys have run out. -/
inductive KeyRequest where
  | press (key : HostKey) (now : Nat)
  | expire (now : Nat)

/-- Reports of other keys do not concern a key. -/
def KeyRequest.concerns (key : HostKey) : KeyRequest → Bool
  | .press other _ => other = key
  | .expire _ => true

namespace HeldKeys

/-! ## The deadlines -/

/-- Deadlines are in ascending order of their keys, so each key has at most one. -/
abbrev Ascending (held : List (HostKey × Nat)) : Prop :=
  held.Pairwise (·.1.code < ·.1.code)

theorem code_lt {key other : HostKey} (notBefore : ¬key.code < other.code) (distinct : key ≠ other) :
    other.code < key.code := by
  refine UInt32.lt_of_le_of_ne (UInt32.not_lt.mp notBefore) fun same => distinct ?_
  cases key
  cases other
  exact congrArg _ same.symm

theorem mem_setDeadline {key : HostKey} {time : Nat} {held : List (HostKey × Nat)} {entry : HostKey × Nat}
    (among : entry ∈ setDeadline key time held) : entry = (key, time) ∨ entry ∈ held := by
  induction held with
  | nil => simpa [setDeadline] using among
  | cons first rest ih =>
    obtain ⟨other, otherTime⟩ := first
    rw [setDeadline] at among
    split at among
    · simpa using among
    · split at among
      · rcases List.mem_cons.mp among with same | later
        · exact .inl same
        · exact .inr (List.mem_cons_of_mem _ later)
      · rcases List.mem_cons.mp among with same | later
        · exact .inr (same ▸ List.mem_cons_self)
        · exact (ih later).imp_right (List.mem_cons_of_mem _)

theorem ascending_setDeadline (key : HostKey) (time : Nat) {held : List (HostKey × Nat)} (ascending : Ascending held) :
    Ascending (setDeadline key time held) := by
  induction held with
  | nil => simp [setDeadline, Ascending]
  | cons first rest ih =>
    obtain ⟨other, otherTime⟩ := first
    obtain ⟨least, later⟩ := List.pairwise_cons.mp ascending
    rw [setDeadline]
    split
    · refine List.pairwise_cons.mpr ⟨fun entry among => ?_, ascending⟩
      rcases List.mem_cons.mp among with rfl | among
      · assumption
      · exact UInt32.lt_trans ‹_› (least entry among)
    · split
      · subst key
        exact List.pairwise_cons.mpr ⟨least, later⟩
      · refine List.pairwise_cons.mpr ⟨fun entry among => ?_, ih later⟩
        rcases mem_setDeadline among with rfl | among
        · exact code_lt ‹_› ‹_›
        · exact least entry among

theorem lookup_eq_none {held : List (HostKey × Nat)} {key : HostKey} (beyond : ∀ entry ∈ held, key.code < entry.1.code) :
    held.lookup key = none := by
  rw [List.lookup_eq_none_iff]
  intro entry among
  have other : key ≠ entry.1 := fun same => absurd (beyond entry among) (same ▸ UInt32.lt_irrefl _)
  simpa using other

/-- Of ascending deadlines, those that are picked by time are looked up as before. -/
theorem lookup_filter {held : List (HostKey × Nat)} (ascending : Ascending held) (p : Nat → Bool) (key : HostKey) :
    (held.filter (p ·.2)).lookup key = (held.lookup key).filter p := by
  induction held with
  | nil => rfl
  | cons first rest ih =>
    obtain ⟨other, time⟩ := first
    obtain ⟨least, later⟩ := List.pairwise_cons.mp ascending
    have once : key = other → rest.lookup key = none := fun same => lookup_eq_none (same ▸ least)
    rw [List.filter_cons, lookup_entry]
    cases picked : p time with
    | true =>
      rw [if_pos rfl, lookup_entry, ih later]
      split
      · simp [Option.filter, picked]
      · rfl
    | false =>
      rw [if_neg Bool.false_ne_true, ih later]
      split
      · rw [once ‹_›]
        simp [Option.filter, picked]
      · rfl

theorem filter_ups {held : List (HostKey × Nat)} (ascending : Ascending held) (key : HostKey) :
    (held.map (KeyEdge.up ·.1)).filter (·.key = key) = (held.lookup key).toList.map fun _ => .up key := by
  induction held with
  | nil => rfl
  | cons first rest ih =>
    obtain ⟨other, time⟩ := first
    obtain ⟨least, later⟩ := List.pairwise_cons.mp ascending
    rw [List.map_cons, List.filter_cons, lookup_entry, ih later]
    by_cases same : key = other
    · subst same
      simp [KeyEdge.key, lookup_eq_none least]
    · simp [KeyEdge.key, same, Ne.symm same]

/-! ## What a request does to one key -/

def serve (h : HeldKeys) : KeyRequest → HeldKeys × List KeyEdge
  | .press key now => ((h.press key now).1, [(h.press key now).2])
  | .expire now => h.expire now

theorem expire_eq (h : HeldKeys) (now : Nat) :
    h.expire now = ({ h with deadlines := h.deadlines.filter (now < ·.2) },
      (h.deadlines.filter (·.2 ≤ now)).map (.up ·.1)) := by
  have held : (not ∘ fun entry : HostKey × Nat => decide (entry.2 ≤ now)) = fun entry => decide (now < entry.2) := by
    funext entry
    simp only [Function.comp_apply, ← decide_not, Nat.not_le]
  simp only [expire, List.partition_eq_filter_filter, held]

@[simp] theorem hold_serve (h : HeldKeys) (request : KeyRequest) : (h.serve request).1.hold = h.hold := by
  cases request <;> rfl

theorem ascending_serve {h : HeldKeys} (ascending : Ascending h.deadlines) (request : KeyRequest) :
    Ascending (h.serve request).1.deadlines := by
  cases request with
  | press key now => exact ascending_setDeadline _ _ ascending
  | expire now =>
    rw [serve, expire_eq]
    exact ascending.filter _

/-- When one key runs out, and its edges. -/
def serveKey (hold : Nat) (key : HostKey) (deadline : Option Nat) : KeyRequest → Option Nat × List KeyEdge
  | .press other now => if other = key then (some (now + hold), [.down key]) else (deadline, [])
  | .expire now => (deadline.filter (now < ·), (deadline.filter (· ≤ now)).toList.map fun _ => .up key)

/-- Each key is served as if there were no others. -/
theorem serve_key {h : HeldKeys} (ascending : Ascending h.deadlines) (key : HostKey) (request : KeyRequest) :
    ((h.serve request).1.deadlines.lookup key, (h.serve request).2.filter (·.key = key)) =
      serveKey h.hold key (h.deadlines.lookup key) request := by
  cases request with
  | press other now =>
    simp only [serve, press, lookup_setDeadline, serveKey]
    by_cases same : other = key
    · simp [same, KeyEdge.key]
    · simp [same, Ne.symm same, KeyEdge.key]
  | expire now =>
    rw [serve, expire_eq]
    refine Prod.ext (lookup_filter ascending (now < ·) key) ?_
    refine (filter_ups (ascending.filter _) key).trans ?_
    rw [lookup_filter ascending (· ≤ now) key]
    rfl

theorem up_mem_serve {h : HeldKeys} (ascending : Ascending h.deadlines) {key : HostKey} {now : Nat} :
    .up key ∈ (h.serve (.expire now)).2 ↔ ∃ time, h.deadlines.lookup key = some time ∧ time ≤ now := by
  have own : .up key ∈ (h.serve (.expire now)).2 ↔
      .up key ∈ (h.serve (.expire now)).2.filter (·.key = key) := by simp [KeyEdge.key]
  rw [own, (Prod.mk.inj (serve_key ascending key (.expire now))).2]
  simp

/-! ## Runs -/

/-- Takes one request after the other. -/
def serveAll (h : HeldKeys) (requests : List KeyRequest) : HeldKeys :=
  requests.foldl (fun h request => (h.serve request).1) h

/-- All edges of a run, in order. -/
def edges (h : HeldKeys) : List KeyRequest → List KeyEdge
  | [] => []
  | request :: requests => (h.serve request).2 ++ (h.serve request).1.edges requests

@[simp] theorem serveAll_concat (h : HeldKeys) (requests : List KeyRequest) (request : KeyRequest) :
    h.serveAll (requests ++ [request]) = ((h.serveAll requests).serve request).1 := by
  simp [serveAll]

theorem serveAll_append (h : HeldKeys) (requests more : List KeyRequest) :
    h.serveAll (requests ++ more) = (h.serveAll requests).serveAll more :=
  List.foldl_append

theorem edges_concat (h : HeldKeys) (requests : List KeyRequest) (request : KeyRequest) :
    h.edges (requests ++ [request]) = h.edges requests ++ ((h.serveAll requests).serve request).2 := by
  induction requests generalizing h with
  | nil => simp [edges, serveAll]
  | cons first requests ih =>
    rw [List.cons_append, edges, edges, ih, List.append_assoc]
    rfl

@[simp] theorem hold_serveAll (h : HeldKeys) (requests : List KeyRequest) : (h.serveAll requests).hold = h.hold := by
  induction requests using List.reverseRecOn with
  | nil => rfl
  | append_singleton requests request ih => rw [serveAll_concat, hold_serve, ih]

theorem ascending_serveAll {h : HeldKeys} (ascending : Ascending h.deadlines) (requests : List KeyRequest) :
    Ascending (h.serveAll requests).deadlines := by
  induction requests using List.reverseRecOn with
  | nil => exact ascending
  | append_singleton requests request ih =>
    rw [serveAll_concat]
    exact ascending_serve ih request

/-- What is asked about other keys makes no difference to a key. -/
theorem filter_edges {h h' : HeldKeys} (ascending : Ascending h.deadlines) (ascending' : Ascending h'.deadlines)
    (hold : h.hold = h'.hold) {key : HostKey} (same : h.deadlines.lookup key = h'.deadlines.lookup key)
    (requests : List KeyRequest) :
    (h.edges requests).filter (·.key = key) =
      (h'.edges (requests.filter (·.concerns key))).filter (·.key = key) := by
  induction requests generalizing h h' with
  | nil => rfl
  | cons request requests ih =>
    obtain ⟨lookup, served⟩ := Prod.mk.inj (serve_key ascending key request)
    obtain ⟨lookup', served'⟩ := Prod.mk.inj (serve_key ascending' key request)
    rw [edges, List.filter_append, served]
    cases concerns : request.concerns key with
    | true =>
      rw [List.filter_cons_of_pos concerns, edges, List.filter_append, served', hold, same]
      congr 1
      refine ih (ascending_serve ascending _) (ascending_serve ascending' _) (by simp [hold]) ?_
      rw [lookup, lookup', hold, same]
    | false =>
      rw [List.filter_cons_of_neg (by simp [concerns])]
      -- Another key was reported, which this one does not notice.
      obtain ⟨other, now, rfl⟩ : ∃ other now, request = .press other now := by
        cases request with
        | press other now => exact ⟨other, now, rfl⟩
        | expire now => cases concerns
      have apart : other ≠ key := of_decide_eq_false concerns
      simp only [if_neg apart, List.nil_append] at lookup ⊢
      exact ih (ascending_serve ascending _) ascending' (by simp [hold]) (lookup.trans same)

/-! ## The strokes of a key -/

/-- A key that goes down, is reported some more times, and comes up. -/
def stroke (key : HostKey) (repeats : Nat) : List KeyEdge :=
  List.replicate (repeats + 1) (.down key) ++ [.up key]

theorem strokes_of_run {h : HeldKeys} (fresh : h.deadlines = []) (key : HostKey) (requests : List KeyRequest) :
    ∃ (strokes : List Nat) (rest : Nat), (h.edges requests).filter (·.key = key) =
        strokes.flatMap (stroke key) ++ List.replicate rest (.down key) ∧
      (rest = 0 ↔ (h.serveAll requests).deadlines.lookup key = none) := by
  have ascending := ascending_serveAll (h := h) (by rw [fresh]; exact .nil)
  induction requests using List.reverseRecOn with
  | nil => exact ⟨[], 0, by simp [edges], by simp [serveAll, fresh]⟩
  | append_singleton requests request ih =>
    obtain ⟨strokes, rest, word, held⟩ := ih
    obtain ⟨lookup, served⟩ := Prod.mk.inj (serve_key (ascending requests) key request)
    rw [edges_concat, List.filter_append, word, served, serveAll_concat, lookup]
    -- A report makes the stroke longer, and the end of the key's time completes it.
    cases request with
    | press other now =>
      by_cases same : other = key
      · exact ⟨strokes, rest + 1, by simp [same, List.replicate_succ'], by simp [same]⟩
      · exact ⟨strokes, rest, by simp [same], by simpa [serveKey, same] using held⟩
    | expire now =>
      cases deadline : (h.serveAll requests).deadlines.lookup key with
      | none => exact ⟨strokes, rest, by simp, by simpa [serveKey, deadline] using held⟩
      | some time =>
        by_cases late : time ≤ now
        · obtain ⟨repeats, rfl⟩ : ∃ repeats, rest = repeats + 1 :=
            Nat.exists_eq_succ_of_ne_zero fun zero => by simp [held.mp zero] at deadline
          refine ⟨strokes ++ [repeats], 0, ?_, ?_⟩
          · simp [Option.filter, late, stroke]
          · simp [Option.filter, Nat.not_lt.mpr late]
        · refine ⟨strokes, rest, ?_, ?_⟩
          · simp [Option.filter, late]
          · simpa [serveKey, Option.filter, Nat.lt_of_not_le late, deadline] using held

/-! ## Reports that have not been answered -/

/-- This is the last report of a key, and the key has not come up since. -/
def Unanswered (h : HeldKeys) (requests : List KeyRequest) (key : HostKey) (pressed : Nat) : Prop :=
  ∃ before after, requests = before ++ .press key pressed :: after ∧ (∀ now, .press key now ∉ after) ∧
    .up key ∉ (h.serveAll (before ++ [.press key pressed])).edges after

theorem unanswered_concat {h : HeldKeys} {requests : List KeyRequest} {request : KeyRequest} {key : HostKey}
    {pressed : Nat} :
    h.Unanswered (requests ++ [request]) key pressed ↔ request = .press key pressed ∨
      h.Unanswered requests key pressed ∧ (∀ now, request ≠ .press key now) ∧
        .up key ∉ ((h.serveAll requests).serve request).2 := by
  constructor
  · rintro ⟨before, after, split, last, down⟩
    rcases List.eq_nil_or_concat' after with rfl | ⟨after, final, rfl⟩
    · exact .inl (List.append_inj' split rfl |>.2 |> List.singleton_inj.mp)
    · rw [← List.cons_append, ← List.append_assoc] at split
      obtain ⟨rfl, same⟩ := List.append_inj' split rfl
      obtain rfl : request = final := List.singleton_inj.mp same
      rw [edges_concat, List.mem_append, not_or, ← serveAll_append, ← List.append_cons] at down
      refine .inr ⟨⟨before, after, rfl, fun now early => last now (List.mem_append_left _ early), down.1⟩,
        fun now pressed => last now (pressed ▸ List.mem_concat_self), down.2⟩
  · rintro (rfl | ⟨⟨before, after, rfl, last, down⟩, other, still⟩)
    · exact ⟨requests, [], rfl, by simp, by simp [edges]⟩
    · refine ⟨before, after ++ [request], by simp, fun now => ?_, ?_⟩
      · simpa using ⟨last now, Ne.symm (other now)⟩
      · rw [List.append_cons, serveAll_append] at still
        rw [edges_concat, List.mem_append, not_or]
        exact ⟨down, still⟩

/-- A key runs out when its last report has been unanswered for long enough. -/
theorem lookup_eq_some_iff {h : HeldKeys} (fresh : h.deadlines = []) (requests : List KeyRequest) (key : HostKey)
    (time : Nat) :
    (h.serveAll requests).deadlines.lookup key = some time ↔
      ∃ pressed, h.Unanswered requests key pressed ∧ pressed + h.hold = time := by
  have ascending := ascending_serveAll (h := h) (by rw [fresh]; exact .nil)
  induction requests using List.reverseRecOn with
  | nil => simp [serveAll, fresh, Unanswered]
  | append_singleton requests request ih =>
    obtain ⟨lookup, served⟩ := Prod.mk.inj (serve_key (ascending requests) key request)
    rw [serveAll_concat, lookup]
    simp only [unanswered_concat]
    cases request with
    | press other now =>
      by_cases same : other = key
      · simp [same]
      · simpa [serveKey, serve, press, same] using ih
    | expire now =>
      simp only [Option.filter_eq_some_iff, decide_eq_true_eq, reduceCtorEq, false_or, ne_eq, not_false_eq_true,
        implies_true, true_and, up_mem_serve (ascending requests)]
      constructor
      · rintro ⟨due, notYet⟩
        obtain ⟨pressed, unanswered, rfl⟩ := ih.mp due
        refine ⟨pressed, ⟨unanswered, ?_⟩, rfl⟩
        rintro ⟨time, due', late⟩
        obtain rfl : pressed + h.hold = time := Option.some.inj (due.symm.trans due')
        omega
      · rintro ⟨pressed, ⟨unanswered, still⟩, rfl⟩
        have due := ih.mpr ⟨pressed, unanswered, rfl⟩
        exact ⟨due, Nat.lt_of_not_le fun late => still ⟨_, due, late⟩⟩

theorem up_mem_expire {h : HeldKeys} (fresh : h.deadlines = []) (requests : List KeyRequest) (key : HostKey) (now : Nat) :
    .up key ∈ ((h.serveAll requests).expire now).2 ↔
      ∃ pressed, h.Unanswered requests key pressed ∧ pressed + h.hold ≤ now := by
  have ascending := ascending_serveAll (h := h) (by rw [fresh]; exact .nil) requests
  refine (up_mem_serve ascending).trans ?_
  simp only [lookup_eq_some_iff fresh requests key]
  constructor
  · rintro ⟨_, ⟨pressed, unanswered, rfl⟩, late⟩
    exact ⟨pressed, unanswered, late⟩
  · rintro ⟨pressed, unanswered, late⟩
    exact ⟨_, ⟨pressed, unanswered, rfl⟩, late⟩

theorem isHeld_iff {h : HeldKeys} (fresh : h.deadlines = []) (requests : List KeyRequest) (key : HostKey) :
    (h.serveAll requests).isHeld key ↔ ∃ pressed, h.Unanswered requests key pressed := by
  rw [isHeld, Option.isSome_iff_exists]
  simp only [lookup_eq_some_iff fresh requests key]
  constructor
  · rintro ⟨_, pressed, unanswered, -⟩
    exact ⟨pressed, unanswered⟩
  · rintro ⟨pressed, unanswered⟩
    exact ⟨_, pressed, unanswered, rfl⟩

/-! ## Keys that run out together -/

/-- They come up in ascending order. -/
theorem ascending_ups {h : HeldKeys} (ascending : Ascending h.deadlines) (now : Nat) :
    (h.expire now).2.Pairwise (·.key.code < ·.key.code) ∧ ∀ edge ∈ (h.expire now).2, ∃ key, edge = .up key := by
  rw [expire_eq]
  refine ⟨List.pairwise_map.mpr (ascending.filter _), fun edge among => ?_⟩
  obtain ⟨entry, -, rfl⟩ := List.mem_map.mp among
  exact ⟨entry.1, rfl⟩

theorem count_up_le_one {h : HeldKeys} (ascending : Ascending h.deadlines) (now : Nat) (key : HostKey) :
    (h.expire now).2.count (.up key) ≤ 1 := by
  have once : (h.expire now).2.Nodup := by
    refine (ascending_ups ascending now).1.imp ?_
    rintro edge _ before rfl
    exact UInt32.lt_irrefl _ before
  exact List.nodup_iff_count_le_one.mp once _

/-- In ascending order, all that matters is which keys they are. -/
theorem ups_eq {h h' : HeldKeys} (ascending : Ascending h.deadlines) (ascending' : Ascending h'.deadlines) {now : Nat}
    (same : ∀ key, .up key ∈ (h.expire now).2 ↔ .up key ∈ (h'.expire now).2) :
    (h.expire now).2 = (h'.expire now).2 := by
  obtain ⟨order, ups⟩ := ascending_ups ascending now
  obtain ⟨order', ups'⟩ := ascending_ups ascending' now
  have irreflexive : Std.Irrefl fun a b : KeyEdge => a.key.code < b.key.code := ⟨fun _ => UInt32.lt_irrefl _⟩
  have antisymmetric : Std.Antisymm fun a b : KeyEdge => a.key.code < b.key.code :=
    ⟨fun _ _ before after => absurd (UInt32.lt_trans before after) (UInt32.lt_irrefl _)⟩
  refine order.eq_of_mem_iff order' fun edge => ⟨fun among => ?_, fun among => ?_⟩
  · obtain ⟨key, rfl⟩ := ups edge among
    exact (same key).mp among
  · obtain ⟨key, rfl⟩ := ups' edge among
    exact (same key).mpr among

end HeldKeys

open HeldKeys (stroke)

/-- What becomes of the keys, whatever is reported and whenever the host looks. -/
theorem held_keys_let_go (hold : Nat) (requests : List KeyRequest) :
    let fresh : HeldKeys := { hold }
    let h := fresh.serveAll requests
    -- The edges of a key are strokes, and perhaps one that has not ended.
    (∀ key, ∃ (strokes : List Nat) (rest : Nat), (fresh.edges requests).filter (·.key = key) =
      strokes.flatMap (stroke key) ++ List.replicate rest (.down key)) ∧
    (∀ key now, (h.press key now).2 = .down key) ∧
    -- A key comes up when its last report has been unanswered for long enough, and only once.
    (∀ key now, (h.expire now).2.count (.up key) ≤ 1 ∧ (.up key ∈ (h.expire now).2 ↔
      ∃ pressed, fresh.Unanswered requests key pressed ∧ pressed + hold ≤ now)) ∧
    (∀ key, h.isHeld key ↔ ∃ pressed, fresh.Unanswered requests key pressed) ∧
    (∀ now, (h.expire now).2.Pairwise (·.key.code < ·.key.code) ∧ ∀ edge ∈ (h.expire now).2, ∃ key, edge = .up key) ∧
    -- It does not matter in which order the keys were reported.
    (∀ requests', (∀ key pressed, fresh.Unanswered requests key pressed ↔ fresh.Unanswered requests' key pressed) →
      ∀ now, (h.expire now).2 = ((fresh.serveAll requests').expire now).2) ∧
    ∀ key, (fresh.edges requests).filter (·.key = key) =
      (fresh.edges (requests.filter (·.concerns key))).filter (·.key = key) := by
  intro fresh h
  have ascending (requests : List KeyRequest) : HeldKeys.Ascending (fresh.serveAll requests).deadlines :=
    HeldKeys.ascending_serveAll .nil requests
  have comes := HeldKeys.up_mem_expire (h := fresh) rfl
  refine ⟨fun key => ?_, fun key now => rfl, fun key now => ⟨?_, comes requests key now⟩, fun key => ?_, ?_, ?_, ?_⟩
  · obtain ⟨strokes, rest, word, -⟩ := HeldKeys.strokes_of_run (h := fresh) rfl key requests
    exact ⟨strokes, rest, word⟩
  · exact HeldKeys.count_up_le_one (ascending requests) now key
  · exact HeldKeys.isHeld_iff (h := fresh) rfl requests key
  · exact HeldKeys.ascending_ups (ascending requests)
  · intro requests' same now
    refine HeldKeys.ups_eq (ascending requests) (ascending requests') fun key => ?_
    rw [comes, comes]
    simp only [same]
  · intro key
    exact HeldKeys.filter_edges .nil .nil rfl rfl requests

end Chip8Console
