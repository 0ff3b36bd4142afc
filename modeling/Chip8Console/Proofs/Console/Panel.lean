import Chip8Console.Machine.Puppet
import Chip8Console.Proofs.Console.History
import Chip8Console.Proofs.Keypad.Table

/-! # In step with the loads

The label and the error are shown when a program is asked for, its keys and what they do only when it is
loaded.  `InStep` says what each of them has to be after a given history, and that the loader itself is in
order.  Every change keeps it, so it holds after every run of a console, and after every run of the loader
on its own as long as others leave the keys and the texts alone (`panel_in_step`).
-/

namespace Chip8Console

namespace Happening

variable {σ : Type}

/-- A load starts or ends. -/
def ofLoad : Happening σ → Bool
  | .sent _ | .loaded _ | .failed .. => true
  | _ => false

theorem Incidental.ofLoad_eq {happening : Happening σ} (incidental : happening.Incidental) :
    happening.ofLoad = false := by
  cases incidental <;> rfl

theorem isSent_of_ofLoad {happening : Happening σ} (none : happening.ofLoad = false) :
    happening.isSent = false := by
  cases happening <;> first | rfl | cases none

theorem loaded?_of_ofLoad {happening : Happening σ} (none : happening.ofLoad = false) :
    happening.loaded? = Option.none := by
  cases happening <;> first | rfl | cases none

def asked (history : List (Happening σ)) : Bool :=
  history.any isSent

theorem asked_append {history more : List (Happening σ)}
    (none : ∀ happening ∈ more, happening.isSent = false) : asked (history ++ more) = asked history := by
  have noMore : more.any isSent = false := List.any_eq_false.mpr fun happening among => by
    simp [none happening among]
  rw [asked, List.any_append, noMore, Bool.or_false, asked]

/-- The mappings of the program that was loaded last; before the first load there are none. -/
def installed (catalog : Catalog) (history : List (Happening σ)) : List KeyMapping :=
  ((history.filterMap loaded?).getLast?.bind catalog.get?).elim [] (·.mappings)

theorem installed_append (catalog : Catalog) {history more : List (Happening σ)}
    (none : ∀ happening ∈ more, happening.loaded? = Option.none) :
    installed catalog (history ++ more) = installed catalog history := by
  rw [installed, List.filterMap_append, List.filterMap_eq_nil_iff.mpr none, List.append_nil, installed]

theorem installed_loaded {catalog : Catalog} (history : List (Happening σ)) {index : Nat} {program : Program}
    (listed : catalog.get? index = some program) :
    installed catalog (history ++ [.loaded index]) = program.mappings := by
  simp [installed, loaded?, listed]

end Happening

open Happening (asked installed sinceSent)

namespace Session

variable {σ : Type}

/-- What a session shows, and what its keys do, is as the loads in its history have left it. -/
structure InStep (catalog : Catalog) (history : List (Happening σ)) (s : Session σ) : Prop where
  catalog_eq : s.loader.catalog = catalog
  current_lt : s.loader.current < catalog.size
  loading_iff : s.loader.state = .loading ↔ s.loader.pending.isSome
  label : s.panel.label = if asked history then s.loader.program.name else ""
  lookup : ∀ key, s.router.lookup key = KeyMapping.lineOf? (installed catalog history) key
  controls : s.panel.controls = (installed catalog history).map (·.description)
  /-- There is an error if the load that was started last has failed. -/
  error_iff : ∀ text, s.panel.error = some text ↔
    ∃ failure, .failed s.loader.current failure ∈ sinceSent history ∧ failure.message = text
  cleared : s.loader.state = .loading → s.panel.error = none

namespace InStep

variable {catalog : Catalog} {history happenings : List (Happening σ)} {s t : Session σ}

theorem program_listed (i : InStep catalog history s) :
    catalog.get? s.loader.current = some s.loader.program := by
  obtain ⟨program, listed⟩ : ∃ program, catalog.get? s.loader.current = some program :=
    ⟨_, List.getElem?_eq_getElem i.current_lt⟩
  rw [Loader.program, i.catalog_eq, Catalog.get, listed, Option.getD_some]

theorem aside {calls : List Call} (i : InStep catalog history s) (aside : s.Aside t calls) :
    InStep catalog history t := by
  refine ⟨?_, ?_, ?_, ?_, ?_, ?_, ?_, ?_⟩
  all_goals
    simp only [Loader.program, aside.loader, aside.router, aside.label, aside.controls, aside.error]
  exacts [i.catalog_eq, i.current_lt, i.loading_iff, i.label, i.lookup, i.controls, i.error_iff, i.cleared]

/-- What has to do with loads is all that counts. -/
theorem pass (i : InStep catalog history s) (none : ∀ happening ∈ happenings, happening.ofLoad = false) :
    InStep catalog (history ++ happenings) s := by
  have noSent : ∀ happening ∈ happenings, happening.isSent = false :=
    fun happening among => Happening.isSent_of_ofLoad (none happening among)
  have same : installed catalog (history ++ happenings) = installed catalog history :=
    Happening.installed_append catalog fun happening among =>
      Happening.loaded?_of_ofLoad (none happening among)
  have noFailure (index : Nat) (failure : Failure) : .failed index failure ∉ happenings :=
    fun among => nomatch none _ among
  refine ⟨i.catalog_eq, i.current_lt, i.loading_iff, ?_, by rw [same]; exact i.lookup,
    by rw [same]; exact i.controls, ?_, i.cleared⟩
  · rw [Happening.asked_append noSent]
    exact i.label
  · intro text
    simp only [sinceSent, sinceLast_append _ noSent, List.mem_append, noFailure, or_false]
    exact i.error_iff text

theorem new [Machine σ] (machine : σ) (frameRate : Float) (fetcher : Fetcher) (catalog : Catalog) :
    InStep catalog [] (Session.new machine frameRate fetcher catalog) where
  catalog_eq := rfl
  current_lt := catalog.size_pos
  loading_iff := by simp [Session.new]
  label := rfl
  lookup _ := rfl
  controls := rfl
  error_iff := by simp [Session.new, sinceSent]
  cleared := by simp [Session.new]

theorem fail (i : InStep catalog history s) {ticket : Nat} (pending : s.loader.pending = some ticket)
    (failure : Failure) :
    InStep catalog (history ++ [.failed s.loader.current failure]) ((s.close ticket).fail failure) := by
  have same : installed catalog (history ++ [.failed s.loader.current failure]) = installed catalog history :=
    Happening.installed_append catalog (by simp [Happening.loaded?])
  -- A load that is under way has not failed before.
  have first : ∀ other, .failed s.loader.current other ∉ sinceSent history := by
    intro other among
    have shown := (i.error_iff other.message).mpr ⟨other, among, rfl⟩
    rw [i.cleared (i.loading_iff.mpr (by rw [pending]; rfl))] at shown
    cases shown
  refine ⟨i.catalog_eq, i.current_lt, by simp [Session.fail, close], ?_, by rw [same]; exact i.lookup,
    by rw [same]; exact i.controls, ?_, nofun⟩
  · rw [Happening.asked_append (by simp [Happening.isSent])]
    exact i.label
  · intro text
    have since : sinceSent (history ++ [.failed s.loader.current failure]) =
        sinceSent history ++ [.failed s.loader.current failure] :=
      sinceLast_append _ (by simp [Happening.isSent])
    have current : ((s.close ticket).fail failure).loader.current = s.loader.current := rfl
    rw [since, current]
    simp [first, Session.fail, Panel.showError]

variable [Machine σ]

theorem send (i : InStep catalog history s) {index : Nat} {program : Program}
    (listed : s.loader.catalog.get? index = some program) :
    InStep catalog (history ++ [.sent index]) (s.send index program) := by
  rw [i.catalog_eq] at listed
  have same : installed catalog (history ++ [.sent index]) = installed catalog history :=
    Happening.installed_append catalog (by simp [Happening.loaded?])
  have named : (s.send index program).loader.program = program := by
    simp [Session.send, Loader.program, Catalog.get, i.catalog_eq, listed]
  refine ⟨i.catalog_eq, (List.getElem?_eq_some_iff.mp listed).1, by simp [Session.send], ?_,
    by rw [same]; exact i.lookup, by rw [same]; exact i.controls, ?_, fun _ => rfl⟩
  · rw [named]
    simp [asked, Happening.isSent, Session.send, Panel.setLabel, Panel.clearError]
  · simp [Session.send, Panel.clearError, sinceSent, sinceLast_concat, Happening.isSent]

theorem load (i : InStep catalog history s) (ticket : Nat) (bytes : List UInt8) :
    InStep catalog (history ++ [.loaded s.loader.current])
      ((s.close ticket).finish s.loader.program bytes) := by
  have mappings := Happening.installed_loaded history i.program_listed
  refine ⟨i.catalog_eq, i.current_lt, by simp [finish, close, start, install], ?_, ?_, ?_, ?_, nofun⟩
  · rw [Happening.asked_append (by simp [Happening.isSent])]
    exact i.label
  · intro key
    rw [mappings]
    exact Router.lookup_install _ _ key
  · rw [mappings]
    rfl
  · intro text
    have since : sinceSent (history ++ [.loaded s.loader.current]) =
        sinceSent history ++ [.loaded s.loader.current] :=
      sinceLast_append _ (by simp [Happening.isSent])
    have current : ((s.close ticket).finish s.loader.program bytes).loader.current = s.loader.current := rfl
    rw [since, current]
    simp only [List.mem_append, List.mem_singleton, reduceCtorEq, or_false]
    exact i.error_iff text

theorem change (i : InStep catalog history s) (change : Change s t happenings) :
    InStep catalog (history ++ happenings) t := by
  cases change with
  | aside aside _ incidental =>
    exact (i.aside aside).pass fun happening among => (incidental happening among).ofLoad_eq
  | edge edge aside => exact (i.aside aside).pass (by simp [Happening.ofLoad])
  | send listed => exact i.send listed
  | load _ bytes => exact i.load _ bytes
  | fail pending failure => exact i.fail pending failure

end InStep

end Session

/-- After every run of a console, and after every run of the loader on its own that spares the keys and
the texts, these are in step with the loads. -/
theorem panel_in_step {σ δ : Type} [Machine σ] [Beeper δ] (machine : σ) (frameRate : Float)
    (fetcher : Fetcher) (catalog : Catalog) (screen : Screen) (tone : ToneGate δ)
    (actions : List Action) (events : List (LoadEvent σ))
    (spared : (Session.new machine frameRate fetcher catalog).SparedBy events) :
    let s := Session.new machine frameRate fetcher catalog
    let c : Console σ δ := { session := s, screen, tone }
    Session.InStep catalog (c.history actions) (c.run actions).session ∧
      Session.InStep catalog (s.history events) (s.takeAll events).1 := by
  intro s c
  -- Both runs start from the same session, and consist of the same changes.
  have start : Session.InStep catalog [] s := .new machine frameRate fetcher catalog
  exact ⟨c.history_induction (fun _ _ _ _ i change => i.change change) start actions,
    Session.history_induction (fun _ _ _ _ i change => i.change change) start spared⟩

/-- A load that succeeds, one that is dropped and one that fails, with a machine and a scheduler that are
exchanged beforehand.  The label and the error are those of the program that could not be fetched; the keys and what
they do are still those of the one before. -/
theorem panel_in_step_after_failure :
    let s : Session Puppet := .new {} 60 .promised .builtin
    let c : Console Puppet Unit :=
      { session := s
        screen := .new { resolution := {}, foreground := ⟨255, 255, 255⟩ }
        tone := .muted }
    let actions : List Action := [.boot, .deliver 0 (.ok [0x12]), .tick 0, .event .nextProgram, .event .step,
      .event .prevProgram, .abandon 1, .tick 20, .event .toggleDebug]
    let events : List (LoadEvent Puppet) := [.lend { faulty := true } (.ofRate 30) {} (Panel.toggleDebug {}),
      .select 1, .deliver 0 (.ok [0x12]), .poll, .select 3, .select 2, .abandon 1, .poll, .select 9]
    let left := (c.run actions).session
    let alone := (s.takeAll events).1
    s.SparedBy events ∧ Session.InStep .builtin (c.history actions) left ∧
      Session.InStep .builtin (s.history events) alone ∧
      (left.panel.label = "Pong" ∧
        left.panel.error = some "could not fetch program \x60PONG2.ch8\x60: fetch abandoned" ∧
        left.panel.controls = ["Q - Shoot left", "W - Shoot up", "E - Shoot right"] ∧
        (left.router.lookup ⟨81⟩).map (·.number) = some 4) ∧
      alone.panel.label = "Tetris" ∧
      alone.panel.error = some "could not fetch program \x60TETRIS.ch8\x60: fetch abandoned" ∧
      alone.panel.controls =
        ["A - Left paddle up", "Z - Left paddle down", "K - Right paddle up", "M - Right paddle down"] ∧
      (alone.router.lookup ⟨90⟩).map (·.number) = some 4 := by
  intro s c actions events left alone
  have spared : s.SparedBy events := by
    simp only [events, Session.SparedBy, Session.Spares, and_true]
    exact ⟨rfl, rfl, rfl, rfl⟩
  obtain ⟨played, taken⟩ := panel_in_step _ 60 .promised .builtin c.screen c.tone actions events spared
  refine ⟨spared, played, taken, ⟨?_, ?_, ?_, ?_⟩, ?_, ?_, ?_, ?_⟩
  all_goals decide +kernel

end Chip8Console
