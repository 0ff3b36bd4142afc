import Chip8Console.Proofs.Console.History
import Chip8Console.Proofs.Effects

/-! # Consoles side by side

Two consoles may have different machines and beepers.  They are `Paired` as long as all that decides what they do is
the same: fetches, scheduler, router, loader and tone, and the texts of the panel.  An action taken by both leaves
them paired, gets the same answer from both, and has both do the same (`Paired.act`).  All that is asked of the
machines is that they agree on their tone once they have gone through the same calls.

A console is beside itself, so every action and every run has effects of its own, and takes the machine and the beeper
through the calls among them (`exists_does_run`).  After a run from an empty journal both are what the calls in the
journal make of them (`replay_run`).
-/

namespace Chip8Console

/-! ## What a console does -/

namespace ToneGate

variable {δ : Type}

/-- What the gate has the beeper do when it is told of the tone. -/
def asks (gate : ToneGate δ) (active : Bool) : List Entry :=
  if active != gate.sounding && gate.device.isSome then [.beeper (if active then .beep else .stop)] else []

variable [Beeper δ]

@[simp] theorem sounding_update (gate : ToneGate δ) (active : Bool) (j : Journal) :
    (gate.update active j).1.sounding = active := by
  unfold update
  split
  · exact (‹active = gate.sounding›).symm
  · cases gate.device <;> rfl

@[simp] theorem isSome_device_update (gate : ToneGate δ) (active : Bool) (j : Journal) :
    (gate.update active j).1.device.isSome = gate.device.isSome := by
  unfold update
  split
  · rfl
  · cases gate.device <;> simp

/-- The beeper is asked for just what the gate asks of it. -/
theorem update_asks (gate : ToneGate δ) (active : Bool) (j : Journal) :
    (gate.update active j).2.effects = j.effects ++ gate.asks active ∧
      (gate.update active j).1.device =
        gate.device.map (Beeper.after · ((gate.asks active).filterMap Entry.beeper?)) := by
  obtain ⟨device, sounding⟩ := gate
  by_cases same : active = sounding
  · simp [update, asks, same, Beeper.after]
  cases device with
  | none => simp [update, asks, same]
  | some device =>
    have asked : (⟨some device, sounding⟩ : ToneGate δ).asks active =
        [.beeper (if active then .beep else .stop)] := by simp [asks, same]
    simp only [asked, update, if_neg same, switch]
    refine ⟨(Journal.effects_noteAll _ _).trans (Journal.effects_add _ rfl), ?_⟩
    cases active <;> rfl

end ToneGate

namespace Console

variable {σ δ : Type} [Machine σ] [Beeper δ]

/-- Between two states of a console there are these effects, and the beeper has gone through the calls on it. -/
structure Does (effects : List Entry) (before after : Console σ δ) : Prop where
  rig : before.session.rig.Does effects after.session.rig
  device : after.tone.device = before.tone.device.map (Beeper.after · (effects.filterMap Entry.beeper?))

variable {c d e : Console σ δ} {effects more : List Entry}

theorem Does.of_rig (rig : c.session.rig.Does effects d.session.rig) (tone : d.tone = c.tone)
    (silent : effects.filterMap Entry.beeper? = []) : Does effects c d := by
  refine ⟨rig, ?_⟩
  rw [tone, silent]
  exact Option.map_id'.symm

theorem Does.refl (c : Console σ δ) : Does [] c c :=
  .of_rig (.refl _) rfl rfl

theorem Does.trans (first : Does effects c d) (second : Does more d e) : Does (effects ++ more) c e := by
  refine ⟨first.rig.trans second.rig, ?_⟩
  rw [second.device, first.device, Option.map_map, List.filterMap_append]
  congr 1
  funext device
  exact (Beeper.after_append _ _ _).symm

theorem does_updateTone (c : Console σ δ) (active : Bool) : Does (c.tone.asks active) c (c.updateTone active) := by
  obtain ⟨effects, device⟩ := c.tone.update_asks active c.session.rig.journal
  refine ⟨⟨effects, ?_⟩, device⟩
  have noCall : (c.tone.asks active).filterMap Entry.call? = [] := by
    unfold ToneGate.asks
    split <;> rfl
  rw [noCall]
  rfl

end Console

/-- An edge moves one line of the keypad, or none. -/
theorem Router.edge_cases {σ : Type} [Machine σ] (r : Router) (edge : KeyEdge) (rig : Rig σ) :
    (r.callOf edge = none ∧ (r.edge edge rig).1 = rig) ∨
      (∃ line, r.callOf edge = some (.press line) ∧ (r.edge edge rig).1 = rig.press line) ∨
      ∃ line, r.callOf edge = some (.release line) ∧ (r.edge edge rig).1 = rig.release line := by
  rw [Router.edge_eq]
  cases edge with
  | down key =>
    cases mapped : r.lookup key with
    | none => exact .inl ⟨by simp [callOf, mapped], by simp [mapped]⟩
    | some line => exact .inr (.inl ⟨line.number, by simp [callOf, mapped], by simp [mapped]⟩)
  | up key =>
    cases mapped : r.lookup key with
    | none => exact .inl ⟨by simp [callOf, mapped], by simp [mapped]⟩
    | some line => exact .inr (.inr ⟨line.number, by simp [callOf, mapped], by simp [mapped]⟩)

theorem Router.does_edge {σ : Type} [Machine σ] (r : Router) (edge : KeyEdge) (rig : Rig σ) :
    rig.Does ((r.callOf edge).toList.map .call) (r.edge edge rig).1 := by
  rcases r.edge_cases edge rig with ⟨none, same⟩ | ⟨line, asked, pressed⟩ | ⟨line, asked, released⟩
  · rw [none, same]
    exact .refl rig
  · rw [asked, pressed]
    exact rig.does_press line
  · rw [asked, released]
    exact rig.does_release line

theorem Router.fetches_edge {σ : Type} [Machine σ] (r : Router) (edge : KeyEdge) (rig : Rig σ) :
    (r.edge edge rig).1.fetches = rig.fetches := by
  rcases r.edge_cases edge rig with ⟨-, moved⟩ | ⟨line, -, moved⟩ | ⟨line, -, moved⟩
  · rw [moved]
  · rw [moved]
    rfl
  · rw [moved]
    rfl

namespace Rig

variable {σ σ' : Type} {rig : Rig σ} {rig' : Rig σ'}

/-- Answers are taken or not whatever the machine is. -/
theorem deliver_alike (same : rig.fetches = rig'.fetches) (ticket : Nat) (answer : Fetched) :
    (rig.deliver ticket answer).2 = (rig'.deliver ticket answer).2 ∧
      (rig.deliver ticket answer).1.fetches = (rig'.deliver ticket answer).1.fetches := by
  unfold deliver
  rw [same]
  cases rig'.fetches[ticket]? with
  | none => exact ⟨rfl, same⟩
  | some fetch =>
    dsimp only
    split
    · exact ⟨rfl, same⟩
    · split
      · exact ⟨rfl, same⟩
      · exact ⟨rfl, rfl⟩

theorem abandon_alike (same : rig.fetches = rig'.fetches) (ticket : Nat) :
    (rig.abandon ticket).2 = (rig'.abandon ticket).2 ∧
      (rig.abandon ticket).1.fetches = (rig'.abandon ticket).1.fetches := by
  unfold abandon
  rw [same]
  cases rig'.fetches[ticket]? with
  | none => exact ⟨rfl, same⟩
  | some fetch =>
    dsimp only
    split
    · exact ⟨rfl, same⟩
    · exact ⟨rfl, rfl⟩

end Rig

/-! ## Sessions -/

namespace Session

variable {σ σ' : Type}

structure Paired (s : Session σ) (t : Session σ') : Prop where
  fetches : s.rig.fetches = t.rig.fetches
  scheduler : s.scheduler = t.scheduler
  router : s.router = t.router
  loader : s.loader = t.loader
  label : s.panel.label = t.panel.label
  controls : s.panel.controls = t.panel.controls
  error : s.panel.error = t.panel.error

theorem Paired.refl (s : Session σ) : s.Paired s :=
  ⟨rfl, rfl, rfl, rfl, rfl, rfl, rfl⟩

theorem Paired.trans {σ'' : Type} {s : Session σ} {t : Session σ'} {u : Session σ''} (first : s.Paired t)
    (second : t.Paired u) : s.Paired u :=
  ⟨first.fetches.trans second.fetches, first.scheduler.trans second.scheduler, first.router.trans second.router,
    first.loader.trans second.loader, first.label.trans second.label, first.controls.trans second.controls,
    first.error.trans second.error⟩

theorem Paired.reschedule {s : Session σ} {t : Session σ'} (p : s.Paired t) {rig : Rig σ} {rig' : Rig σ'}
    (fetches : rig.fetches = rig'.fetches) {scheduler scheduler' : Scheduler Float} (same : scheduler = scheduler') :
    Paired { s with rig, scheduler } { t with rig := rig', scheduler := scheduler' } :=
  ⟨fetches, same, p.router, p.loader, p.label, p.controls, p.error⟩

/-- Whatever the registers are that the panels are shown, their texts stay the same. -/
theorem Paired.look {s : Session σ} {t : Session σ'} (p : s.Paired t) {rig : Rig σ} {rig' : Rig σ'}
    (fetches : rig.fetches = rig'.fetches) {scheduler scheduler' : Scheduler Float} (same : scheduler = scheduler')
    (registers registers' : Registers) :
    Paired { s with rig, scheduler, panel := s.panel.updateDebug registers }
      { t with rig := rig', scheduler := scheduler', panel := t.panel.updateDebug registers' } := by
  obtain ⟨debug, shown⟩ := s.panel.updateDebug_eq registers
  obtain ⟨debug', shown'⟩ := t.panel.updateDebug_eq registers'
  rw [shown, shown']
  exact ⟨fetches, same, p.router, p.loader, p.label, p.controls, p.error⟩

variable [Machine σ] [Machine σ']

/-- Two sessions come to be paired, and do the same on the way.  They leave the beeper alone. -/
structure Strides (s after : Session σ) (t after' : Session σ') : Prop where
  paired : after.Paired after'
  alike : ∃ effects, effects.filterMap Entry.beeper? = [] ∧
    s.rig.Does effects after.rig ∧ t.rig.Does effects after'.rig

variable {s : Session σ} {t : Session σ'}

theorem Paired.stay (p : s.Paired t) : Strides s s t t :=
  ⟨p, [], rfl, .refl _, .refl _⟩

theorem Paired.send (p : s.Paired t) (index : Nat) (program : Program) :
    Strides s (s.send index program) t (t.send index program) := by
  refine ⟨?_, _, by rfl, s.does_send index program, t.does_send index program⟩
  obtain ⟨⟨machine, fetches, journal⟩, scheduler, router, panel, loader⟩ := s
  obtain ⟨⟨machine', fetches', journal'⟩, scheduler', router', panel', loader'⟩ := t
  obtain ⟨rfl, rfl, rfl, rfl, -, controls, -⟩ := p
  exact ⟨rfl, rfl, rfl, rfl, rfl, controls, rfl⟩

theorem Paired.select (p : s.Paired t) (index : Nat) :
    (s.select index).2 = (t.select index).2 ∧ Strides s (s.select index).1 t (t.select index).1 := by
  unfold Session.select
  rw [← p.loader]
  split
  · refine ⟨rfl, ⟨p.fetches, p.scheduler, p.router, rfl, p.label, p.controls, p.error⟩, [], rfl, ?_, ?_⟩
    · exact s.rig.does_note _
    · exact t.rig.does_note _
  · cases s.loader.catalog.get? index with
    | none => exact ⟨rfl, p.stay⟩
    | some program => exact ⟨rfl, p.send index program⟩

theorem Paired.selectNext (p : s.Paired t) :
    s.selectNext.2 = t.selectNext.2 ∧ Strides s s.selectNext.1 t t.selectNext.1 := by
  unfold Session.selectNext
  rw [← p.loader]
  exact p.select _

theorem Paired.selectPrev (p : s.Paired t) :
    s.selectPrev.2 = t.selectPrev.2 ∧ Strides s s.selectPrev.1 t t.selectPrev.1 := by
  unfold Session.selectPrev
  rw [← p.loader]
  exact p.select _

theorem Paired.finish (p : s.Paired t) (ticket : Nat) (program : Program) (bytes : List UInt8) :
    Strides s ((s.close ticket).finish program bytes) t ((t.close ticket).finish program bytes) := by
  have closed : s.rig.Does [] (s.close ticket).rig := .nothing rfl rfl
  have closed' : t.rig.Does [] (t.close ticket).rig := .nothing rfl rfl
  refine ⟨?_, _, ?_, closed.trans ((s.close ticket).does_finish program bytes),
    closed'.trans ((t.close ticket).does_finish program bytes)⟩
  · have fetches : ((s.close ticket).finish program bytes).rig.fetches =
        ((t.close ticket).finish program bytes).rig.fetches := by
      rw [fetches_finish, fetches_finish]
      simp only [close, Rig.closeFetch, p.fetches]
    obtain ⟨rig, scheduler, router, panel, loader⟩ := s
    obtain ⟨rig', scheduler', router', panel', loader'⟩ := t
    obtain ⟨-, rfl, rfl, rfl, label, -, error⟩ := p
    exact ⟨fetches, rfl, rfl, rfl, label, rfl, error⟩
  · simp [Entry.beeper?]

theorem Paired.fail (p : s.Paired t) (ticket : Nat) (failure : Failure) :
    Strides s ((s.close ticket).fail failure) t ((t.close ticket).fail failure) := by
  refine ⟨?_, [], rfl, .nothing (Journal.effects_note _ _) rfl, .nothing (Journal.effects_note _ _) rfl⟩
  obtain ⟨⟨machine, fetches, journal⟩, scheduler, router, panel, loader⟩ := s
  obtain ⟨⟨machine', fetches', journal'⟩, scheduler', router', panel', loader'⟩ := t
  obtain ⟨rfl, rfl, rfl, rfl, label, controls, -⟩ := p
  exact ⟨rfl, rfl, rfl, rfl, label, controls, rfl⟩

omit [Machine σ] [Machine σ'] in
theorem Paired.outcome? (p : s.Paired t) (ticket : Nat) : s.rig.outcome? ticket = t.rig.outcome? ticket := by
  unfold Rig.outcome?
  rw [p.fetches]

theorem Paired.poll (p : s.Paired t) : s.poll.2 = t.poll.2 ∧ Strides s s.poll.1 t t.poll.1 := by
  unfold Session.poll
  rw [← p.loader]
  cases s.loader.pending with
  | none => exact ⟨rfl, p.stay⟩
  | some ticket =>
    dsimp only
    rw [p.outcome? ticket]
    cases t.rig.outcome? ticket with
    | none => exact ⟨rfl, p.stay⟩
    | some answer =>
      cases answer with
      | ok bytes => exact ⟨rfl, p.finish ticket _ bytes⟩
      | error failure => exact ⟨rfl, p.fail ticket failure⟩

end Session

/-! ## Consoles -/

inductive Answer where
  | selection (selection : Except Failure Selection)
  | tick (tick : Tick)
  | flow (flow : Flow)
  | delivery (delivery : Delivery)

namespace Console

variable {σ σ' δ δ' : Type}

structure Paired (c : Console σ δ) (d : Console σ' δ') : Prop where
  session : c.session.Paired d.session
  sounding : c.tone.sounding = d.tone.sounding
  audible : c.tone.device.isSome = d.tone.device.isSome

theorem Paired.refl (c : Console σ δ) : c.Paired c :=
  ⟨.refl _, rfl, rfl⟩

theorem Paired.trans {σ'' δ'' : Type} {c : Console σ δ} {d : Console σ' δ'} {e : Console σ'' δ''} (first : c.Paired d)
    (second : d.Paired e) : c.Paired e :=
  ⟨first.session.trans second.session, first.sounding.trans second.sounding, first.audible.trans second.audible⟩

variable [Machine σ] [Machine σ'] [Beeper δ] [Beeper δ']

def answer (c : Console σ δ) : Action → Answer
  | .boot => .selection c.boot.2
  | .tick now => .tick (c.tick now).2
  | .event event => .flow (c.handle event).2
  | .deliver ticket answer => .delivery (c.within (·.deliver ticket answer)).2
  | .abandon ticket => .delivery (c.within (·.abandon ticket)).2

/-- Two consoles come to be paired, and do the same on the way. -/
structure Strides (c after : Console σ δ) (d after' : Console σ' δ') : Prop where
  paired : after.Paired after'
  alike : ∃ effects, c.Does effects after ∧ d.Does effects after'

variable {c e : Console σ δ} {d f : Console σ' δ'}

theorem Strides.trans {b : Console σ δ} {b' : Console σ' δ'} (first : Strides b c b' d) (second : Strides c e d f) :
    Strides b e b' f := by
  obtain ⟨effects, does, does'⟩ := first.alike
  obtain ⟨more, goesOn, goesOn'⟩ := second.alike
  exact ⟨second.paired, _, does.trans goesOn, does'.trans goesOn'⟩

theorem Paired.of_session (p : c.Paired d) (strides : Session.Strides c.session e.session d.session f.session)
    (tone : e.tone = c.tone) (tone' : f.tone = d.tone) : Strides c e d f := by
  obtain ⟨paired, effects, silent, does, does'⟩ := strides
  refine ⟨⟨paired, ?_, ?_⟩, effects, .of_rig does tone silent, .of_rig does' tone' silent⟩
  · rw [tone, tone']
    exact p.sounding
  · rw [tone, tone']
    exact p.audible

theorem Paired.within (p : c.Paired d) {α : Type} {act : Session σ → Session σ × α} {act' : Session σ' → Session σ' × α}
    (strides : Session.Strides c.session (act c.session).1 d.session (act' d.session).1) :
    Strides c (c.within act).1 d (d.within act').1 :=
  p.of_session strides rfl rfl

theorem Paired.note (p : c.Paired d) (notice : Notice) : Strides c (c.note notice) d (d.note notice) :=
  p.within ⟨⟨p.session.fetches, p.session.scheduler, p.session.router, p.session.loader, p.session.label,
    p.session.controls, p.session.error⟩, [], rfl, Rig.does_note _ _, Rig.does_note _ _⟩

theorem Paired.updateTone (p : c.Paired d) (active : Bool) :
    Strides c (c.updateTone active) d (d.updateTone active) := by
  have asked : c.tone.asks active = d.tone.asks active := by
    unfold ToneGate.asks
    rw [p.sounding, p.audible]
  refine ⟨⟨?_, ?_, ?_⟩, _, c.does_updateTone active, asked ▸ d.does_updateTone active⟩
  · exact ⟨p.session.fetches, p.session.scheduler, p.session.router, p.session.loader, p.session.label,
      p.session.controls, p.session.error⟩
  · exact (ToneGate.sounding_update _ _ _).trans (ToneGate.sounding_update _ _ _).symm
  · exact (ToneGate.isSome_device_update _ _ _).trans (p.audible.trans (ToneGate.isSome_device_update _ _ _).symm)

/-! ## What both do -/

theorem Paired.choose (p : c.Paired d) (ask : Session σ → Session σ × Except Failure Selection)
    (ask' : Session σ' → Session σ' × Except Failure Selection) (answer : (ask c.session).2 = (ask' d.session).2)
    (strides : Session.Strides c.session (ask c.session).1 d.session (ask' d.session).1) :
    (c.choose ask).2 = (d.choose ask').2 ∧ Strides c (c.choose ask).1 d (d.choose ask').1 := by
  have asked : Strides c (c.within ask).1 d (d.within ask').1 := p.within strides
  -- The answers are the same, so both programs are on their way or neither is.
  rcases c.choose_cases ask with ⟨dropped, chosen⟩ | ⟨index, sent, chosen⟩
  · rcases d.choose_cases ask' with ⟨-, chosen'⟩ | ⟨index, sent, -⟩
    · rw [chosen, chosen']
      exact ⟨answer, asked⟩
    · exact absurd (answer.trans sent) (dropped index)
  · rcases d.choose_cases ask' with ⟨dropped, -⟩ | ⟨index', sent', chosen'⟩
    · exact absurd (answer.symm.trans sent) (dropped index)
    · obtain rfl : index = index' := by simpa [sent, sent'] using answer
      rw [chosen, chosen']
      exact ⟨rfl, asked.trans (asked.paired.updateTone false)⟩

theorem Paired.change (p : c.Paired d) (ask : Session σ → Session σ × Except Failure Selection)
    (ask' : Session σ' → Session σ' × Except Failure Selection) (answer : (ask c.session).2 = (ask' d.session).2)
    (strides : Session.Strides c.session (ask c.session).1 d.session (ask' d.session).1) :
    Strides c (c.change ask) d (d.change ask') := by
  obtain ⟨same, chosen⟩ := p.choose ask ask' answer strides
  unfold Console.change
  -- `change` looks at the answer of `choose`, so the two are written with the same one.
  rw [show c.choose ask = ((c.choose ask).1, (d.choose ask').2) from Prod.ext rfl same,
    show d.choose ask' = ((d.choose ask').1, (d.choose ask').2) from rfl]
  cases (d.choose ask').2 with
  | ok selection => exact chosen
  | error failure => exact chosen.trans (chosen.paired.note _)

theorem Paired.pollLoad (p : c.Paired d) : Strides c c.pollLoad d d.pollLoad := by
  obtain ⟨same, polled⟩ := p.session.poll
  have within : Strides c (c.within Session.poll).1 d (d.within Session.poll).1 := p.within polled
  unfold Console.pollLoad
  rw [show c.within Session.poll = ((c.within Session.poll).1, d.session.poll.2) from Prod.ext rfl same,
    show d.within Session.poll = ((d.within Session.poll).1, d.session.poll.2) from rfl]
  cases d.session.poll.2 with
  | failed index => exact within.trans (within.paired.note _)
  | nothing | loaded index => exact within

omit [Beeper δ] in
theorem does_framed (c : Console σ δ) (pacer : Pacer Float) :
    c.session.rig.Does [.call .cycle, .refresh] (c.framed pacer).session.rig :=
  ((Rig.does_runCycle _).quietly (Rig.does_noteAll _ _)).trans (Rig.does_show _ (c.screen, c.session.panel))

omit [Beeper δ] in
theorem does_instructed (c : Console σ δ) :
    c.session.rig.Does [.call .opCode, .refresh] c.instructed.session.rig :=
  ((Rig.does_runOpCode _).quietly (Rig.does_noteAll _ _)).trans (Rig.does_show _ (c.screen, c.session.panel))

theorem Paired.framed (p : c.Paired d) (pacer : Pacer Float) : Strides c (c.framed pacer) d (d.framed pacer) := by
  refine p.of_session ⟨?_, _, rfl, c.does_framed pacer, d.does_framed pacer⟩ rfl rfl
  refine p.session.look ?_ ?_ _ _
  · exact p.session.fetches
  · rw [p.session.scheduler]

theorem Paired.instructed (p : c.Paired d) : Strides c c.instructed d d.instructed := by
  refine p.of_session ⟨?_, _, rfl, c.does_instructed, d.does_instructed⟩ rfl rfl
  refine p.session.look ?_ ?_ _ _
  · exact p.session.fetches
  · exact p.session.scheduler ▸ rfl

/-- If the machines were asked for the same, they agree on their tone. -/
def SoundAlike (c e : Console σ δ) (d f : Console σ' δ') : Prop :=
  ∀ asked, c.session.rig.Obeys asked e.session.rig → d.session.rig.Obeys asked f.session.rig →
    e.soundActive = f.soundActive

theorem Strides.sound (strides : Strides c e d f)
    (alike : SoundAlike c (e.updateTone e.soundActive) d (f.updateTone f.soundActive)) :
    Strides c (e.updateTone e.soundActive) d (f.updateTone f.soundActive) := by
  obtain ⟨effects, does, does'⟩ := strides.alike
  have obeys := does.rig.obeys
  have obeys' := does'.rig.obeys
  -- The tone follows the machine and asks nothing of it.
  have same : e.soundActive = f.soundActive := alike _
    ⟨(updateTone_alike e _).calls.trans obeys.calls, obeys.machine⟩
    ⟨(updateTone_alike f _).calls.trans obeys'.calls, obeys'.machine⟩
  rw [same]
  exact strides.trans (strides.paired.updateTone _)

theorem Paired.tick (p : c.Paired d) (now : Float) (alike : SoundAlike c (c.tick now).1 d (d.tick now).1) :
    (c.tick now).2 = (d.tick now).2 ∧ Strides c (c.tick now).1 d (d.tick now).1 := by
  have polled := p.pollLoad
  have scheduler := polled.paired.session.scheduler
  -- The schedulers and the time are the same, so both consoles execute a frame or none does.
  rcases c.tick_eq now with ⟨idle, ticked⟩ | ⟨due, ticked⟩
  · rcases d.tick_eq now with ⟨-, ticked'⟩ | ⟨due, -⟩
    · rw [ticked, ticked']
      refine ⟨by rw [scheduler], polled.trans ?_⟩
      refine polled.paired.of_session ⟨?_, [], rfl, .refl _, .refl _⟩ rfl rfl
      exact polled.paired.session.reschedule polled.paired.session.fetches (by rw [scheduler])
    · rw [scheduler, due] at idle
      cases idle
  · rcases d.tick_eq now with ⟨idle, -⟩ | ⟨-, ticked'⟩
    · rw [scheduler, idle] at due
      cases due
    · rw [ticked, ticked'] at alike ⊢
      rw [← scheduler] at alike ⊢
      have framed := polled.paired.framed (c.pollLoad.session.scheduler.pacer.advance now).1
      exact ⟨rfl, (polled.trans framed).sound alike⟩

theorem Paired.step (p : c.Paired d) (alike : SoundAlike c c.step d d.step) : Strides c c.step d d.step :=
  p.instructed.sound alike

theorem Paired.halt (p : c.Paired d) : Strides c c.halt d d.halt := by
  have stopped : Strides c (c.within fun s => (s.stop, ())).1 d (d.within fun s => (s.stop, ())).1 := by
    refine p.within ⟨p.session.reschedule ?_ ?_, [], rfl, Rig.does_noteAll _ _, Rig.does_noteAll _ _⟩
    · exact p.session.fetches
    · rw [p.session.scheduler]
  exact stopped.trans (stopped.paired.updateTone false)

theorem Paired.resume (p : c.Paired d) : Strides c c.resume d d.resume := by
  refine p.within ⟨p.session.reschedule ?_ ?_, [], rfl, Rig.does_noteAll _ _, Rig.does_noteAll _ _⟩
  · exact p.session.fetches
  · rw [p.session.scheduler]

theorem Paired.toggleDebug (p : c.Paired d) : Strides c c.toggleDebug d d.toggleDebug := by
  have toggled : Session.Paired { c.session with panel := c.session.panel.toggleDebug }
      { d.session with panel := d.session.panel.toggleDebug } :=
    ⟨p.session.fetches, p.session.scheduler, p.session.router, p.session.loader, p.session.label,
      p.session.controls, p.session.error⟩
  exact p.within ⟨toggled.look p.session.fetches p.session.scheduler _ _, [], rfl, .refl _, .refl _⟩

theorem Paired.key (p : c.Paired d) (edge : KeyEdge) : Strides c (c.key edge) d (d.key edge) := by
  have fetches := (c.session.router.fetches_edge edge c.session.rig).trans
    (p.session.fetches.trans (d.session.router.fetches_edge edge d.session.rig).symm)
  have same : c.session.router.callOf edge = d.session.router.callOf edge := by rw [p.session.router]
  refine p.of_session ⟨p.session.reschedule fetches p.session.scheduler, _, ?_, Router.does_edge _ edge _, ?_⟩ rfl rfl
  · simp [Entry.beeper?]
  · rw [same]
    exact Router.does_edge _ edge _

theorem Paired.deliver (p : c.Paired d) (ticket : Nat) (answer : Fetched) :
    (c.session.deliver ticket answer).2 = (d.session.deliver ticket answer).2 ∧
      Strides c (c.within (·.deliver ticket answer)).1 d (d.within (·.deliver ticket answer)).1 := by
  obtain ⟨same, fetches⟩ := Rig.deliver_alike p.session.fetches ticket answer
  refine ⟨same, p.within ⟨p.session.reschedule fetches p.session.scheduler, [], rfl, ?_, ?_⟩⟩
  · exact Rig.does_deliver _ _ _
  · exact Rig.does_deliver _ _ _

theorem Paired.abandon (p : c.Paired d) (ticket : Nat) :
    (c.session.abandon ticket).2 = (d.session.abandon ticket).2 ∧
      Strides c (c.within (·.abandon ticket)).1 d (d.within (·.abandon ticket)).1 := by
  obtain ⟨same, fetches⟩ := Rig.abandon_alike p.session.fetches ticket
  refine ⟨same, p.within ⟨p.session.reschedule fetches p.session.scheduler, [], rfl, ?_, ?_⟩⟩
  · exact Rig.does_abandon _ _
  · exact Rig.does_abandon _ _

/-- An action does the same to consoles that are paired, gets the same answer, and leaves them paired. -/
theorem Paired.act (p : c.Paired d) (action : Action) (alike : SoundAlike c (c.act action) d (d.act action)) :
    c.answer action = d.answer action ∧ Strides c (c.act action) d (d.act action) := by
  cases action with
  | boot =>
    obtain ⟨answer, selected⟩ := p.session.select 0
    obtain ⟨same, strides⟩ := p.choose (·.select 0) (·.select 0) answer selected
    exact ⟨congrArg Answer.selection same, strides⟩
  | tick now =>
    obtain ⟨same, strides⟩ := p.tick now alike
    exact ⟨congrArg Answer.tick same, strides⟩
  | event event =>
    cases event with
    | key edge => exact ⟨rfl, p.key edge⟩
    | halt => exact ⟨rfl, p.halt⟩
    | resume => exact ⟨rfl, p.resume⟩
    | step => exact ⟨rfl, p.step alike⟩
    | nextProgram =>
      obtain ⟨answer, selected⟩ := p.session.selectNext
      exact ⟨rfl, p.change Session.selectNext Session.selectNext answer selected⟩
    | prevProgram =>
      obtain ⟨answer, selected⟩ := p.session.selectPrev
      exact ⟨rfl, p.change Session.selectPrev Session.selectPrev answer selected⟩
    | toggleDebug => exact ⟨rfl, p.toggleDebug⟩
    | quit => exact ⟨rfl, p.of_session p.session.stay rfl rfl⟩
  | deliver ticket answer =>
    obtain ⟨same, strides⟩ := p.deliver ticket answer
    exact ⟨congrArg Answer.delivery same, strides⟩
  | abandon ticket =>
    obtain ⟨same, strides⟩ := p.abandon ticket
    exact ⟨congrArg Answer.delivery same, strides⟩

/-! ## What a run does -/

theorem exists_does_act (c : Console σ δ) (action : Action) : ∃ effects, c.Does effects (c.act action) := by
  -- A console is paired with itself, so what both do is what it does.
  obtain ⟨-, -, effects, does, -⟩ := (Paired.refl c).act action fun _ _ _ => rfl
  exact ⟨effects, does⟩

theorem run_cons (c : Console σ δ) (action : Action) (actions : List Action) :
    c.run (action :: actions) = (c.act action).run actions := rfl

theorem exists_does_run (c : Console σ δ) (actions : List Action) : ∃ effects, c.Does effects (c.run actions) := by
  induction actions generalizing c with
  | nil => exact ⟨[], .refl c⟩
  | cons action actions ih =>
    obtain ⟨effects, first⟩ := c.exists_does_act action
    obtain ⟨more, others⟩ := ih (c.act action)
    rw [run_cons]
    exact ⟨_, first.trans others⟩

/-- The calls that an action makes on the machine. -/
def callsOf (c : Console σ δ) (action : Action) : List Call :=
  (c.act action).session.rig.journal.calls.drop c.session.rig.journal.calls.length

theorem callsOf_eq {c : Console σ δ} {action : Action} {asked : List Call}
    (obeys : c.session.rig.Obeys asked (c.act action).session.rig) : c.callsOf action = asked := by
  rw [callsOf, obeys.calls, List.drop_left]

theorem obeys_act (c : Console σ δ) (action : Action) :
    c.session.rig.Obeys (c.callsOf action) (c.act action).session.rig := by
  obtain ⟨effects, does⟩ := c.exists_does_act action
  rw [callsOf_eq does.rig.obeys]
  exact does.rig.obeys

/-- The journal of a run tells what has become of the machine and of the beeper: both have gone through the calls in it,
and through nothing else. -/
theorem replay_run {c : Console σ δ} (untouched : c.session.rig.journal = #[]) (actions : List Action) :
    let d := c.run actions
    d.session.rig.machine = Machine.after c.session.rig.machine d.session.rig.journal.calls ∧
      d.tone.device = c.tone.device.map (Beeper.after · d.session.rig.journal.beeperCalls) := by
  obtain ⟨effects, does⟩ := c.exists_does_run actions
  have calls := does.rig.obeys.calls
  have beeperCalls := does.rig.beeperCalls
  rw [untouched] at calls beeperCalls
  refine ⟨?_, ?_⟩
  · rw [calls]
    exact does.rig.obeys.machine
  · rw [beeperCalls]
    exact does.device

end Console

end Chip8Console
