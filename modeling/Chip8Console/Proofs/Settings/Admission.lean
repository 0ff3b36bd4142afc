import Chip8Console.HostLoop
import Chip8Console.Machine.Puppet
import Chip8Console.Proofs.Console.Run
import Chip8Console.Proofs.Doubles.Order
import Chip8Console.Proofs.Settings.Colours
import Chip8Console.Proofs.Settings.Overlay

/-! # Settings at the door

`Settings.faults` lists what is wrong with settings, in the order of the fields.  Whoever is given settings looks at them
first, and reports the first of these faults: the reader, the console that is to be built and the host loop
(`settings_checked`).  What passes makes a console whose frames are between one and a thousand milliseconds apart, since
the rounding of a quotient keeps to the bounds of the exact one, and whose picture is blank.

The bounds are those of the doubles that are read.  Which doubles those are for a text with many digits is left to
`Json.magnitude?`, which takes the nearest ones.
-/

namespace Chip8Console

namespace Settings

/-! ## What is wrong with settings -/

/-- The bounds of all fields. -/
structure InBounds (s : Settings) : Prop where
  frameRate : 1 ≤ s.frameRate ∧ s.frameRate ≤ 1000
  refreshRate : 1 ≤ s.refreshRate ∧ s.refreshRate ≤ 1000
  scale : 1 ≤ s.scale ∧ s.scale ≤ 64
  keyHold : s.keyHold ≤ 10000
  foreground : ∃ colour, Colour.parse s.foreground = .ok colour

/-- A fault, unless something holds. -/
def faultUnless (holds : Prop) [Decidable holds] (fault : Fault) : List Fault :=
  if holds then [] else [fault]

def colourFaults (s : Settings) : List Fault :=
  match Colour.parse s.foreground with
  | .ok _ => []
  | .error cause => [.colour cause s.foreground]

/-- All that is wrong with settings, in the order of the fields. -/
def faults (s : Settings) : List Fault :=
  faultUnless (1 ≤ s.frameRate ∧ s.frameRate ≤ 1000) (.rate .frame s.frameRate)
    ++ faultUnless (1 ≤ s.refreshRate ∧ s.refreshRate ≤ 1000) (.rate .refresh s.refreshRate)
    ++ faultUnless (1 ≤ s.scale ∧ s.scale ≤ 64) (.scale s.scale)
    ++ faultUnless (s.keyHold ≤ 10000) (.keyHold s.keyHold)
    ++ s.colourFaults

variable {s : Settings}

theorem faultUnless_eq_nil {holds : Prop} [Decidable holds] {fault : Fault} :
    faultUnless holds fault = [] ↔ holds := by
  simp [faultUnless]

theorem colourFaults_eq_nil : s.colourFaults = [] ↔ ∃ colour, Colour.parse s.foreground = .ok colour := by
  unfold colourFaults
  cases Colour.parse s.foreground <;> simp

theorem inBounds_iff : s.InBounds ↔ s.faults = [] := by
  simp only [faults, List.append_eq_nil_iff, faultUnless_eq_nil, colourFaults_eq_nil]
  constructor
  · rintro ⟨frameRate, refreshRate, scale, keyHold, foreground⟩
    exact ⟨⟨⟨⟨frameRate, refreshRate⟩, scale⟩, keyHold⟩, foreground⟩
  · rintro ⟨⟨⟨⟨frameRate, refreshRate⟩, scale⟩, keyHold⟩, foreground⟩
    exact ⟨frameRate, refreshRate, scale, keyHold, foreground⟩

theorem rateInBounds_iff {rate : Float} : rateInBounds rate ↔ 1 ≤ rate ∧ rate ≤ 1000 := by
  simp only [rateInBounds, Bool.and_eq_true, decide_eq_true_eq]
  rfl

/-- Settings are refused for the first of their faults. -/
theorem validate_eq (s : Settings) : s.validate = match s.faults.head? with
    | none => .ok ()
    | some fault => .error (.settings fault) := by
  have scale : (s.scale < 1 || maxScale < s.scale) ↔ ¬(1 ≤ s.scale ∧ s.scale ≤ 64) := by
    simp only [Bool.or_eq_true, decide_eq_true_eq]
    have most : maxScale = 64 := rfl
    omega
  have keyHold : maxKeyHold < s.keyHold ↔ ¬s.keyHold ≤ 10000 := not_le.symm
  simp only [validate, foregroundColour, faults, faultUnless, colourFaults, Bool.not_eq_true', ← Bool.not_eq_true,
    rateInBounds_iff, scale, keyHold]
  by_cases frameRate : 1 ≤ s.frameRate ∧ s.frameRate ≤ 1000
  case neg => simp [frameRate]
  by_cases refreshRate : 1 ≤ s.refreshRate ∧ s.refreshRate ≤ 1000
  case neg => simp [frameRate, refreshRate]
  by_cases inScale : 1 ≤ s.scale ∧ s.scale ≤ 64
  case neg => simp [frameRate, refreshRate, inScale]
  by_cases hold : s.keyHold ≤ 10000
  case neg => simp [frameRate, refreshRate, inScale, hold]
  cases Colour.parse s.foreground <;>
    simp [frameRate, refreshRate, inScale, hold, Except.mapError, Except.map]

/-! ## Rates and intervals -/

section Rates

open Doubles

theorem exactly_one : Exactly 1 1 :=
  ⟨4503599627370496, -52, by decide, rfl, by norm_num, by norm_num⟩

theorem exactly_thousand : Exactly 1000 1000 :=
  ⟨8796093022208000, -43, by decide, rfl, by norm_num, by norm_num⟩

theorem exactly_rate {rate : Float} (least : 1 ≤ rate) (most : rate ≤ 1000) :
    ∃ v, Exactly rate v ∧ 1 ≤ v ∧ v ≤ 1000 := by
  obtain ⟨m, e, positive, unpacked⟩ := rate_positive (rateInBounds_iff.mpr ⟨least, most⟩)
  have canonical := canonical_of_unpack unpacked
  have one : Canonical 4503599627370496 (-52) := ⟨by norm_num, by norm_num, .inl (by norm_num)⟩
  -- A double of at least one has its mantissa in full.
  have large : 2 ^ 52 ≤ m := by
    have above := (Binary64.le_iff 1 rate).mp least
    rw [unpacked, show (1 : Float).toModel.unpack = .finite .positive 4503599627370496 (-52) (by decide) from rfl,
      le_unpacked_iff one canonical _ positive, ← not_lt, canonical.lt_iff one] at above
    exact canonical.full.resolve_right (by omega)
  have exactly : Exactly rate (m * 2 ^ e) := ⟨m, e, positive, unpacked, rfl, large⟩
  exact ⟨_, exactly, (le_iff_of_exactly exactly_one exactly).mp least, (le_iff_of_exactly exactly exactly_thousand).mp most⟩

/-- The interval between frames is a double between one and a thousand. -/
theorem exactly_interval {rate : Float} (least : 1 ≤ rate) (most : rate ≤ 1000) :
    ∃ v, Exactly (1000 / rate) v ∧ 1 ≤ v ∧ v ≤ 1000 := by
  obtain ⟨v, exactly, low, high⟩ := exactly_rate least most
  have positive : 0 < v := by linarith
  apply exists_quotient exactly_thousand exactly exactly_one exactly_thousand
  · rwa [le_div_iff₀ positive, one_mul]
  · rw [div_le_iff₀ positive]
    linarith

theorem ofFloat_of_exactly {x : Float} {v : ℚ} (exactly : Exactly x v) :
    ∃ significand exponent, Binary64.ofFloat x = .finite false significand exponent ∧ 0 < significand := by
  obtain ⟨m, e, positive, unpacked, -, -⟩ := exactly
  refine ⟨m, e, ?_, positive⟩
  rw [Binary64.ofFloat_eq, unpacked]
  rfl

theorem pos_of_exactly {x : Float} {v : ℚ} (exactly : Exactly x v) : 0 < x := by
  obtain ⟨m, e, positive, unpacked, -, -⟩ := exactly
  have less : (0 : Float).toModel.unpack.lt x.toModel.unpack = true := by
    rw [unpacked]
    rfl
  exact decide_eq_true less

end Rates

/-! ## At the door -/

theorem validate_eq_ok (bounds : s.InBounds) : s.validate = .ok () := by
  rw [validate_eq, inBounds_iff.mp bounds]
  rfl

theorem exists_fault (wrong : ¬s.InBounds) :
    ∃ fault, s.faults.head? = some fault ∧ s.validate = .error (.settings fault) := by
  rw [inBounds_iff, ← List.head?_eq_none_iff] at wrong
  obtain ⟨fault, first⟩ := Option.ne_none_iff_exists'.mp wrong
  exact ⟨fault, first, by rw [validate_eq, first]⟩

theorem inBounds_of_ofJson {text : String} (read : ofJson text = .ok s) : s.InBounds := by
  unfold ofJson at read
  cases parsed : (Json.parse record.read text).mapError Failure.json with
  | error failure => simp [parsed, bind, Except.bind] at read
  | ok settings =>
    cases checked : settings.validate with
    | error failure => simp [parsed, checked, bind, Except.bind] at read
    | ok =>
      simp only [parsed, checked, bind, Except.bind, pure, Except.pure, Except.ok.injEq] at read
      subst read
      by_contra wrong
      obtain ⟨fault, -, refused⟩ := exists_fault wrong
      rw [checked] at refused
      cases refused

end Settings

namespace Console

variable {σ δ : Type}

/-- What a console has of its settings at first: frames that are some time apart, and a blank picture. -/
structure Fresh (c : Console σ δ) (settings : Settings) : Prop where
  positive : 0 < c.session.scheduler.pacer.interval
  least : 1 ≤ c.session.scheduler.pacer.interval
  most : c.session.scheduler.pacer.interval ≤ 1000
  /-- There is a remainder by the interval. -/
  divisor : ∃ significand exponent,
    Binary64.ofFloat c.session.scheduler.pacer.interval = .finite false significand exponent ∧ 0 < significand
  width : c.screen.raster.width = 64 * settings.scale
  height : c.screen.raster.height = 32 * settings.scale
  blank : c.screen.raster.cells = Array.replicate (64 * settings.scale * (32 * settings.scale)) none

theorem exists_fresh (machine : σ) (beeper : δ) (fetcher : Fetcher) (catalog : Catalog) {settings : Settings}
    (bounds : settings.InBounds) :
    ∃ c, new machine beeper fetcher catalog settings = .ok c ∧ c.Fresh settings := by
  obtain ⟨colour, parsed⟩ := bounds.foreground
  have foreground : settings.foregroundColour = .ok colour := Settings.foregroundColour_eq_ok_iff.mpr parsed
  obtain ⟨v, exactly, least, most⟩ := Settings.exactly_interval bounds.frameRate.1 bounds.frameRate.2
  let c : Console σ δ :=
    { session := .new machine settings.frameRate fetcher catalog
      screen := .new { resolution := settings.resolution, foreground := colour }
      tone := if settings.sound then { device := some beeper } else .muted }
  have built : new machine beeper fetcher catalog settings = .ok c := by
    rw [new, Settings.validate_eq_ok bounds, foreground]
    rfl
  refine ⟨c, built, ?_⟩
  exact {
    positive := Settings.pos_of_exactly exactly
    least := (Doubles.le_iff_of_exactly Settings.exactly_one exactly).mpr least
    most := (Doubles.le_iff_of_exactly exactly Settings.exactly_thousand).mpr most
    divisor := Settings.ofFloat_of_exactly exactly
    width := rfl
    height := rfl
    blank := rfl }

end Console

/-- What is read as settings is within bounds, and settings within bounds make a console, whatever its parts are.  Of
settings that are not, the first fault is what the check, the console and the host loop report. -/
theorem settings_checked {σ δ : Type} [Machine σ] [Beeper δ] :
    (∀ text settings, Settings.ofJson text = .ok settings → settings.InBounds) ∧
    (∀ settings : Settings, settings.InBounds → settings.validate = .ok () ∧
      ∀ (machine : σ) (beeper : δ) (fetcher : Fetcher) (catalog : Catalog),
        ∃ c, Console.new machine beeper fetcher catalog settings = .ok c ∧ c.Fresh settings) ∧
    ∀ settings : Settings, ¬settings.InBounds → ∃ fault, settings.faults.head? = some fault ∧
      settings.validate = .error (.settings fault) ∧
      (∀ (machine : σ) (beeper : δ) (fetcher : Fetcher) (catalog : Catalog),
        Console.new machine beeper fetcher catalog settings = .error (.settings fault)) ∧
      ∀ (host : Host σ δ) (rounds : List Round), host.run settings rounds = (host, .failed (.settings fault)) := by
  refine ⟨fun text settings => Settings.inBounds_of_ofJson, ?_, ?_⟩
  · intro settings bounds
    exact ⟨Settings.validate_eq_ok bounds, fun machine beeper fetcher catalog =>
      Console.exists_fresh machine beeper fetcher catalog bounds⟩
  · intro settings wrong
    obtain ⟨fault, first, refused⟩ := Settings.exists_fault wrong
    refine ⟨fault, first, refused, ?_, ?_⟩
    · intro machine beeper fetcher catalog
      rw [Console.new, refused]
      rfl
    · intro host rounds
      rw [Host.run, refused]

/-- An object without members is read as the defaults; and of a rate that is no number, a scale of nothing and a colour
that has only a name, the rate is what is reported. -/
theorem rate_reported_before_scale :
    let wrong : Settings := { frameRate := 0 / 0, scale := 0, foreground := "blue" }
    Settings.ofJson "\x7b\x7d" = .ok {} ∧ ({} : Settings).InBounds ∧
    (∃ c : Console Puppet Unit, Console.new {} () .promised .builtin {} = .ok c ∧ c.Fresh {}) ∧
    ¬wrong.InBounds ∧ wrong.validate = .error (.settings (.rate .frame (0 / 0))) := by
  intro wrong
  obtain ⟨reads, builds, refuses⟩ := settings_checked (σ := Puppet) (δ := Unit)
  have read : Settings.ofJson "\x7b\x7d" = .ok {} := by
    change (do Settings.validate {}; return ({} : Settings)) = _
    rw [Settings.validate_default]
    rfl
  have bounds := reads _ _ read
  have noRate : ¬(1 ≤ (0 / 0 : Float) ∧ (0 / 0 : Float) ≤ 1000) := by decide +kernel
  have notInBounds : ¬wrong.InBounds := fun bounds => noRate bounds.frameRate
  obtain ⟨fault, first, refused, -⟩ := refuses wrong notInBounds
  have reported : wrong.faults.head? = some (.rate .frame (0 / 0)) := by
    simp [Settings.faults, Settings.faultUnless, wrong, noRate]
  rw [reported, Option.some.injEq] at first
  exact ⟨read, bounds, (builds _ bounds).2 {} () .promised .builtin, notInBounds, first ▸ refused⟩

end Chip8Console
