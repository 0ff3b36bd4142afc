import Chip8Console.Proofs.Json.Doubles
import Chip8Console.Proofs.Settings.Bounds
import Chip8Console.Settings.Document

/-! # Settings laid over the defaults

Settings may be given in part: an object with some of the written fields, in any order and mixed with members of other
names, is read as the settings that have these fields and the defaults elsewhere (`settings_overlay`).  With all fields
this is the round trip.  That doubles are read back from their shortest digits is due to `Json.ReadsNearest`.
-/

namespace Chip8Console.Settings

open Json.Record (Accepts Takes)
open Json (ReadsAs Blank Member Names Between IsValue)

/-- The fields of settings. -/
inductive Part where
  | frameRate
  | refreshRate
  | scale
  | foreground
  | programFolder
  | catalogFile
  | keyHold
  | sound
deriving DecidableEq

/-- The name of a field in JSON. -/
def Part.name : Part → String
  | .frameRate => "frame_rate"
  | .refreshRate => "refresh_rate"
  | .scale => "scale"
  | .foreground => "foreground"
  | .programFolder => "rom_dir"
  | .catalogFile => "catalog"
  | .keyHold => "key_hold_ms"
  | .sound => "sound"

variable (c : Settings)

/-- What is written for a field. -/
def written : Part → List Char
  | .frameRate => Json.writeDouble c.frameRate
  | .refreshRate => Json.writeDouble c.refreshRate
  | .scale => Json.writeNat c.scale
  | .foreground => Json.writeString c.foreground
  | .programFolder => Json.writeString c.programFolder
  | .catalogFile => Json.writeString? c.catalogFile
  | .keyHold => Json.writeNat c.keyHold
  | .sound => Json.writeBool c.sound

/-- The fields in the order in which they are written. -/
def parts : List Part :=
  [.frameRate, .refreshRate, .scale, .foreground, .programFolder, .catalogFile, .keyHold, .sound]

instance : Fintype Part where
  elems := parts.toFinset
  complete part := by cases part <;> decide

theorem members_eq : c.members = parts.map fun part => (part.name, c.written part) :=
  rfl

/-- The settings that have some of the fields, and the defaults elsewhere. -/
def overlay (given : Finset Part) : Settings :=
  let default : Settings := {}
  { frameRate := if .frameRate ∈ given then c.frameRate else default.frameRate
    refreshRate := if .refreshRate ∈ given then c.refreshRate else default.refreshRate
    scale := if .scale ∈ given then c.scale else default.scale
    foreground := if .foreground ∈ given then c.foreground else default.foreground
    programFolder := if .programFolder ∈ given then c.programFolder else default.programFolder
    catalogFile := if .catalogFile ∈ given then c.catalogFile else default.catalogFile
    keyHold := if .keyHold ∈ given then c.keyHold else default.keyHold
    sound := if .sound ∈ given then c.sound else default.sound }

theorem overlay_univ : c.overlay Finset.univ = c := by
  simp [overlay]

/-- Members some of which are written fields, each of them once, and the others of names that no field has. -/
inductive Mixes : List Member → Finset Part → Prop where
  | done : Mixes [] ∅
  | own {m : Member} {members : List Member} {given : Finset Part} (part : Part) (named : Names m.name.content part.name)
      (value : m.value.content = c.written part) (once : part ∉ given) (more : Mixes members given) :
      Mixes (m :: members) (insert part given)
  | foreign {m : Member} {members : List Member} {given : Finset Part} {name : String}
      (named : Names m.name.content name) (unknown : ∀ part : Part, name ≠ part.name)
      (isValue : IsValue m.value.content) (more : Mixes members given) : Mixes (m :: members) given

/-! ## Rates -/

section Rates

open Float.Model.UnpackedFloat

theorem unpack_minRate : minRate.toModel.unpack = .finite .positive 4503599627370496 (-52) (by decide) :=
  rfl

theorem unpack_maxRate : maxRate.toModel.unpack = .finite .positive 8796093022208000 (-43) (by decide) :=
  rfl

variable {rate : Float}

theorem rate_positive (bounds : rateInBounds rate) :
    ∃ mantissa exponent positive, rate.toModel.unpack = .finite .positive mantissa exponent positive := by
  simp only [rateInBounds, Bool.and_eq_true, decide_eq_true_eq, Binary64.le_iff, unpack_minRate, unpack_maxRate] at bounds
  obtain ⟨above, below⟩ := bounds
  generalize rate.toModel.unpack = unpacked at above below
  cases unpacked with
  | finite sign mantissa exponent positive =>
    cases sign with
    | positive => exact ⟨mantissa, exponent, positive, rfl⟩
    | negative => cases above
  | zero sign => cases sign <;> cases above
  | infinity sign =>
    cases sign with
    | positive => cases below
    | negative => cases above
  | notANumber => cases above

end Rates

/-! ## Drafts -/

/-- The draft that has some of the fields. -/
def draft (given : Finset Part) : Draft where
  frameRate := if .frameRate ∈ given then some c.frameRate else none
  refreshRate := if .refreshRate ∈ given then some c.refreshRate else none
  scale := if .scale ∈ given then some c.scale else none
  foreground := if .foreground ∈ given then some c.foreground else none
  programFolder := if .programFolder ∈ given then some c.programFolder else none
  catalogFile := if .catalogFile ∈ given then some c.catalogFile else none
  keyHold := if .keyHold ∈ given then some c.keyHold else none
  sound := if .sound ∈ given then some c.sound else none

theorem draft_empty : c.draft ∅ = record.blank :=
  rfl

theorem build_draft (given : Finset Part) : (c.draft given).build = c.overlay given := by
  have choose {α : Type} (p : Prop) [Decidable p] (a default : α) :
      (if p then some a else none).getD default = if p then a else default := by
    split <;> rfl
  simp only [Draft.build, draft, overlay, choose]

variable {c} {given : Finset Part}

theorem readsAs_rate {rate : Float} (bounds : rateInBounds rate) :
    ReadsAs Json.readDouble (Json.writeDouble rate) rate := by
  obtain ⟨mantissa, exponent, positive, unpacked⟩ := rate_positive bounds
  exact Json.readsAs_writeDouble unpacked

/-- A written field goes into every draft that does not have it yet. -/
theorem accepts_part (valid : c.validate = .ok ()) {part : Part} (missing : part ∉ given) :
    record.Accepts (c.draft given) part.name (c.written part) (c.draft (insert part given)) := by
  obtain ⟨frameRate, refreshRate, ⟨-, scale⟩, hold, -⟩ := validate_eq_ok_iff.mp valid
  have usize : c.scale < UInt64.size := Nat.lt_of_le_of_lt scale (by decide)
  have u64 : c.keyHold < UInt64.size := Nat.lt_of_le_of_lt hold (by decide)
  cases part with
  | frameRate =>
    exact .put (readsAs_rate frameRate) (fun rate => { c.draft given with frameRate := some rate })
      rfl (by simp [draft, missing]) (fun _ => rfl) (by simp [draft])
  | refreshRate =>
    exact .put (readsAs_rate refreshRate) (fun rate => { c.draft given with refreshRate := some rate })
      rfl (by simp [draft, missing]) (fun _ => rfl) (by simp [draft])
  | scale =>
    exact .put (Json.readsAs_writeNat usize (Nat.le_refl _) _)
      (fun scale => { c.draft given with scale := some scale })
      rfl (by simp [draft, missing]) (fun _ => rfl) (by simp [draft])
  | foreground =>
    exact .put (Json.readsAs_writeString c.foreground)
      (fun foreground => { c.draft given with foreground := some foreground })
      rfl (by simp [draft, missing]) (fun _ => rfl) (by simp [draft])
  | programFolder =>
    exact .put (Json.readsAs_writeString c.programFolder)
      (fun folder => { c.draft given with programFolder := some folder })
      rfl (by simp [draft, missing]) (fun _ => rfl) (by simp [draft])
  | catalogFile =>
    exact .put (Json.readsAs_writeString? c.catalogFile)
      (fun file => { c.draft given with catalogFile := some file })
      rfl (by simp [draft, missing]) (fun _ => rfl) (by simp [draft])
  | keyHold =>
    exact .put (Json.readsAs_writeNat u64 (Nat.le_refl _) _) (fun hold => { c.draft given with keyHold := some hold })
      rfl (by simp [draft, missing]) (fun _ => rfl) (by simp [draft])
  | sound =>
    exact .put (Json.readsAs_writeBool c.sound) (fun sound => { c.draft given with sound := some sound })
      rfl (by simp [draft, missing]) (fun _ => rfl) (by simp [draft])

theorem names_eq : record.fields.map (·.name) = parts.map Part.name :=
  rfl

theorem find?_eq_none {name : String} (unknown : ∀ part : Part, name ≠ part.name) :
    record.fields.find? (·.name == name) = none := by
  rw [List.find?_eq_none]
  intro field listed
  have named : field.name ∈ parts.map Part.name := names_eq ▸ List.mem_map_of_mem listed
  obtain ⟨part, -, same⟩ := List.mem_map.mp named
  simpa [← same] using (unknown part).symm

/-- Members that mix written fields with others fill every draft that has none of these fields yet. -/
theorem Mixes.takes (valid : c.validate = .ok ()) {members : List Member} (mixes : Mixes c members given)
    {earlier : Finset Part} (apart : Disjoint earlier given) :
    Takes record (c.draft earlier) members (c.draft (earlier ∪ given)) := by
  induction mixes generalizing earlier with
  | done =>
    rw [Finset.union_empty]
    exact .done _
  | own part named value once more ih =>
    -- The field is not among the earlier ones, and those that come later are not the field.
    obtain ⟨missing, apart⟩ := Finset.disjoint_insert_right.mp apart
    have accepts := accepts_part valid missing
    rw [Finset.union_insert, ← Finset.insert_union]
    exact .member named (value ▸ accepts) (ih (Finset.disjoint_insert_left.mpr ⟨once, apart⟩))
  | foreign named unknown isValue more ih =>
    exact .member named (.foreign (find?_eq_none unknown) isValue) (ih apart)

theorem validate_overlay (valid : c.validate = .ok ()) (given : Finset Part) : (c.overlay given).validate = .ok () := by
  obtain ⟨frameRate, refreshRate, scale, hold, foreground⟩ := validate_eq_ok_iff.mp valid
  obtain ⟨frameRate', refreshRate', scale', hold', foreground'⟩ := validate_eq_ok_iff.mp validate_default
  rw [validate_eq_ok_iff]
  refine ⟨?_, ?_, ?_, ?_, ?_⟩
  -- Each bound is about one field, and that is one of the two.
  all_goals
    simp only [overlay]
    split <;> assumption

theorem toJson_eq (c : Settings) :
    c.toJson = String.ofList ('\x7b' :: (Json.separated ((c.members.map Member.written).map Member.text) ++ ['\x7d'])) := by
  simp [toJson, Json.writeObject, Function.comp_def]

theorem mixes_written {some : List Part} (once : some.Nodup) :
    Mixes c (some.map fun part => .written (part.name, c.written part)) some.toFinset := by
  induction some with
  | nil => exact .done
  | cons part some ih =>
    rw [List.nodup_cons] at once
    rw [List.map_cons, List.toFinset_cons]
    exact .own part (Json.names_writeString _) rfl (by simpa using once.1) (ih once.2)

/-- An object with some of the written fields, each of them once, in any order and among members of other names, is
read as the settings that have these fields, and the defaults elsewhere; with all fields, it reads back. -/
theorem settings_overlay (valid : c.validate = .ok ()) :
    (∀ (given : Finset Part) (members : List Member) (before inner after : List Char), Mixes c members given →
      Between inner (members.map Member.text) → Blank before → Blank after →
        ofJson (String.ofList (before ++ '\x7b' :: (inner ++ '\x7d' :: after))) = .ok (c.overlay given)) ∧
    ofJson c.toJson = .ok c := by
  have reads (given : Finset Part) (members : List Member) (before inner after : List Char)
      (mixes : Mixes c members given) (layout : Between inner (members.map Member.text)) (blank_before : Blank before)
      (blank_after : Blank after) :
      ofJson (String.ofList (before ++ '\x7b' :: (inner ++ '\x7d' :: after))) = .ok (c.overlay given) := by
    have takes := mixes.takes valid (Finset.disjoint_empty_left given)
    rw [Finset.empty_union, draft_empty] at takes
    have build : record.build (c.draft given) = .ok (c.overlay given) := congrArg _ (c.build_draft given)
    have parsed := takes.parse build blank_before layout blank_after
    simp only [ofJson, parsed, Except.mapError, validate_overlay valid given, bind, Except.bind]
    rfl
  refine ⟨reads, ?_⟩
  have mixes : Mixes c (c.members.map Member.written) Finset.univ := by
    rw [members_eq, List.map_map]
    exact mixes_written (show parts.Nodup by decide)
  have all := reads Finset.univ _ [] _ [] mixes (Json.between_separated _) .nil .nil
  rw [overlay_univ] at all
  rw [toJson_eq]
  exact all

/-- Two fields in another order, among white space and around a member whose value has members of its own. -/
theorem overlay_around_nested_members :
    let c : Settings :=
      { frameRate := 59.94, refreshRate := 144.5, scale := 7, foreground := "#00ff7F", programFolder := "my \"roms\"\n",
        catalogFile := some "games.json", sound := true }
    c.validate = .ok () ∧
    ofJson "\x7b\n  \"sound\": true,\"more\":[\x7b\"sound\":null\x7d,\"\\ud800\"],\"frame_rate\":59.94\x7d" =
      .ok { frameRate := 59.94, sound := true } ∧
    ofJson c.toJson = .ok c := by
  intro c
  have colour : Colour.parse "#00ff7F" = .ok ⟨0x00, 0xff, 0x7f⟩ := rfl
  have valid : c.validate = .ok () :=
    validate_eq_ok_iff.mpr ⟨by decide +kernel, by decide +kernel, by decide, by decide, _, colour⟩
  obtain ⟨reads, back⟩ := settings_overlay valid
  let sound : Member :=
    { name := { before := ['\n', ' ', ' '], content := Json.writeString "sound", after := []
                blank_before := by simp [Blank, Json.isBlank], blank_after := .nil }
      value := { before := [' '], content := c.written .sound, after := []
                 blank_before := by simp [Blank, Json.isBlank], blank_after := .nil } }
  let nested := Json.writeList [Json.writeObject [("sound", "null".toList)], Json.quote ['\\', 'u', 'd', '8', '0', '0']]
  have half : Json.Letters ['\\', 'u', 'd', '8', '0', '0'] :=
    .code (by simp [Text.hexValue?]) .nil
  have isValue : IsValue nested := by
    refine Json.isValue_writeList (List.forall_mem_cons.mpr ⟨Json.isValue_writeObject ?_, List.forall_mem_singleton.mpr ?_⟩)
    · exact List.forall_mem_singleton.mpr .null
    · exact .text half
  let members := [sound, .written ("more", nested), .written ("frame_rate", c.written .frameRate)]
  have mixes : Mixes c members {.sound, .frameRate} :=
    .own .sound (Json.names_writeString _) rfl (by decide) <|
      .foreign (Json.names_writeString _) (by decide) isValue <|
      .own .frameRate (Json.names_writeString _) rfl (by decide) .done
  have read := reads _ members [] _ [] mixes (Json.between_separated _) .nil .nil
  have text : "\x7b\n  \"sound\": true,\"more\":[\x7b\"sound\":null\x7d,\"\\ud800\"],\"frame_rate\":59.94\x7d" =
      String.ofList ([] ++ '\x7b' :: (Json.separated (members.map Member.text) ++ '\x7d' :: [])) := by
    decide +kernel
  refine ⟨valid, ?_, back⟩
  rw [text, read]
  rfl

end Chip8Console.Settings
