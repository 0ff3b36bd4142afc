import Chip8Console.Catalog.Document
import Chip8Console.Proofs.Json.Values

/-! # Catalogs read back

What is written for a key, a line, a mapping or a program reads back, and so does a list of programs.  It
makes a catalog if there is a program in it (`catalog_reads_back`).
-/

namespace Chip8Console

open Json (Inverts)

theorem HostKey.inverts_read : Inverts HostKey.read fun key => Json.writeNat key.code.toNat where
  begins key := Json.writeNat_begins _
  reads key rest settled := by
    rw [HostKey.read, Json.readNatBelow_writeNat key.code.toNat_lt (by decide) "u32" settled]
    simp [bind, Except.bind, pure, Except.pure]

theorem KeyLine.inverts_read : Inverts KeyLine.read fun line => Json.writeNat line.number.toNat where
  begins line := Json.writeNat_begins _
  reads line rest settled := by
    rw [KeyLine.read, Json.readNatBelow_writeNat line.number.toNat_lt (by decide) "u8" settled]
    simp [KeyLine.ofNumber_number, bind, Except.bind, pure, Except.pure]

open Json.Record (Fills)

theorem KeyMapping.inverts_read : Inverts KeyMapping.record.read KeyMapping.write := by
  refine Json.Record.inverts (fun m =>
    { key := some m.key, line := some m.line, description := some m.description }) (fun m => ?_) fun _ => rfl
  apply Fills.put HostKey.inverts_read (fun key => { key := some key }) m.key rfl rfl fun _ => rfl
  apply Fills.put KeyLine.inverts_read (fun line => { key := some m.key, line := some line }) m.line rfl rfl fun _ => rfl
  apply Fills.put Json.inverts_readString (fun description =>
    { key := some m.key, line := some m.line, description := some description }) m.description rfl rfl fun _ => rfl
  exact .done _

theorem KeyMapping.ofJson_toJson (m : KeyMapping) : ofJson m.toJson = .ok m := by
  rw [ofJson, toJson, KeyMapping.inverts_read.parse]
  rfl

theorem Program.inverts_read : Inverts Program.record.read Program.write := by
  refine Json.Record.inverts (fun p =>
    { name := some p.name, locator := some p.locator, mappings := some p.mappings }) (fun p => ?_) fun _ => rfl
  apply Fills.put Json.inverts_readString (fun name => { name := some name }) p.name rfl rfl fun _ => rfl
  apply Fills.put Json.inverts_readString (fun locator => { name := some p.name, locator := some locator }) p.locator
    rfl rfl fun _ => rfl
  apply Fills.put KeyMapping.inverts_read.list (fun mappings =>
    { name := some p.name, locator := some p.locator, mappings := some mappings }) p.mappings rfl rfl fun _ => rfl
  exact .done _

theorem Program.ofJson_toJson (p : Program) : ofJson p.toJson = .ok p := by
  rw [ofJson, toJson, Program.inverts_read.parse]
  rfl

/-- The text of a non-empty list of programs is that of a catalog, with these programs in their order. -/
theorem catalog_reads_back (first : Program) (others : List Program) :
    ∃ c, Catalog.ofJson (Catalog.programsJson (first :: others)) = .ok c ∧ c.programs = first :: others := by
  have read := Program.inverts_read.list.parse (first :: others)
  refine ⟨{ first, others }, ?_, rfl⟩
  rw [Catalog.ofJson, Catalog.programsJson, read]
  rfl

end Chip8Console
