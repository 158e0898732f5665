import BenchCharts.Png.Reader
import BenchCharts.Proofs.Path
import BenchCharts.Proofs.Raster

/-!
A picture that is read has two sides, and its pixels fit in memory.
-/

namespace BenchCharts

theorem guarded_eq_ok_iff {c : Prop} [Decidable c] {e : ε} {f : Unit → Except ε α} {a : α} :
    (if c then Except.error e >>= f else f ()) = .ok a ↔ ¬ c ∧ f () = .ok a := by
  split
  · next hc => exact iff_of_false nofun fun h => h.1 hc
  · next hc => exact (and_iff_right hc).symm

namespace Png

def Header.HasSides (header : Header) : Prop :=
  0 < header.width ∧ 0 < header.height

theorem Header.hasSides_of_ofBytes? {data : ByteArray} {header : Header}
    (h : ofBytes? data = some header) : header.HasSides := by
  unfold ofBytes? at h
  simp only [bind, Option.bind_eq_some_iff] at h
  obtain ⟨width, _, height, _, depth, _, _, _, format, _, compression, _, filter, _, _, _, h⟩ := h
  split at h
  · next hvalid =>
    cases h
    exact ⟨Nat.pos_of_ne_zero hvalid.1, Nat.pos_of_ne_zero hvalid.2.1⟩
  · cases h

def Known.HasSides (known : Known) : Prop :=
  ∀ preamble ∈ known.preamble, preamble.header.HasSides

theorem Preamble.header_of_withColors? {preamble next : Preamble} {data : ByteArray}
    (h : preamble.withColors? data = some next) : next.header = preamble.header := by
  unfold withColors? at h
  split at h <;> cases h
  rfl

theorem Preamble.header_withOpacities (preamble : Preamble) (data : ByteArray) :
    (preamble.withOpacities data).header = preamble.header := by
  unfold withOpacities
  dsimp only
  split_ifs <;> rfl

theorem Known.HasSides.add? {known next : Known} {name : ChunkName} {data : ByteArray}
    (hsides : known.HasSides) (h : known.add? name data = some next) : next.HasSides := by
  unfold Known.add? at h
  split at h
  · obtain ⟨header, hheader, rfl⟩ := Option.map_eq_some_iff.mp h
    rintro _ ⟨⟩
    exact Header.hasSides_of_ofBytes? hheader
  · next preamble hp =>
    have hpreamble := hsides preamble hp
    split_ifs at h
    · obtain ⟨colored, hcolored, rfl⟩ := Option.map_eq_some_iff.mp h
      rintro _ ⟨⟩
      exact Preamble.header_of_withColors? hcolored ▸ hpreamble
    · cases h
      rintro _ ⟨⟩
      exact preamble.header_withOpacities data ▸ hpreamble
    · cases h
      exact hsides
    · cases h
      exact hsides

theorem orMalformed_eq_ok_iff {x : Option α} {a : α} : orMalformed x = .ok a ↔ x = some a := by
  cases x with
  | none => exact iff_of_false nofun nofun
  | some b => exact ⟨fun h => congrArg _ (Except.ok.inj h), fun h => congrArg _ (Option.some.inj h)⟩

theorem preambleFrom_cases {data : ByteArray} {n start : Nat} {known : Known}
    {found : Preamble × Nat} (h : preambleFrom data (n + 1) start known = .ok found) :
    known.preamble = some found.1 ∨
      ∃ name chunk next behind, known.add? name chunk = some next ∧
        preambleFrom data n behind next = .ok found := by
  simp only [preambleFrom, guarded_eq_ok_iff, bind_eq_ok_iff] at h
  obtain ⟨size, _, name, _, _, _, h⟩ := h
  -- only behind a header can pixels end the preamble
  split at h
  · next preamble hp =>
    split at h
    · cases h
      exact .inl hp
    · simp only [guarded_eq_ok_iff, bind_eq_ok_iff, orMalformed_eq_ok_iff] at h
      obtain ⟨_, next, hnext, _, _, _, _, h⟩ := h
      exact .inr ⟨_, _, next, _, hnext, h⟩
  · simp only [guarded_eq_ok_iff, bind_eq_ok_iff, orMalformed_eq_ok_iff] at h
    obtain ⟨_, next, hnext, _, _, _, _, h⟩ := h
    exact .inr ⟨_, _, next, _, hnext, h⟩

theorem hasSides_of_preambleFrom {data : ByteArray} {n start : Nat} {known : Known}
    {found : Preamble × Nat} (hsides : known.HasSides)
    (h : preambleFrom data n start known = .ok found) : found.1.header.HasSides := by
  induction n generalizing start known with
  | zero => cases h
  | succ n ih =>
    obtain hp | ⟨name, chunk, next, behind, hnext, h⟩ := preambleFrom_cases h
    · exact hsides _ hp
    · exact ih (hsides.add? hnext) h

theorem Preamble.pixels_le_memory (preamble : Preamble) :
    preamble.header.width * preamble.header.height ≤ preamble.memory := by
  have hcolored : 1 ≤ if preamble.header.format = .palette then 3
      else preamble.header.format.samples := by
    cases preamble.header.format <;> decide
  have hbytes : 1 ≤ if preamble.header.depth = 16 then 2 else 1 := by
    split <;> decide
  rw [memory]
  exact (Nat.le_mul_of_pos_right _ (Nat.lt_add_right _ hcolored)).trans
    (Nat.le_mul_of_pos_right _ hbytes)

theorem eq_raster_of_rasterOf {preamble : Preamble} {packed : ByteArray} {flaw : Option Flaw}
    {r : Raster} (h : rasterOf preamble packed flaw = .ok r) : ∃ raw, r = preamble.raster raw := by
  unfold rasterOf at h
  dsimp only at h
  cases flaw with
  | some flaw => split_ifs at h
  | none =>
    split_ifs at h
    cases h
    exact ⟨_, rfl⟩

theorem decode_fits {data : ByteArray} {r : Raster} (h : decode data = .ok r) :
    0 < r.width ∧ 0 < r.height ∧ r.width * r.height ≤ memoryLimit := by
  simp only [decode, guarded_eq_ok_iff, bind_eq_ok_iff] at h
  obtain ⟨_, _, _, _, _, _, ⟨preamble, start⟩, hpreamble, hmemory, hraster⟩ := h
  have hstart : Known.HasSides {} := fun _ hm => nomatch hm
  obtain ⟨hwidth, hheight⟩ := hasSides_of_preambleFrom hstart hpreamble
  obtain ⟨raw, rfl⟩ := eq_raster_of_rasterOf hraster
  exact ⟨hwidth, hheight, preamble.pixels_le_memory.trans (Nat.le_of_not_lt hmemory)⟩

theorem sized_of_decode {data : ByteArray} {r : Raster} (h : decode data = .ok r) : r.Sized := by
  obtain ⟨hwidth, hheight, hfits⟩ := decode_fits h
  have hlimit : memoryLimit < Nat.pow 2 32 := by decide
  exact ⟨hwidth, hheight, (Nat.le_mul_of_pos_right _ hheight).trans_lt (hfits.trans_lt hlimit),
    (Nat.le_mul_of_pos_left _ hwidth).trans_lt (hfits.trans_lt hlimit)⟩

end Png

end BenchCharts
