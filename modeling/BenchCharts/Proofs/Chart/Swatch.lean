import BenchCharts.Chart.Swatch
import Mathlib.Algebra.Group.Int.Defs

/-!
A swatch shows its dash pixel by pixel: a pixel is drawn exactly if it lies in the first part of its
period, wherever the swatch ends. No place wraps around on the way.
-/

namespace BenchCharts.Dash

theorem pattern?_eq_none_iff {dash : Dash} : dash.pattern? = none ↔ dash = solid := by
  cases dash <;> simp [pattern?]

theorem pattern?_bounds {dash : Dash} {on off : Nat} (h : dash.pattern? = some (on, off)) :
    0 < on ∧ on ≤ 12 := by
  cases dash <;> cases h <;> decide

theorem ne_solid_of_pattern? {dash : Dash} {lengths : Nat × Nat}
    (h : dash.pattern? = some lengths) : dash ≠ solid := by
  rintro rfl
  cases h

theorem swatch_of_pattern? {dash : Dash} {on off : Nat} (h : dash.pattern? = some (on, off))
    (length : Int) : dash.swatch length = pieces on off length := by
  rw [swatch, h]

theorem placeBehind_of_lt {start : Int} {n : Nat} (h0 : 0 ≤ start) (h : start + n < 2 ^ 31) :
    placeBehind start n = start + n := by
  have hpow : Nat.pow 2 32 = 4294967296 := rfl
  rw [placeBehind, hpow]
  exact Int.bmod_eq_of_le (by omega) (by omega)

/-- Pixel `p` of a line belongs to a dash and not to a gap. -/
def Draws (dash : Dash) (p : Int) : Prop :=
  dash = solid ∨ ∃ on off : Nat, dash.pattern? = some (on, off) ∧ p % (on + off) < on

theorem draws_iff {dash : Dash} {on off : Nat} (h : dash.pattern? = some (on, off)) {p : Int} :
    dash.Draws p ↔ p % (on + off) < on := by
  constructor
  · rintro (hsolid | ⟨on', off', h', hmod⟩)
    · exact absurd hsolid (ne_solid_of_pattern? h)
    · cases h.symm.trans h'
      exact hmod
  · exact fun hmod => .inr ⟨on, off, h, hmod⟩

theorem lt_begun_iff {k n period : Nat} (h : 0 < period) :
    k < (n + period - 1) / period ↔ k * period < n := by
  rw [Nat.lt_div_iff_mul_lt h]
  omega

theorem exists_period_iff {on off p : Nat} :
    (∃ k, k * (on + off) ≤ p ∧ p < k * (on + off) + on) ↔ p % (on + off) < on := by
  constructor
  · rintro ⟨k, hle, hlt⟩
    obtain ⟨r, rfl⟩ := Nat.exists_eq_add_of_le hle
    have hr : r < on := Nat.lt_of_add_lt_add_left hlt
    rw [Nat.mul_add_mod_self_right, Nat.mod_eq_of_lt (Nat.lt_add_right off hr)]
    exact hr
  · intro h
    refine ⟨p / (on + off), Nat.div_mul_le_self p _, ?_⟩
    have := Nat.div_add_mod' p (on + off)
    omega

section Pieces

variable {on off : Nat} {length : Int}

theorem mem_range_begun_iff {k : Nat} (hon : 0 < on) :
    k ∈ List.range ((length.toNat + (on + off) - 1) / (on + off)) ↔
      ((k * (on + off) : Nat) : Int) < length := by
  rw [List.mem_range, lt_begun_iff (Nat.add_pos_left hon off)]
  omega

/-- As long as the pixels fit into 31 bits, no piece ends at a place that has wrapped around. -/
theorem pieces_eq (hon : 0 < on) (hfit : length + on ≤ 2 ^ 31) :
    pieces on off length =
      (List.range ((length.toNat + (on + off) - 1) / (on + off))).map fun (k : Nat) =>
        (((k * (on + off) : Nat) : Int), min (((k * (on + off) : Nat) : Int) + on) length) := by
  apply List.map_congr_left
  intro k hk
  have hlt := (mem_range_begun_iff hon).mp hk
  dsimp only
  rw [placeBehind_of_lt (Int.natCast_nonneg _) (by omega)]

theorem mem_pieces_iff (hon : 0 < on) (hfit : length + on ≤ 2 ^ 31) {run : Int × Int} :
    run ∈ pieces on off length ↔ ∃ k : Nat, ((k * (on + off) : Nat) : Int) < length ∧
      run = (((k * (on + off) : Nat) : Int), min (((k * (on + off) : Nat) : Int) + on) length) := by
  rw [pieces_eq hon hfit, List.mem_map]
  constructor
  · rintro ⟨k, hk, rfl⟩
    exact ⟨k, (mem_range_begun_iff hon).mp hk, rfl⟩
  · rintro ⟨k, hk, rfl⟩
    exact ⟨k, (mem_range_begun_iff hon).mpr hk, rfl⟩

theorem pairwise_pieces (hon : 0 < on) (hfit : length + on ≤ 2 ^ 31) :
    (pieces on off length).Pairwise fun run next => run.1 < next.1 ∧ run.2 ≤ next.1 := by
  rw [pieces_eq hon hfit, List.pairwise_map]
  apply List.pairwise_lt_range.imp
  intro j k hjk
  -- the next period begins a whole period later, at the earliest
  have hstep : (j + 1) * (on + off) ≤ k * (on + off) := Nat.mul_le_mul_right _ hjk
  rw [Nat.succ_mul] at hstep
  dsimp only
  omega

theorem bounds_of_mem_pieces (hon : 0 < on) (hfit : length + on ≤ 2 ^ 31) {run : Int × Int}
    (hrun : run ∈ pieces on off length) :
    0 ≤ run.1 ∧ run.1 < run.2 ∧ run.2 ≤ length ∧ run.2 - run.1 ≤ on := by
  obtain ⟨k, hk, rfl⟩ := (mem_pieces_iff hon hfit).mp hrun
  dsimp only
  omega

theorem exists_mem_pieces_iff (hon : 0 < on) (hfit : length + on ≤ 2 ^ 31) {p : Int}
    (h0 : 0 ≤ p) (hp : p < length) :
    (∃ run ∈ pieces on off length, run.1 ≤ p ∧ p < run.2) ↔ p % (on + off) < on := by
  obtain ⟨p, rfl⟩ := Int.eq_ofNat_of_zero_le h0
  have hmod : (p : Int) % (on + off) < on ↔ p % (on + off) < on := by norm_cast
  rw [hmod, ← exists_period_iff]
  constructor
  · rintro ⟨run, hrun, hle, hlt⟩
    obtain ⟨k, -, rfl⟩ := (mem_pieces_iff hon hfit).mp hrun
    dsimp only at hle hlt
    exact ⟨k, by omega, by omega⟩
  · rintro ⟨k, hle, hlt⟩
    refine ⟨_, (mem_pieces_iff hon hfit).mpr ⟨k, by omega, rfl⟩, ?_⟩
    dsimp only
    omega

end Pieces

/-- The pieces of a swatch follow one another and stay within its length, and together they are the
pixels that the dash draws. A piece of a dash with gaps is never empty and never longer than the
dash asks for. -/
theorem swatch_follows_pattern (dash : Dash) {length : Int} (h0 : 0 ≤ length)
    (h : length ≤ 2 ^ 31 - 17) :
    let runs := dash.swatch length
    runs.Pairwise (fun run next => run.1 < next.1 ∧ run.2 ≤ next.1) ∧
      (∀ run ∈ runs, 0 ≤ run.1 ∧ run.1 ≤ run.2 ∧ run.2 ≤ length) ∧
      (∀ p, 0 ≤ p → p < length →
        ((∃ run ∈ runs, run.1 ≤ p ∧ p < run.2) ↔ dash.Draws p)) ∧
      (dash ≠ solid → ∃ on off : Nat, dash.pattern? = some (on, off) ∧
        ∀ run ∈ runs, run.1 < run.2 ∧ run.2 - run.1 ≤ on) := by
  intro runs
  cases hpattern : dash.pattern? with
  | none =>
    obtain rfl : dash = solid := pattern?_eq_none_iff.mp hpattern
    have hruns : runs = [(0, length)] := rfl
    rw [hruns]
    refine ⟨List.pairwise_singleton _ _, fun run hrun => ?_, fun p hp0 hp => ?_,
      fun hne => absurd rfl hne⟩
    · rw [List.mem_singleton.mp hrun]
      exact ⟨Int.le_refl 0, h0, Int.le_refl length⟩
    · exact iff_of_true ⟨_, List.mem_singleton_self _, hp0, hp⟩ (.inl rfl)
  | some lengths =>
    obtain ⟨on, off⟩ := lengths
    obtain ⟨hon, hle⟩ := pattern?_bounds hpattern
    have hfit : length + on ≤ 2 ^ 31 := by omega
    have hruns : runs = pieces on off length := swatch_of_pattern? hpattern length
    rw [hruns]
    refine ⟨pairwise_pieces hon hfit, fun run hrun => ?_, fun p hp0 hp => ?_,
      fun _ => ⟨on, off, rfl, fun run hrun => ?_⟩⟩
    · obtain ⟨hstart, hlt, hstop, -⟩ := bounds_of_mem_pieces hon hfit hrun
      exact ⟨hstart, Int.le_of_lt hlt, hstop⟩
    · rw [exists_mem_pieces_iff hon hfit hp0 hp, draws_iff hpattern]
    · obtain ⟨-, hlt, -, hshort⟩ := bounds_of_mem_pieces hon hfit hrun
      exact ⟨hlt, hshort⟩

/-- A swatch whose end cuts off a dash. -/
theorem swatch_follows_pattern_cut_off :
    let runs := dashDot.swatch 38
    let last : Int × Int := (32, 38)
    runs = [(0, 12), (16, 28), last] ∧
      runs.Pairwise (fun run next => run.1 < next.1 ∧ run.2 ≤ next.1) ∧
      (0 ≤ last.1 ∧ last.1 ≤ last.2 ∧ last.2 ≤ 38) ∧
      (∃ run ∈ runs, run.1 ≤ 37 ∧ 37 < run.2) ∧ (¬ ∃ run ∈ runs, run.1 ≤ 29 ∧ 29 < run.2) ∧
      last.1 < last.2 ∧ last.2 - last.1 ≤ 12 := by
  intro runs last
  have hruns : runs = [(0, 12), (16, 28), last] := by decide
  have hlast : last ∈ runs := by decide
  obtain ⟨hpairwise, hwithin, hdrawn, hshort⟩ :=
    swatch_follows_pattern dashDot (show (0 : Int) ≤ 38 by decide) (by omega)
  obtain ⟨on, off, hpattern, hshort⟩ := hshort (by decide)
  cases hpattern
  refine ⟨hruns, hpairwise, hwithin last hlast, ?_, fun hgap => ?_, hshort last hlast⟩
  · exact (hdrawn 37 (by decide) (by decide)).mpr ((draws_iff rfl).mpr (by decide))
  · have hmod := (draws_iff rfl).mp ((hdrawn 29 (by decide) (by decide)).mp hgap)
    exact absurd hmod (by decide)

end BenchCharts.Dash
