import BenchCharts.Proofs.Decimal.Positive
import BenchCharts.Proofs.Label.Threads
import BenchCharts.Proofs.Report.Load

/-!
Nothing is divided by zero in the report on work under load. Times that are not positive are left
out, and a number of threads is at least one: a label counts the main thread, too, and a sum of more
than 64 bits is none.
-/

namespace BenchCharts.Load

open Decimal Text

/-- What is divided by what in a speedup and in its efficiency. -/
structure Quotients (times speedup : CountSeries) : Prop where
  keys_speedup : speedup.keys = times.keys
  keys_efficiency : (efficiency speedup).keys = times.keys
  /-- The time of one thread is divided by a time; a time that is not positive gives a gap. -/
  ratios : ∃ one, times.get? 1 = some one ∧ ∀ n t, times.get? n = some t →
    (0.0 < t ∧ NonZero t ∧ speedup.get? n = some (one / t)) ∨
      (¬ 0.0 < t ∧ speedup.get? n = some nan)
  shares : ∀ n s, speedup.get? n = some s → NonZero (Float.ofNat n) ∧
    (efficiency speedup).get? n = some (s / Float.ofNat n * 100.0)

theorem quotients_of_speedup? {times speedup : CountSeries}
    (hbounds : times.Bounded) (h : speedup? times = some speedup) :
    Quotients times speedup := by
  obtain ⟨one, hone, rfl⟩ := speedup?_eq_some_iff.mp h
  have hkeys : OrderedMap.keys (times.mapValues fun _ t => ratio one t) = times.keys :=
    OrderedMap.keys_mapValues ..
  constructor
  · exact hkeys
  · exact (OrderedMap.keys_mapValues ..).trans hkeys
  · refine ⟨one, hone, fun n t ht => ?_⟩
    rw [OrderedMap.get?_mapValues, ht, Option.map_some, ratio]
    by_cases hpos : 0.0 < t
    · rw [if_pos hpos]
      exact .inl ⟨hpos, nonZero_of_pos hpos, rfl⟩
    · rw [if_neg hpos]
      exact .inr ⟨hpos, rfl⟩
  · intro n s hs
    have hn : n ∈ times.keys := by
      rw [← hkeys]
      exact OrderedMap.mem_keys_iff.mpr (Option.isSome_of_eq_some hs)
    obtain ⟨hpos, hlt⟩ := hbounds n hn
    rw [efficiency, OrderedMap.get?_mapValues, hs]
    exact ⟨nonZero_of_finite (finite_ofNat hpos hlt), rfl⟩

/-- A label of `n` extra threads counts `n + 1`, in whatever letters and with whatever blanks it is
written, and no count wraps around. So all counts of a group are positive, and no divisor of its
speedup and its efficiency is zero. -/
theorem divisors_nonZero :
    (∀ s n, Label.threadsOfText? s = some n → 1 ≤ n ∧ n ≤ maxCount) ∧
    (∀ text ds n, Label.WritesExtra text ds → natural? ds = some n →
      ∀ before after, AllBlank before → Label.threadsOfText? (before ++ text ++ after) =
        if n < maxCount then some (n + 1) else none) ∧
    ∀ (set : GroupSet) document, set.shape = .threads →
      ∀ name series, (name, series) ∈ (Dataset.extract document set).groups →
        (∀ n ∈ series.counts, 1 ≤ n ∧ n ≤ maxCount) ∧
          ∃ times, series = .perSize times ∧
            ∀ speedup, speedup? times = some speedup → Quotients times speedup := by
  refine ⟨fun s n => Label.bounds_of_threadsOfText?, fun text ds n hw hn before after hb =>
    hw.threadsOfText?_eq hn hb after, fun set document hs name series h => ?_⟩
  have hbounds {n : Nat} (hn : n ∈ series.counts) := Dataset.bounds_of_threads hs h hn
  refine ⟨fun n => hbounds, ?_⟩
  have hget : (Dataset.extract document set).get? name = some series :=
    (Fields.get?_eq_some_iff (Dataset.sound_extract document set).names_nodup).mpr h
  have hshape : set.shape ≠ .typed := by
    rw [hs]
    decide
  obtain ⟨times, rfl, _⟩ := Dataset.measured_of_get?_extract hshape hget
  refine ⟨times, rfl, fun speedup hspeedup => ?_⟩
  apply quotients_of_speedup? _ hspeedup
  intro n hn
  exact ⟨(hbounds hn).1, Nat.lt_of_le_of_lt (hbounds hn).2 (by decide)⟩

/-- No blanks but a tab, and a leading zero; a number of threads that takes 65 bits; a time of
zero. -/
theorem divisors_nonZero_primes :
    let row (name : String) (time : Int) : Json :=
      .object [("name", .string name), ("avg", .int time)]
    let dataset := Dataset.extract (.mapping [(group, .array [row "main" 800,
      row "MAIN+07Extra\tthreads" 100, row "main + 18446744073709551615 extra threads" 50,
      row "main + 1 extra threads" 0])]) groupSet
    groupSet.shape = .threads ∧ Label.threadsOfText? "MAIN+07Extra\tthreads".toList = some 8 ∧
      Label.threadsOfText? "main + 18446744073709551615 extra threads".toList = none ∧
      ∃ times speedup, dataset.perSize? group = some times ∧ times.keys = [1, 2, 8] ∧
        speedup? times = some speedup ∧ Quotients times speedup ∧
        (efficiency speedup).entries.map (·.2.isNaN) = [false, true, false] := by
  intro row dataset
  obtain ⟨-, hlabels, hgroups⟩ := divisors_nonZero
  have hnone : AllBlank [] := List.forall_mem_nil _
  have htab : AllBlank ['\t'] := List.forall_mem_singleton.mpr (by decide)
  have hspace : AllBlank [' '] := List.forall_mem_singleton.mpr (by decide)
  have hmain : Label.Spells "MAIN".toList "main".toList := rfl
  have hextra : Label.Spells "Extra".toList "extra".toList := rfl
  have hthreads : Label.Spells "threads".toList "threads".toList := rfl
  have hnumeral : Label.IsNumeral "07".toList := ⟨by decide, List.all_eq_true.mp rfl⟩
  have hseven := hlabels _ _ 7
    (.mk hmain hnone hnone hnumeral hnone hextra htab hthreads) rfl [] [] hnone
  have hmain : Label.Spells "main".toList "main".toList := rfl
  have hextra : Label.Spells "extra".toList "extra".toList := rfl
  have hnumeral : Label.IsNumeral "18446744073709551615".toList :=
    ⟨by decide, List.all_eq_true.mp rfl⟩
  have hmany := hlabels _ _ 18446744073709551615
    (.mk hmain hspace hspace hnumeral hspace hextra hspace hthreads) (by decide +kernel) [] [] hnone
  rw [if_neg (by decide)] at hmany
  have hcomputed : ((dataset.perSize? group).bind fun times => (speedup? times).map fun speedup =>
      (times.keys, (efficiency speedup).entries.map (·.2.isNaN))) =
        some ([1, 2, 8], [false, true, false]) := by decide +kernel
  obtain ⟨times, ht, hcomputed⟩ := Option.bind_eq_some_iff.mp hcomputed
  obtain ⟨speedup, hspeedup, hcomputed⟩ := Option.map_eq_some_iff.mp hcomputed
  obtain ⟨hkeys, hgaps⟩ := Prod.mk.inj hcomputed
  obtain ⟨series, hget, hsize⟩ := Option.bind_eq_some_iff.mp ht
  have hmem := Fields.mem_of_get?_eq_some hget
  obtain ⟨-, _, rfl, hquotients⟩ := hgroups groupSet _ rfl group series hmem
  cases hsize
  exact ⟨rfl, hseven, hmany, times, speedup, ht, hkeys, hspeedup, hquotients speedup hspeedup,
    hgaps⟩

end BenchCharts.Load
