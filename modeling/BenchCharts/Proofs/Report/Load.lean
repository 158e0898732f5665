import BenchCharts.Proofs.Alignment.Shared
import BenchCharts.Proofs.Dataset.Sound
import BenchCharts.Proofs.Decimal.Double
import BenchCharts.Report.Load

/-!
The report on work under load: a source has a speedup at just the numbers of threads whose time is
positive, and it has an efficiency where it has a speedup.
-/

namespace BenchCharts

namespace CountSeries

theorem usable_mapValues {s : CountSeries} {f : Nat → Float → Float}
    (h : ∀ point ∈ s.entries, (f point.1 point.2).isNaN = point.2.isNaN) :
    CountSeries.usable (s.mapValues f) =
      s.usable.map fun point => (point.1, f point.1 point.2) := by
  rw [usable, usable, OrderedMap.mapValues, List.filter_map]
  congr 1
  apply List.filter_congr
  intro point hp
  rw [Function.comp_apply, h point hp]

def Bounded (s : CountSeries) : Prop :=
  ∀ n ∈ s.keys, 0 < n ∧ n < 2 ^ 64

theorem Bounded.mapValues {s : CountSeries} (h : s.Bounded) (f : Nat → Float → Float) :
    Bounded (s.mapValues f) := by
  intro n hn
  rw [OrderedMap.keys_mapValues] at hn
  exact h n hn

end CountSeries

namespace Load

theorem times?_of_not_isEmpty {document : Document} {results : Results}
    (h : results.dataset = .extract document groupSet) (he : results.dataset.isEmpty = false) :
    ∃ times, times? results = some times := by
  have hsound := Dataset.sound_extract document groupSet
  rw [← h] at hsound
  obtain ⟨⟨name, series⟩, hm⟩ := List.exists_mem_of_ne_nil _
    (mt hsound.isEmpty_iff.mpr (Bool.eq_false_iff.mp he))
  have hnames : groupSet.groups.map (·.name) = [group] := by decide +kernel
  have hname : name = group := by
    have hn := hsound.names_sublist.subset (List.mem_map_of_mem hm)
    rw [hnames] at hn
    exact List.mem_singleton.mp hn
  have hget : results.dataset.get? group = some series :=
    (Fields.get?_eq_some_iff hsound.names_nodup).mpr (hname ▸ hm)
  have hsize := hsound.isSome_perSize? (by decide) group
  rw [hget] at hsize
  exact Option.isSome_iff_exists.mp hsize

theorem bounded_times {document : Document} {results : Results}
    (h : results.dataset = .extract document groupSet) {times : CountSeries}
    (ht : times? results = some times) : times.Bounded := by
  intro n hn
  obtain ⟨series, hg, hs⟩ := Option.bind_eq_some_iff.mp ht
  cases series with
  | perType points => cases hs
  | perSize points =>
    cases hs
    rw [h] at hg
    obtain ⟨hpos, hle⟩ := Dataset.bounds_of_threads rfl (Fields.mem_of_get?_eq_some hg) hn
    exact ⟨hpos, Nat.lt_of_le_of_lt hle (by decide)⟩

def Scaling.line (s : Scaling) (theme : Theme) (values : List Float) : Line where
  label := s.source
  values
  color := theme.sourceColor s.source s.index
  marker := .ofIndex s.index
  dash := .solid

theorem lines_union (pick : Scaling → CountSeries) (scalings : List Scaling) (theme : Theme) :
    let a := Alignment.union (scalings.map pick)
    lines a scalings theme =
      scalings.map fun s => s.line theme (a.counts.map (pick s).valueAt) := by
  intro a
  have hvalues : a.values = scalings.map fun s => a.counts.map (pick s).valueAt := List.map_map ..
  have hzip : scalings.zip a.values =
      scalings.map fun s => (s, a.counts.map (pick s).valueAt) := by
    rw [hvalues]
    conv_lhs => rw [← List.map_id scalings, List.map_map, List.zip_map']
    rfl
  rw [lines, hzip, List.map_map]
  rfl

/-- The speedup at a point of the times, where the time of one thread is `one`. -/
def ratio (one : Float) (t : Float) : Float :=
  if 0.0 < t then one / t else Decimal.nan

theorem speedup?_eq_some_iff {times speedup : CountSeries} :
    speedup? times = some speedup ↔
      ∃ one, times.get? 1 = some one ∧ speedup = times.mapValues fun _ t => ratio one t := by
  rw [speedup?, Option.map_eq_some_iff]
  exact exists_congr fun one => and_congr_right fun _ => eq_comm

theorem scaling?_eq_some_iff {results : Results} {scaling : Scaling} :
    scaling? results = some scaling ↔ ∃ times one, times? results = some times ∧
      times.get? 1 = some one ∧ scaling = ⟨results.source, results.index,
        times.mapValues fun _ t => ratio one t⟩ := by
  constructor
  · intro h
    obtain ⟨speedup, hs, rfl⟩ := Option.map_eq_some_iff.mp h
    obtain ⟨times, ht, hs⟩ := Option.bind_eq_some_iff.mp hs
    obtain ⟨one, ho, rfl⟩ := speedup?_eq_some_iff.mp hs
    exact ⟨times, one, ht, ho, rfl⟩
  · rintro ⟨times, one, ht, ho, rfl⟩
    rw [scaling?, ht, Option.bind_some, speedup?_eq_some_iff.mpr ⟨one, ho, rfl⟩]
    rfl

theorem isNaN_share {threads : Nat} (hpos : 0 < threads) (hlt : threads < 2 ^ 64) (s : Float) :
    (s / Float.ofNat threads * 100.0).isNaN = s.isNaN := by
  have hhundred : ∃ sign m e hm, (100.0 : Float).toModel.unpack = .finite sign m e hm :=
    ⟨_, _, _, _, rfl⟩
  rw [Decimal.isNaN_mul hhundred, Decimal.isNaN_div (Decimal.finite_ofNat hpos hlt)]

theorem usable_efficiency {speedup : CountSeries} (h : speedup.Bounded) :
    (efficiency speedup).usable =
      speedup.usable.map fun point => (point.1, point.2 / Float.ofNat point.1 * 100.0) := by
  apply CountSeries.usable_mapValues
  intro point hp
  obtain ⟨hpos, hlt⟩ := h point.1 (List.mem_map_of_mem hp)
  exact isNaN_share hpos hlt point.2

end Load

end BenchCharts
