import BenchCharts.Label
import BenchCharts.Label.Threads
import BenchCharts.Proofs.Text.Blank

/-!
Categories of labels have no blanks at their ends, by whichever notation a label is split. Numbers
of threads are at least one and have 64 bits.
-/

namespace BenchCharts.Label

open Text

theorem trimmed_of_byNotation? {s : List Char} {n : Notation} {label : Label}
    (h : byNotation? s n = some label) : Trimmed label.category.toList := by
  obtain ⟨m, _, h⟩ := Option.bind_eq_some_iff.mp h
  obtain ⟨count, _, h⟩ := Option.bind_eq_some_iff.mp h
  cases h
  rw [String.toList_ofList]
  exact trimmed_trim _

theorem trimmed_ofText (s : List Char) : Trimmed (ofText s).category.toList := by
  unfold ofText
  dsimp only
  cases hf : notations.findSome? (byNotation? (trim s)) with
  | none =>
    rw [Option.getD_none, String.toList_ofList]
    exact trimmed_trim s
  | some label =>
    obtain ⟨n, _, hn⟩ := List.exists_of_findSome?_eq_some hf
    exact trimmed_of_byNotation? hn

theorem trimmed_of_count {label : Json} {count : Nat} (h : (ofJson label).count = some count) :
    Trimmed (ofJson label).category.toList := by
  cases label with
  | string s => exact trimmed_ofText s.toList
  | _ => cases h

theorem bounds_of_threadsOfText? {s : List Char} {threads : Nat}
    (h : threadsOfText? s = some threads) : 0 < threads ∧ threads ≤ Decimal.maxCount := by
  unfold threadsOfText? at h
  split at h
  · cases h
    exact ⟨Nat.one_pos, by decide⟩
  · obtain ⟨m, _, h⟩ := Option.bind_eq_some_iff.mp h
    obtain ⟨extra, _, h⟩ := Option.bind_eq_some_iff.mp h
    split at h
    · next hle =>
      cases h
      exact ⟨Nat.succ_pos extra, hle⟩
    · cases h

end BenchCharts.Label
