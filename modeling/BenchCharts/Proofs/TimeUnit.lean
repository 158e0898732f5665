import BenchCharts.Proofs.Decimal.Double
import BenchCharts.TimeUnit

/-!
A latency shown in a unit is a number if and only if it is one in nanoseconds.
-/

namespace BenchCharts

@[simp] theorem TimeUnit.isNaN_ofNanos (unit : TimeUnit) (x : Float) :
    (unit.ofNanos x).isNaN = x.isNaN := by
  have hfinite : ∃ s m e hm, unit.nanos.toModel.unpack = .finite s m e hm := by
    cases unit <;> exact ⟨_, _, _, _, rfl⟩
  exact Decimal.isNaN_div hfinite x

end BenchCharts
