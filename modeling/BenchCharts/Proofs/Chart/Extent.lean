import BenchCharts.Chart.Extent
import BenchCharts.Proofs.Decimal.SignedZero
import Mathlib.Data.List.Perm.Basic
import Mathlib.Order.Bounds.Basic
import Mathlib.Tactic.NormNum

/-!
The extent of a chart with its arithmetic done exactly. What is drawn lies strictly inside it, apart
from a linear axis that starts at zero, and the order of what is drawn plays no part.
-/

namespace BenchCharts.Chart

open Decimal

section Bounds

variable {ys ys' : List Rat} {low high : Rat}

theorem bounds?_eq (ys : List Rat) :
    bounds? ys = ys.min?.bind fun low => ys.max?.map fun high => (low, high) := by
  cases ys with
  | nil => rfl
  | cons y ys =>
    rw [List.min?_cons', List.max?_cons']
    rfl

theorem bounds?_eq_some_iff :
    bounds? ys = some (low, high) ↔
      IsLeast {y | y ∈ ys} low ∧ IsGreatest {y | y ∈ ys} high := by
  have hmin : ys.min? = some low ↔ IsLeast {y | y ∈ ys} low := List.min?_eq_some_iff
  have hmax : ys.max? = some high ↔ IsGreatest {y | y ∈ ys} high := List.max?_eq_some_iff
  rw [← hmin, ← hmax, bounds?_eq]
  cases ys.min? <;> cases ys.max? <;> simp

theorem bounds?_congr (h : ∀ y, y ∈ ys ↔ y ∈ ys') : bounds? ys = bounds? ys' := by
  have hset : {y | y ∈ ys} = {y | y ∈ ys'} := Set.ext h
  refine Option.ext fun bounds => ?_
  rw [bounds?_eq_some_iff, bounds?_eq_some_iff, hset]

end Bounds

section Reads

/-- An operation that does to finite doubles what `g` does to the numbers that they stand for. -/
def Reads (f : Float → Float → Float) (g : Rat → Rat → Rat) : Prop :=
  ∀ x y, x.isFinite = true → y.isFinite = true →
    (f x y).isFinite = true ∧ valueOf (f x y) = g (valueOf x) (valueOf y)

theorem reads_min : Reads min min := by
  intro x y hx hy
  have h : min x y = if x ≤ y then x else y := rfl
  rw [h, min_def, ← if_congr (le_iff_valueOf_le hx hy) rfl rfl, ← apply_ite valueOf]
  refine ⟨?_, rfl⟩
  split <;> assumption

theorem reads_max : Reads max max := by
  intro x y hx hy
  rw [max_eq_ite, max_def, ← if_congr (le_iff_valueOf_le hx hy) rfl rfl, ← apply_ite valueOf]
  refine ⟨?_, rfl⟩
  split <;> assumption

theorem Reads.foldl {f : Float → Float → Float} {g : Rat → Rat → Rat} (h : Reads f g)
    {x : Float} {xs : List Float} (hx : x.isFinite = true) (hxs : ∀ y ∈ xs, y.isFinite = true) :
    (xs.foldl f x).isFinite = true ∧
      valueOf (xs.foldl f x) = (xs.map valueOf).foldl g (valueOf x) := by
  induction xs generalizing x with
  | nil => exact ⟨hx, rfl⟩
  | cons y xs ih =>
    obtain ⟨hfinite, hvalue⟩ := h x y hx (hxs y List.mem_cons_self)
    rw [List.map_cons, List.foldl_cons, List.foldl_cons, ← hvalue]
    exact ih hfinite fun z hz => hxs z (List.mem_cons_of_mem y hz)

theorem exists_bounds? {xs : List Float} (hne : xs ≠ []) (h : ∀ x ∈ xs, x.isFinite = true) :
    ∃ low high, bounds? xs = some (low, high) ∧ low.isFinite = true ∧ high.isFinite = true ∧
      bounds? (xs.map valueOf) = some (valueOf low, valueOf high) := by
  obtain ⟨x, xs, rfl⟩ := List.exists_cons_of_ne_nil hne
  have hx := h x List.mem_cons_self
  have hxs : ∀ y ∈ xs, y.isFinite = true := fun y hy => h y (List.mem_cons_of_mem x hy)
  obtain ⟨hlowFinite, hlow⟩ := reads_min.foldl hx hxs
  obtain ⟨hhighFinite, hhigh⟩ := reads_max.foldl hx hxs
  refine ⟨_, _, rfl, hlowFinite, hhighFinite, ?_⟩
  rw [hlow, hhigh]
  rfl

end Reads

theorem padding_pos (linear : Bool) (low high : Rat) : 0 < padding linear low high := by
  unfold padding
  cases linear with
  | true => exact lt_max_of_lt_right (by norm_num)
  | false => exact lt_max_of_lt_right (by norm_num)

section Padding

variable (linear : Bool) {low low' high high' : Float}

theorem padding_alike (hlow : Alike low low') (hhigh : Alike high high') :
    Alike (padding linear low high) (padding linear low' high') := by
  have hshare : Alike ((high - low) * 0.08) ((high' - low') * 0.08) := (hhigh.sub hlow).mul rfl
  cases linear with
  | true => exact (hshare.max ((hhigh.max hhigh.neg).mul rfl)).max rfl
  | false => exact hshare.max rfl

theorem nonZero_padding (low high : Float) : NonZero (padding linear low high) := by
  cases linear with
  | true => exact nonZero_max _ (by decide +kernel)
  | false => exact nonZero_max _ (by decide +kernel)

end Padding

def Shows (chart : Chart) (x : Float) : Prop :=
  (∃ line ∈ chart.lines, x ∈ line.values) ∨ ∃ reference ∈ chart.references, reference.value = x

/-- A number at which a value of a line or a guide lies on the axis. -/
def Marks (chart : Chart) (y : Rat) : Prop :=
  ∃ x, chart.Shows x ∧ (chart.scale.forward x).isFinite = true ∧
    valueOf (chart.scale.forward x) = y

def exactImages (chart : Chart) : List Rat :=
  (chart.images.filter Float.isFinite).map valueOf

/-- What `extent` computes from the doubles, computed from these numbers. -/
def exactExtent (chart : Chart) : Rat × Rat :=
  extentOf chart.scale.isLinear chart.exactImages

theorem mem_images_iff {chart : Chart} {y : Float} :
    y ∈ chart.images ↔ ∃ x, chart.Shows x ∧ chart.scale.forward x = y := by
  simp only [images, Shows, List.mem_map, List.mem_append, List.mem_flatMap]

theorem mem_exactImages_iff {chart : Chart} {y : Rat} :
    y ∈ chart.exactImages ↔ chart.Marks y := by
  simp only [exactImages, Marks, List.mem_map, List.mem_filter, mem_images_iff]
  grind

/-- What is drawn lies inside the range, which starts at zero on a linear axis if nothing lies
below. -/
structure Holds (chart : Chart) (range : Rat × Rat) : Prop where
  proper : range.1 < range.2
  lt_upper : ∀ y, chart.Marks y → y < range.2
  lower_eq_zero : chart.scale.isLinear = true → (∀ y, chart.Marks y → 0 ≤ y) → range.1 = 0
  lower_lt : ¬(chart.scale.isLinear = true ∧ ∀ y, chart.Marks y → 0 ≤ y) →
    ∀ y, chart.Marks y → range.1 < y

/-- The least and the greatest number at which something is drawn, as doubles, and what becomes of
them. -/
structure Spans (chart : Chart) (low high : Float) : Prop where
  low_finite : low.isFinite = true
  high_finite : high.isFinite = true
  least : IsLeast {y | chart.Marks y} (valueOf low)
  greatest : IsGreatest {y | chart.Marks y} (valueOf high)
  extent_eq : chart.extent =
    (if chart.scale.isLinear = true ∧ 0 ≤ low then 0
        else low - padding chart.scale.isLinear low high,
      high + padding chart.scale.isLinear low high)
  exactExtent_eq : chart.exactExtent =
    (if chart.scale.isLinear = true ∧ 0 ≤ valueOf low then 0
        else valueOf low - padding chart.scale.isLinear (valueOf low) (valueOf high),
      valueOf high + padding chart.scale.isLinear (valueOf low) (valueOf high))

/-- The same lines, values and guides in another order. -/
structure Reordered (chart chart' : Chart) : Prop where
  scale : chart'.scale = chart.scale
  lines : ∃ columns, (chart.lines.map (·.values)).Perm columns ∧
    List.Forall₂ List.Perm columns (chart'.lines.map (·.values))
  references : (chart.references.map (·.value)).Perm (chart'.references.map (·.value))

section Exact

variable {chart chart' : Chart}

theorem exists_spans {y : Rat} (hy : chart.Marks y) : ∃ low high, chart.Spans low high := by
  have hne : chart.images.filter Float.isFinite ≠ [] := fun h => by
    have hmem := mem_exactImages_iff.mpr hy
    rw [exactImages, h] at hmem
    cases hmem
  obtain ⟨low, high, hbounds, hlow, hhigh, hexact⟩ :=
    exists_bounds? hne fun _ hx => (List.mem_filter.mp hx).2
  have hset : {y | y ∈ chart.exactImages} = {y | chart.Marks y} :=
    Set.ext fun _ => mem_exactImages_iff
  obtain ⟨hleast, hgreatest⟩ := bounds?_eq_some_iff.mp hexact
  refine ⟨low, high, hlow, hhigh, hset ▸ hleast, hset ▸ hgreatest, ?_, ?_⟩
  · rw [extent, extentOf, hbounds]
  · rw [exactExtent, extentOf, exactImages, hexact]

theorem Spans.holds_exactExtent {low high : Float} (h : chart.Spans low high) :
    chart.Holds chart.exactExtent := by
  obtain ⟨hlow, hleast⟩ := h.least
  obtain ⟨hhigh, hgreatest⟩ := h.greatest
  have hle : valueOf low ≤ valueOf high := hleast hhigh
  have hpad := padding_pos chart.scale.isLinear (valueOf low) (valueOf high)
  have hupper : ∀ y, chart.Marks y →
      y < valueOf high + padding chart.scale.isLinear (valueOf low) (valueOf high) :=
    fun y hy => lt_add_of_le_of_pos (hgreatest hy) hpad
  have hnonneg : 0 ≤ valueOf low ↔ ∀ y, chart.Marks y → 0 ≤ y :=
    ⟨fun h y hy => h.trans (hleast hy), fun h => h _ hlow⟩
  rw [h.exactExtent_eq]
  split
  · next h =>
    exact {
      proper := h.2.trans_lt (hupper _ hlow)
      lt_upper := hupper
      lower_eq_zero := fun _ _ => rfl
      lower_lt := fun hnot => absurd ⟨h.1, hnonneg.mp h.2⟩ hnot }
  · next h =>
    have hlower : ∀ y, chart.Marks y →
        valueOf low - padding chart.scale.isLinear (valueOf low) (valueOf high) < y :=
      fun y hy => (sub_lt_self _ hpad).trans_le (hleast hy)
    exact {
      proper := (hlower _ hhigh).trans (hupper _ hhigh)
      lt_upper := hupper
      lower_eq_zero := fun hlinear hall => absurd ⟨hlinear, hnonneg.mpr hall⟩ h
      lower_lt := fun _ => hlower }

theorem exactImages_eq_nil (h : ∀ y, ¬chart.Marks y) : chart.exactImages = [] :=
  List.eq_nil_iff_forall_not_mem.mpr fun y hy => h y (mem_exactImages_iff.mp hy)

theorem filter_images_eq_nil (h : ∀ y, ¬chart.Marks y) :
    chart.images.filter Float.isFinite = [] :=
  List.map_eq_nil_iff.mp (exactImages_eq_nil h)

theorem extent_of_no_marks (h : ∀ y, ¬chart.Marks y) :
    chart.exactExtent = (0, 1) ∧ chart.extent = (0, 1) := by
  constructor
  · rw [exactExtent, exactImages_eq_nil h]
    rfl
  · rw [extent, filter_images_eq_nil h]
    rfl

theorem extent_fst_eq_zero (hlinear : chart.scale.isLinear = true)
    (hall : ∀ y, chart.Marks y → 0 ≤ y) : chart.extent.1 = 0 := by
  by_cases h : ∃ y, chart.Marks y
  · obtain ⟨y, hy⟩ := h
    obtain ⟨low, high, hspans⟩ := exists_spans hy
    have hnonneg : (0.0 : Float) ≤ low := by
      rw [le_iff_valueOf_le isFinite_zero hspans.low_finite, valueOf_zero]
      exact hall _ hspans.least.1
    rw [hspans.extent_eq]
    exact if_pos ⟨hlinear, hnonneg⟩
  · rw [(extent_of_no_marks (not_exists.mp h)).2]

theorem shows_iff {x : Float} :
    chart.Shows x ↔
      x ∈ (chart.lines.map (·.values)).flatten ++ chart.references.map (·.value) := by
  simp only [Shows, List.mem_append, List.mem_flatten, List.mem_map,
    exists_exists_and_eq_and]

theorem Reordered.shows_iff (h : chart.Reordered chart') {x : Float} :
    chart'.Shows x ↔ chart.Shows x := by
  obtain ⟨columns, hlines, hvalues⟩ := h.lines
  have hperm := (hlines.flatten.trans (.flatten_congr hvalues)).append h.references
  rw [Chart.shows_iff, Chart.shows_iff, hperm.mem_iff]

theorem Reordered.marks_iff (h : chart.Reordered chart') {y : Rat} :
    chart'.Marks y ↔ chart.Marks y := by
  simp only [Marks, h.scale, h.shows_iff]

theorem Reordered.exactExtent_eq (h : chart.Reordered chart') :
    chart'.exactExtent = chart.exactExtent := by
  have himages : ∀ y, y ∈ chart'.exactImages ↔ y ∈ chart.exactImages := fun y => by
    rw [mem_exactImages_iff, mem_exactImages_iff, h.marks_iff]
  rw [exactExtent, exactExtent, extentOf, extentOf, h.scale, bounds?_congr himages]

/-- Which of two zeros comes first decides on the bounds, but the padding is no zero. -/
theorem Reordered.extent_eq (h : chart.Reordered chart') : chart'.extent = chart.extent := by
  by_cases hmarks : ∃ y, chart.Marks y
  · obtain ⟨y, hy⟩ := hmarks
    obtain ⟨low, high, hspans⟩ := exists_spans hy
    obtain ⟨low', high', hspans'⟩ := exists_spans (h.marks_iff.mpr hy)
    have hset : {y | chart'.Marks y} = {y | chart.Marks y} := Set.ext fun _ => h.marks_iff
    have hlow : Alike low' low := alike_of_valueOf_eq hspans'.low_finite hspans.low_finite
      ((hset ▸ hspans'.least).unique hspans.least)
    have hhigh : Alike high' high := alike_of_valueOf_eq hspans'.high_finite hspans.high_finite
      ((hset ▸ hspans'.greatest).unique hspans.greatest)
    have hpad := padding_alike chart.scale.isLinear hlow hhigh
    have hne := nonZero_padding chart.scale.isLinear low' high'
    have hnonneg : (0 : Float) ≤ low' ↔ 0 ≤ low := Alike.le_iff rfl hlow
    rw [hspans'.extent_eq, hspans.extent_eq, h.scale, hlow.sub_eq hpad hne,
      hhigh.add_eq hpad hne]
    simp only [hnonneg]
  · have hnone : ∀ y, ¬chart.Marks y := not_exists.mp hmarks
    rw [(extent_of_no_marks hnone).2, (extent_of_no_marks fun y => mt h.marks_iff.mp (hnone y)).2]

end Exact

/-- The extent of a chart holds what is drawn, whatever its order. Doubles round the padding and
what it is added to or taken from, and nothing else. -/
theorem exactExtent_holds_marks (chart : Chart) :
    ((∀ y, ¬chart.Marks y) → chart.exactExtent = (0, 1) ∧ chart.extent = (0, 1)) ∧
      ((∃ y, chart.Marks y) →
        chart.Holds chart.exactExtent ∧ ∃ low high, chart.Spans low high) ∧
      (chart.scale.isLinear = true → (∀ y, chart.Marks y → 0 ≤ y) → chart.extent.1 = 0) ∧
      ∀ chart', chart.Reordered chart' →
        chart'.exactExtent = chart.exactExtent ∧ chart'.extent = chart.extent := by
  refine ⟨extent_of_no_marks, ?_, extent_fst_eq_zero, fun _ h => ⟨h.exactExtent_eq, h.extent_eq⟩⟩
  rintro ⟨y, hy⟩
  obtain ⟨low, high, hspans⟩ := exists_spans hy
  exact ⟨hspans.holds_exactExtent, low, high, hspans⟩

/-- A line with a gap and a guide above it, drawn forwards and backwards. -/
theorem exactExtent_holds_marks_guide :
    let line (values : List Float) : Line := ⟨"l", values, .ofHex 0x010203, .circle, .solid⟩
    let chart (values : List Float) : Chart :=
      { blank "t" ["a", "b", "c"] with lines := [line values], references := [⟨50.0, none⟩] }
    let forwards := chart [10.0, nan, 20.0]
    let backwards := chart [20.0, nan, 10.0]
    forwards.exactExtent = (0, 53.2) ∧ forwards.Holds forwards.exactExtent ∧
      (∃ low high, forwards.Spans low high) ∧ forwards.extent.1 = 0 ∧
      backwards.exactExtent = forwards.exactExtent ∧ backwards.extent = forwards.extent ∧
      (blank "t" []).exactExtent = (0, 1) ∧ (blank "t" []).extent = (0, 1) := by
  intro line chart forwards backwards
  have hmarks : forwards.Marks 50 :=
    ⟨50.0, .inr ⟨_, List.mem_singleton_self _, rfl⟩, by decide +kernel, by decide +kernel⟩
  have hreordered : forwards.Reordered backwards :=
    { scale := rfl
      lines := ⟨_, .refl _, .cons (List.reverse_perm [20.0, nan, 10.0]) .nil⟩
      references := .refl _ }
  have himages : ∀ y ∈ forwards.exactImages, 0 ≤ y := by decide +kernel
  have hblank : ∀ y, ¬(blank "t" []).Marks y := by
    simp [Marks, Shows, blank]
  obtain ⟨-, hholds, hzero, horder⟩ := exactExtent_holds_marks forwards
  obtain ⟨hinside, hspans⟩ := hholds ⟨50, hmarks⟩
  obtain ⟨hexact, hsame⟩ := horder backwards hreordered
  exact ⟨by decide +kernel, hinside, hspans,
    hzero rfl fun y hy => himages y (mem_exactImages_iff.mpr hy), hexact, hsame,
    (exactExtent_holds_marks (blank "t" [])).1 hblank⟩

end BenchCharts.Chart
