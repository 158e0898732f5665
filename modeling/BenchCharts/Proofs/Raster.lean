import BenchCharts.Proofs.Largest
import BenchCharts.Raster
import Mathlib.Data.Rat.Floor
import Mathlib.Algebra.Order.Field.Basic
import Mathlib.Tactic.Positivity

/-!
Pictures side by side: how wide each one becomes at the height of the tallest, and which columns of
the canvas it takes.
-/

namespace BenchCharts

namespace Raster

/-- The first column of piece `i` in a row of pieces. -/
def offset (widths : List Nat) (i : Nat) : Nat :=
  (widths.take i).sum

/-- Column `x` belongs to piece `i` of a row. -/
def Covers (widths : List Nat) (i x : Nat) : Prop :=
  ∃ w, widths[i]? = some w ∧ offset widths i ≤ x ∧ x < offset widths i + w

theorem covers_cons_zero {w x : Nat} {widths : List Nat} : Covers (w :: widths) 0 x ↔ x < w := by
  simp [Covers, offset]

theorem covers_cons_succ {w i x : Nat} {widths : List Nat} :
    Covers (w :: widths) (i + 1) x ↔ w ≤ x ∧ Covers widths i (x - w) := by
  simp only [Covers, offset, List.getElem?_cons_succ, List.take_succ_cons, List.sum_cons]
  constructor
  · rintro ⟨v, hv, hle, hlt⟩
    exact ⟨by omega, v, hv, by omega, by omega⟩
  · rintro ⟨hw, v, hv, hle, hlt⟩
    exact ⟨v, hv, by omega, by omega⟩

theorem existsUnique_covers {widths : List Nat} {x : Nat} (h : x < widths.sum) :
    ∃! i, Covers widths i x := by
  induction widths generalizing x with
  | nil => cases h
  | cons w widths ih =>
    by_cases hx : x < w
    · refine ⟨0, covers_cons_zero.mpr hx, fun i hi => ?_⟩
      cases i with
      | zero => rfl
      | succ i => exact absurd (covers_cons_succ.mp hi).1 (Nat.not_le_of_lt hx)
    · rw [List.sum_cons] at h
      obtain ⟨i, hi, hunique⟩ := ih (x := x - w) (by omega)
      refine ⟨i + 1, covers_cons_succ.mpr ⟨Nat.le_of_not_lt hx, hi⟩, fun j hj => ?_⟩
      cases j with
      | zero => exact absurd (covers_cons_zero.mp hj) hx
      | succ j => exact congrArg _ (hunique j (covers_cons_succ.mp hj).2)

theorem lt_sum_of_covers {widths : List Nat} {i x : Nat} (h : Covers widths i x) :
    x < widths.sum := by
  induction widths generalizing i x with
  | nil =>
    obtain ⟨_, hw, _⟩ := h
    cases hw
  | cons w widths ih =>
    rw [List.sum_cons]
    cases i with
    | zero => exact Nat.lt_add_right _ (covers_cons_zero.mp h)
    | succ i =>
      obtain ⟨hle, h⟩ := covers_cons_succ.mp h
      have := ih h
      omega

theorem totalWidth_eq (rs : List Raster) : totalWidth rs = (rs.map (·.width)).sum := by
  induction rs with
  | nil => rfl
  | cons r rs ih => rw [List.map_cons, List.sum_cons, ← ih]; rfl

theorem pixelBeside_of_covers {background : Color} {rs : List Raster} {i x y : Nat} {r : Raster}
    (hr : rs[i]? = some r) (hx : Covers (rs.map (·.width)) i x) :
    pixelBeside background rs x y =
      (r.pixel (x - offset (rs.map (·.width)) i) y).inFrontOf background := by
  induction rs generalizing i x with
  | nil => cases hr
  | cons s rs ih =>
    rw [List.map_cons] at hx ⊢
    cases i with
    | zero =>
      cases hr
      rw [pixelBeside, if_pos (covers_cons_zero.mp hx)]
      rfl
    | succ i =>
      obtain ⟨hle, hx⟩ := covers_cons_succ.mp hx
      have hoffset : offset (s.width :: rs.map (·.width)) (i + 1) =
          s.width + offset (rs.map (·.width)) i := List.sum_cons
      rw [pixelBeside, if_neg (Nat.not_lt_of_le hle), ih hr hx, hoffset, Nat.sub_sub]

theorem isGreatest_maxHeight {rs : List Raster} (h : rs ≠ []) :
    IsGreatest {n | ∃ r ∈ rs, r.height = n} (maxHeight rs) :=
  isGreatest_foldl_max (·.height) h

theorem maxHeight_append (rs ss : List Raster) :
    maxHeight (rs ++ ss) = max (maxHeight rs) (maxHeight ss) := by
  rw [maxHeight, List.foldl_append, ← maxHeight, ← Nat.max_zero (maxHeight rs), ← List.foldl_map,
    List.foldl_assoc, List.foldl_map, Nat.max_zero]
  rfl

/-- A picture with sides that are numbers of 32 bits. -/
structure Sized (r : Raster) : Prop where
  width_pos : 0 < r.width
  height_pos : 0 < r.height
  width_lt : r.width < Nat.pow 2 32
  height_lt : r.height < Nat.pow 2 32

/-- The width at another height that the proportions ask for, rounded up to a whole number. -/
def exactWidth (r : Raster) (height : Nat) : Nat :=
  ⌈(r.width * height : ℚ) / r.height⌉₊

theorem side_of_lt {n : Nat} (h : n < Nat.pow 2 32) : side n = n :=
  Nat.mod_eq_of_lt h

namespace Sized

variable {r : Raster} (h : r.Sized)

include h

theorem exactWidth_eq (height : Nat) :
    r.exactWidth height = (r.width * height + (r.height - 1)) / r.height := by
  have hpos := h.height_pos
  apply eq_of_forall_ge_iff
  intro n
  rw [exactWidth, Nat.ceil_le, div_le_iff₀ (Nat.cast_pos.mpr hpos),
    Nat.div_le_iff_le_mul_add_pred hpos]
  norm_cast
  rw [Nat.mul_comm n]
  omega

theorem one_le_exactWidth {height : Nat} (hpos : 0 < height) : 1 ≤ r.exactWidth height := by
  apply Nat.ceil_pos.mpr
  have := h.width_pos
  have := h.height_pos
  positivity

theorem exactWidth_height : r.exactWidth r.height = r.width := by
  have hne : (r.height : ℚ) ≠ 0 := Nat.cast_ne_zero.mpr h.height_pos.ne'
  rw [exactWidth, mul_div_assoc, div_self hne, mul_one, Nat.ceil_natCast]

theorem widthAt_eq {height : Nat} (hpos : 0 < height)
    (hfits : r.exactWidth height < Nat.pow 2 32) : r.widthAt height = r.exactWidth height := by
  have hone := h.one_le_exactWidth hpos
  rw [widthAt, Nat.max_eq_right h.height_pos, ← h.exactWidth_eq, Nat.max_eq_right hone,
    side_of_lt hfits]

end Sized

theorem height_scaledTo (r : Raster) (height : Nat) : (r.scaledTo height).height = height := by
  unfold scaledTo
  split
  · assumption
  · rfl

theorem Sized.width_scaledTo {r : Raster} (h : r.Sized) {height : Nat} (hpos : 0 < height)
    (hfits : r.exactWidth height < Nat.pow 2 32) :
    (r.scaledTo height).width = r.exactWidth height := by
  unfold scaledTo
  split
  · next he => rw [← he, h.exactWidth_height]
  · exact h.widthAt_eq hpos hfits

/-- A canvas on which pictures stand side by side at one height, each of them in its proportions and
with columns of its own. -/
structure IsExact (background : Color) (rs : List Raster) (canvas : Raster) : Prop where
  height : IsGreatest {n | ∃ r ∈ rs, r.height = n} canvas.height
  width : canvas.width = (rs.map (·.exactWidth canvas.height)).sum
  /-- The product that is divided by the height of a picture is a number of 64 bits. -/
  product_lt : ∀ r ∈ rs, r.width * canvas.height < Nat.pow 2 64
  scaled : ∀ r ∈ rs, (r.scaledTo canvas.height).height = canvas.height ∧
    (r.scaledTo canvas.height).width = r.exactWidth canvas.height
  proportions : ∀ r ∈ rs, 1 ≤ r.exactWidth canvas.height ∧
    (r.width * canvas.height : ℚ) / r.height ≤ r.exactWidth canvas.height ∧
    (r.exactWidth canvas.height : ℚ) < r.width * canvas.height / r.height + 1
  column : ∀ x < canvas.width, ∃! i, Covers (rs.map (·.exactWidth canvas.height)) i x
  pixel : ∀ i r, rs[i]? = some r → ∀ x, Covers (rs.map (·.exactWidth canvas.height)) i x →
    x < canvas.width ∧ ∀ y, canvas.pixel x y =
      ((r.scaledTo canvas.height).pixel
        (x - offset (rs.map (·.exactWidth canvas.height)) i) y).inFrontOf background

theorem exactWidth_bounds (r : Raster) (height : Nat) :
    (r.width * height : ℚ) / r.height ≤ r.exactWidth height ∧
      (r.exactWidth height : ℚ) < r.width * height / r.height + 1 :=
  ⟨Nat.le_ceil _, Nat.ceil_lt_add_one (by positivity)⟩

section

variable {rs : List Raster} (hne : rs ≠ []) (hsized : ∀ r ∈ rs, r.Sized)

include hne hsized

theorem maxHeight_bounds : 0 < maxHeight rs ∧ maxHeight rs < Nat.pow 2 32 := by
  obtain ⟨tallest, hm, he⟩ := (isGreatest_maxHeight hne).1
  exact he ▸ ⟨(hsized tallest hm).height_pos, (hsized tallest hm).height_lt⟩

variable (hfits : (rs.map (·.exactWidth (maxHeight rs))).sum < Nat.pow 2 32)

include hfits

/-- No piece is wider than the canvas, so its width is a number of 32 bits, too. -/
theorem width_scaledTo_maxHeight {r : Raster} (hm : r ∈ rs) :
    (r.scaledTo (maxHeight rs)).width = r.exactWidth (maxHeight rs) := by
  have hle : r.exactWidth (maxHeight rs) ≤ (rs.map (·.exactWidth (maxHeight rs))).sum :=
    List.le_sum_of_mem (List.mem_map_of_mem hm)
  exact (hsized r hm).width_scaledTo (maxHeight_bounds hne hsized).1 (hle.trans_lt hfits)

theorem widths_scaledTo_maxHeight :
    (rs.map (·.scaledTo (maxHeight rs))).map (·.width) = rs.map (·.exactWidth (maxHeight rs)) := by
  rw [List.map_map]
  exact List.map_congr_left fun _ hm => width_scaledTo_maxHeight hne hsized hfits hm

theorem width_beside (background : Color) :
    (beside background rs).width = (rs.map (·.exactWidth (maxHeight rs))).sum := by
  change side (totalWidth _) = _
  rw [totalWidth_eq, widths_scaledTo_maxHeight hne hsized hfits, side_of_lt hfits]

theorem pixel_beside_of_covers (background : Color) {i x y : Nat} {r : Raster}
    (hr : rs[i]? = some r) (hx : Covers (rs.map (·.exactWidth (maxHeight rs))) i x) :
    (beside background rs).pixel x y = ((r.scaledTo (maxHeight rs)).pixel
      (x - offset (rs.map (·.exactWidth (maxHeight rs))) i) y).inFrontOf background := by
  have hi : (rs.map (·.scaledTo (maxHeight rs)))[i]? = some (r.scaledTo (maxHeight rs)) := by
    rw [List.getElem?_map, hr, Option.map_some]
  rw [← widths_scaledTo_maxHeight hne hsized hfits] at hx ⊢
  exact pixelBeside_of_covers hi hx

theorem isExact_beside (background : Color) : IsExact background rs (beside background rs) := by
  have hheight : (beside background rs).height = maxHeight rs := rfl
  have hwidth := width_beside hne hsized hfits background
  obtain ⟨hpos, hlt⟩ := maxHeight_bounds hne hsized
  refine ⟨?_, ?_, ?_, ?_, ?_, ?_, ?_⟩ <;> rw [hheight]
  · exact isGreatest_maxHeight hne
  · exact hwidth
  · intro r hm
    have hsides : Nat.pow 2 64 = Nat.pow 2 32 * Nat.pow 2 32 := by decide
    exact hsides ▸ Nat.mul_lt_mul'' (hsized r hm).width_lt hlt
  · exact fun r hm => ⟨height_scaledTo r _, width_scaledTo_maxHeight hne hsized hfits hm⟩
  · exact fun r hm => ⟨(hsized r hm).one_le_exactWidth hpos, exactWidth_bounds r _⟩
  · exact fun x hx => existsUnique_covers (hwidth ▸ hx)
  · exact fun i r hr x hx => ⟨hwidth ▸ lt_sum_of_covers hx,
      fun y => pixel_beside_of_covers hne hsized hfits background hr hx⟩

end

def IsOpaque (r : Raster) : Prop :=
  ∀ x < r.width, ∀ y < r.height, (r.pixel x y).alpha = 255

theorem isOpaque_filled (width height : Nat) (color : Color) :
    (filled width height color).IsOpaque :=
  fun _ _ _ _ => rfl

theorem mixChannel_full (front back : UInt8) : Pixel.mixChannel 255 front back = front := by
  have hchannel : (front.toNat * 255 + back.toNat * (255 - 255) + 127) / 255 = front.toNat := by
    omega
  unfold Pixel.mixChannel
  rw [show (255 : UInt8).toNat = 255 from rfl]
  dsimp only
  rw [hchannel, UInt8.ofNat_toNat]

theorem inFrontOf_of_alpha {front : Pixel} (h : front.alpha = 255) (back : Color) :
    front.inFrontOf back = front := by
  obtain ⟨color, alpha⟩ := front
  obtain rfl : alpha = 255 := h
  simp only [Pixel.inFrontOf, mixChannel_full]
  rfl

/-- A canvas that shows a picture and, behind its last column, another one. -/
structure IsJoined (left right canvas : Raster) : Prop where
  width : canvas.width = left.width + right.width
  height : canvas.height = max left.height right.height
  left_pixel : ∀ x < left.width, ∀ y, canvas.pixel x y = left.pixel x y
  right_pixel : ∀ x < right.width, ∀ y, canvas.pixel (left.width + x) y = right.pixel x y

theorem pixelBeside_append (background : Color) (rs ss : List Raster) (x y : Nat) :
    pixelBeside background (rs ++ ss) x y =
      if x < totalWidth rs then pixelBeside background rs x y
      else pixelBeside background ss (x - totalWidth rs) y := by
  induction rs generalizing x with
  | nil => rfl
  | cons r rs ih =>
    have htotal : totalWidth (r :: rs) = r.width + totalWidth rs := rfl
    rw [List.cons_append, pixelBeside, pixelBeside, ih, htotal, Nat.sub_sub]
    by_cases hx : x < r.width
    · rw [if_pos hx, if_pos hx, if_pos (Nat.lt_add_right _ hx)]
    · rw [if_neg hx, if_neg hx]
      congr 1
      rw [eq_iff_iff]
      omega

section

variable {height : Nat}

theorem maxHeight_eq {rs : List Raster} (hne : rs ≠ []) (h : ∀ r ∈ rs, r.height = height) :
    maxHeight rs = height := by
  obtain ⟨r, hm, he⟩ := (isGreatest_maxHeight hne).1
  rw [← he, h r hm]

theorem beside_eq (background : Color) {rs : List Raster} (h : ∀ r ∈ rs, r.height = height) :
    beside background rs = ⟨side (totalWidth rs), maxHeight rs, pixelBeside background rs⟩ := by
  have hscaled : rs.map (·.scaledTo (maxHeight rs)) = rs := by
    rw [List.map_congr_left (g := id), List.map_id]
    intro r hm
    rw [scaledTo, if_pos, id]
    rw [h r hm, maxHeight_eq (List.ne_nil_of_mem hm) h]
  rw [beside, hscaled]

/-- Pictures that are shown as they are, without any of the background. -/
structure IsConcatenation (rs : List Raster) (canvas : Raster) : Prop where
  width : canvas.width = (rs.map (·.width)).sum
  height : ∀ r ∈ rs, canvas.height = r.height
  pixel : ∀ x < canvas.width, ∃ i r, rs[i]? = some r ∧
    (∀ j, Covers (rs.map (·.width)) j x ↔ j = i) ∧
    ∀ y < canvas.height, canvas.pixel x y = r.pixel (x - offset (rs.map (·.width)) i) y

theorem IsConcatenation.pixel_eq {rs : List Raster} {canvas other : Raster}
    (h : IsConcatenation rs canvas) (h' : IsConcatenation rs other) {x y : Nat}
    (hx : x < canvas.width) (hy : y < canvas.height) : other.pixel x y = canvas.pixel x y := by
  obtain ⟨i, r, hr, hi, hpixel⟩ := h.pixel x hx
  obtain ⟨j, s, hs, hj, hpixel'⟩ := h'.pixel x (h'.width ▸ h.width ▸ hx)
  have hij : i = j := (hj i).mp ((hi i).mpr rfl)
  obtain rfl : r = s := Option.some.inj (hr.symm.trans (hij ▸ hs))
  have hm := List.mem_of_getElem? hr
  rw [hpixel y hy, hpixel' y (h'.height r hm ▸ h.height r hm ▸ hy), hij]

theorem isConcatenation_beside (background : Color) {rs : List Raster}
    (hheight : ∀ r ∈ rs, r.height = height) (hvisible : ∀ r ∈ rs, r.IsOpaque)
    (hfits : (rs.map (·.width)).sum < Nat.pow 2 32) :
    IsConcatenation rs (beside background rs) := by
  rw [beside_eq background hheight, totalWidth_eq, side_of_lt hfits]
  have hmax : ∀ r ∈ rs, maxHeight rs = r.height := fun r hm => by
    rw [hheight r hm, maxHeight_eq (List.ne_nil_of_mem hm) hheight]
  refine ⟨rfl, hmax, fun x hx => ?_⟩
  obtain ⟨i, hi, hunique⟩ := existsUnique_covers hx
  -- the piece has a width because there is a picture, whose pixel this is
  obtain ⟨w, hw, hle, hlt⟩ := id hi
  rw [List.getElem?_map, Option.map_eq_some_iff] at hw
  obtain ⟨r, hr, rfl⟩ := hw
  refine ⟨i, r, hr, fun j => ⟨hunique j, fun he => he ▸ hi⟩, fun y hy => ?_⟩
  have hm := List.mem_of_getElem? hr
  have hy : y < r.height := hmax r hm ▸ hy
  exact (pixelBeside_of_covers hr hi).trans
    (inFrontOf_of_alpha (hvisible r hm _ (by omega) y hy) background)

theorem isJoined_beside (background : Color) {rs ss : List Raster}
    (hheight : ∀ r ∈ rs ++ ss, r.height = height)
    (hfits : ((rs ++ ss).map (·.width)).sum < Nat.pow 2 32) :
    IsJoined (beside background rs) (beside background ss) (beside background (rs ++ ss)) := by
  obtain ⟨hrs, hss⟩ := List.forall_mem_append.mp hheight
  have htotal : totalWidth (rs ++ ss) = totalWidth rs + totalWidth ss := by
    rw [totalWidth_eq, totalWidth_eq, totalWidth_eq, List.map_append, List.sum_append]
  rw [← totalWidth_eq] at hfits
  rw [beside_eq background hheight, beside_eq background hrs, beside_eq background hss,
    side_of_lt hfits, side_of_lt (by omega), side_of_lt (by omega)]
  refine ⟨htotal, ?_, fun x hx y => ?_, fun x _ y => ?_⟩
  · exact maxHeight_append rs ss
  · exact (pixelBeside_append ..).trans (if_pos hx)
  · have hright : ¬ totalWidth rs + x < totalWidth rs := Nat.not_lt_of_le (Nat.le_add_right _ _)
    refine (pixelBeside_append ..).trans ((if_neg hright).trans ?_)
    rw [Nat.add_sub_cancel_left]

end

end Raster

end BenchCharts
