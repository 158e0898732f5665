import BenchCharts.Proofs.FileTree
import BenchCharts.Proofs.Png
import BenchCharts.Proofs.Raster
import Mathlib.Data.List.Forall2

/-!
Stitching: what comes of it is the canvas of the pictures that are there, at their exact widths, and
missing files do not matter.
-/

namespace BenchCharts

/-- What an outcome leaves behind, without what is said. -/
def Outcome.effect (outcome : Outcome) : FileTree × Option Failure :=
  (outcome.tree, outcome.failure)

/-- The pictures in those files that are there. -/
def FileTree.Opens (tree : FileTree) (inputs : List Path) (rs : List Raster) : Prop :=
  List.Forall₂ (fun path r => tree.picture path = .ok r) (inputs.filter tree.isFile) rs

namespace Setting

variable (setting : Setting) (tree : FileTree) (inputs : List Path)

/-- Stitching some files comes to writing the canvas of some pictures, or to nothing without any. -/
structure Stitches (rs : List Raster) : Prop where
  nothing : rs = [] → ∀ out, (setting.stitch tree inputs out).effect = (tree, none)
  delivered : rs ≠ [] → ∀ out, (setting.stitch tree inputs out).effect =
    tree.deliver out (setting.canvas rs) (Raster.formatFlaw? out) .file
  written : rs ≠ [] → ∀ out, (setting.stitch tree inputs out).failure = none →
    ∃ place, tree.Changes (setting.stitch tree inputs out).tree [place] ∧
      (setting.stitch tree inputs out).tree.namesOf out = .ok place ∧
      (setting.stitch tree inputs out).tree.content? place = some (.picture (setting.canvas rs))

theorem effect_stitch (out : Path) :
    (setting.stitch tree inputs out).effect =
      match (setting.collect tree inputs).2 with
      | .error failure => (tree, some failure)
      | .ok [] => (tree, none)
      | .ok rs => tree.deliver out (setting.canvas rs) (Raster.formatFlaw? out) .file := by
  unfold stitch
  obtain ⟨said, failure | rs⟩ := setting.collect tree inputs
  · rfl
  · cases rs with
    | nil => rfl
    | cons r rs =>
      dsimp only
      split <;> next hd => rw [hd]; rfl

theorem snd_collect_filter :
    (setting.collect tree (inputs.filter tree.isFile)).2 = (setting.collect tree inputs).2 := by
  induction inputs with
  | nil => rfl
  | cons path paths ih =>
    by_cases hpath : tree.isFile path = true
    · rw [List.filter_cons_of_pos hpath, collect, collect, if_pos hpath, if_pos hpath]
      split
      · rfl
      · dsimp only
        rw [ih]
    -- a missing file adds a warning, which is no part of what is compared
    · rw [List.filter_cons_of_neg hpath, collect, if_neg hpath, ih]

theorem effect_stitch_filter (out : Path) :
    (setting.stitch tree (inputs.filter tree.isFile) out).effect =
      (setting.stitch tree inputs out).effect := by
  rw [effect_stitch, effect_stitch, snd_collect_filter]

theorem opens_or_broken : (∃ rs, tree.Opens inputs rs) ∨
    ∃ path ∈ inputs, ∃ flaw, tree.isFile path = true ∧ tree.picture path = .error flaw ∧
      (setting.collect tree inputs).2 = .error (.noPicture path flaw) := by
  induction inputs with
  | nil => exact .inl ⟨[], .nil⟩
  | cons path paths ih =>
    by_cases hpath : tree.isFile path = true
    · cases hpicture : tree.picture path with
      | error flaw =>
        refine .inr ⟨path, List.mem_cons_self, flaw, hpath, hpicture, ?_⟩
        rw [collect, if_pos hpath, hpicture]
      | ok r =>
        rcases ih with ⟨rs, hrs⟩ | ⟨broken, hm, flaw, hfile, hflaw, hcollect⟩
        · refine .inl ⟨r :: rs, ?_⟩
          rw [FileTree.Opens, List.filter_cons_of_pos hpath]
          exact .cons hpicture hrs
        · refine .inr ⟨broken, List.mem_cons_of_mem _ hm, flaw, hfile, hflaw, ?_⟩
          rw [collect, if_pos hpath, hpicture]
          dsimp only
          rw [hcollect]
          rfl
    · rcases ih with ⟨rs, hrs⟩ | ⟨broken, hm, flaw, hfile, hflaw, hcollect⟩
      · refine .inl ⟨rs, ?_⟩
        rw [FileTree.Opens, List.filter_cons_of_neg hpath]
        exact hrs
      · refine .inr ⟨broken, List.mem_cons_of_mem _ hm, flaw, hfile, hflaw, ?_⟩
        rw [collect, if_neg hpath, hcollect]

theorem effect_stitch_of_broken (h : ¬∃ rs, tree.Opens inputs rs) :
    ∃ path ∈ inputs, ∃ flaw, tree.isFile path = true ∧ tree.picture path = .error flaw ∧
      ∀ out, (setting.stitch tree inputs out).effect = (tree, some (.noPicture path flaw)) := by
  obtain ⟨path, hm, flaw, hfile, hflaw, hcollect⟩ :=
    (opens_or_broken setting tree inputs).resolve_left h
  refine ⟨path, hm, flaw, hfile, hflaw, fun out => ?_⟩
  rw [effect_stitch, hcollect]

variable {setting tree inputs} {rs : List Raster}

theorem snd_collect_of_opens (h : tree.Opens inputs rs) :
    (setting.collect tree inputs).2 = .ok rs := by
  rw [← snd_collect_filter]
  have hfiles : ∀ path ∈ inputs.filter tree.isFile, tree.isFile path = true :=
    fun path hm => (List.mem_filter.mp hm).2
  unfold FileTree.Opens at h
  generalize inputs.filter tree.isFile = paths at *
  induction h with
  | nil => rfl
  | cons hpath _ ih =>
    obtain ⟨hfile, hfiles⟩ := List.forall_mem_cons.mp hfiles
    rw [collect, if_pos hfile, hpath]
    dsimp only
    rw [ih hfiles]
    rfl

theorem stitches_of_opens (h : tree.Opens inputs rs) : setting.Stitches tree inputs rs := by
  have heffect (hne : rs ≠ []) (out : Path) : (setting.stitch tree inputs out).effect =
      tree.deliver out (setting.canvas rs) (Raster.formatFlaw? out) .file := by
    rw [effect_stitch, snd_collect_of_opens h]
    cases rs with
    | nil => exact absurd rfl hne
    | cons r rs => rfl
  refine ⟨fun he out => ?_, heffect, fun hne out hnone => ?_⟩
  · rw [effect_stitch, snd_collect_of_opens h, he]
  · apply FileTree.changes_deliver
    rw [← heffect hne out, Outcome.effect, hnone]

end Setting

theorem FileTree.Opens.split {tree : FileTree} {first second : List Path} {rs : List Raster}
    (h : tree.Opens (first ++ second) rs) :
    ∃ left right, rs = left ++ right ∧ tree.Opens first left ∧ tree.Opens second right := by
  rw [Opens, List.filter_append] at h
  have hleft := List.forall₂_take_append _ _ _ h.flip
  have hright := List.forall₂_drop_append _ _ _ h.flip
  exact ⟨_, _, (List.take_append_drop _ rs).symm, hleft.flip, hright.flip⟩

/-- Stitching pictures of one height without any invisible pixel puts them next to one another, and
two lists of them one after the other. -/
theorem Setting.stitch_concatenates (setting : Setting) {tree : FileTree} {inputs : List Path}
    {rs : List Raster} {height : Nat} (hopens : tree.Opens inputs rs)
    (hvisible : ∀ r ∈ rs, r.IsOpaque) (hheight : ∀ r ∈ rs, r.height = height)
    (hfits : (rs.map (·.width)).sum < Nat.pow 2 32) :
    setting.Stitches tree inputs rs ∧
      Raster.IsConcatenation rs (setting.canvas rs) ∧
      (∀ background, ∀ x < (setting.canvas rs).width, ∀ y < (setting.canvas rs).height,
        (Raster.beside background rs).pixel x y = (setting.canvas rs).pixel x y) ∧
      (∀ out, (setting.stitch tree inputs out).effect =
        (setting.stitch tree (inputs.filter tree.isFile) out).effect) ∧
      ∀ first second, inputs = first ++ second → ∃ left right,
        rs = left ++ right ∧ setting.Stitches tree first left ∧
        setting.Stitches tree second right ∧
        Raster.IsJoined (setting.canvas left) (setting.canvas right) (setting.canvas rs) := by
  have hshown (background : Color) : Raster.IsConcatenation rs (.beside background rs) :=
    Raster.isConcatenation_beside background hheight hvisible hfits
  refine ⟨stitches_of_opens hopens, hshown _, fun background x hx y hy => ?_,
    fun out => (setting.effect_stitch_filter tree inputs out).symm, ?_⟩
  · exact (hshown _).pixel_eq (hshown background) hx hy
  · rintro first second rfl
    obtain ⟨left, right, rfl, hleft, hright⟩ := hopens.split
    exact ⟨left, right, rfl, stitches_of_opens hleft, stitches_of_opens hright,
      Raster.isJoined_beside _ hheight hfits⟩

/-- Two pictures, the first of them twice, with a missing file between. -/
theorem Setting.stitch_concatenates_three :
    let left : Raster := .filled 3 2 ⟨1, 2, 3⟩
    let right : Raster := .filled 4 2 ⟨4, 5, 6⟩
    let tree : FileTree := ⟨[], [([], .folder), (["a.png"], .file (.picture left)),
      (["b.png"], .file (.picture right))]⟩
    let inputs := ["a.png", "gone.png", "b.png", "a.png"].map Path.ofString
    let setting : Setting := ⟨.standard, none⟩
    let rs := [left, right, left]
    (tree.Opens inputs rs ∧ (∀ r ∈ rs, r.IsOpaque) ∧ (∀ r ∈ rs, r.height = 2) ∧
      (rs.map (·.width)).sum < Nat.pow 2 32) ∧
      setting.Stitches tree inputs rs ∧ Raster.IsConcatenation rs (setting.canvas rs) ∧
      (setting.canvas rs).pixel 5 1 = .opaqueOf ⟨4, 5, 6⟩ := by
  intro left right tree inputs setting rs
  have hopens : tree.Opens inputs rs := by
    have hfiles : inputs.filter tree.isFile = ["a.png", "b.png", "a.png"].map Path.ofString := by
      decide +kernel
    rw [FileTree.Opens, hfiles]
    exact .cons rfl (.cons rfl (.cons rfl .nil))
  have hvisible : ∀ r ∈ rs, r.IsOpaque := by
    simp only [rs, List.forall_mem_cons]
    exact ⟨Raster.isOpaque_filled _ _ _, Raster.isOpaque_filled _ _ _,
      Raster.isOpaque_filled _ _ _, List.forall_mem_nil _⟩
  have hheight : ∀ r ∈ rs, r.height = 2 := by
    simp only [rs, List.forall_mem_cons]
    exact ⟨rfl, rfl, rfl, List.forall_mem_nil _⟩
  have hfits : (rs.map (·.width)).sum < Nat.pow 2 32 := by decide
  obtain ⟨hstitches, hshown, _⟩ := setting.stitch_concatenates hopens hvisible hheight hfits
  exact ⟨⟨hopens, hvisible, hheight, hfits⟩, hstitches, hshown, by decide +kernel⟩

/-- A picture that stands in the tree as one, not as the data of a file. -/
def FileTree.Keeps (tree : FileTree) (r : Raster) : Prop :=
  ∃ names, tree.content? names = some (.picture r)

theorem FileTree.content?_of_find {tree : FileTree} {path : Path} {content : Content}
    (h : tree.find path = .ok (.file content)) : ∃ names, tree.content? names = some content := by
  obtain ⟨names, -, h⟩ := bind_eq_ok_iff.mp h
  refine ⟨names, ?_⟩
  rw [content?]
  split at h
  · cases h
  · cases h
  · next hnode =>
    split at h
    · cases h
    · cases h
      rw [hnode]
      rfl

theorem Content.sized_of_raster {content : Content} {r : Raster} (h : content.raster = .ok r) :
    content = .picture r ∨ r.Sized := by
  have hsized {data : ByteArray} (h : (Png.decode data).mapError PictureFlaw.ofPng = .ok r) :
      r.Sized := by
    cases hd : Png.decode data with
    | error flaw => rw [hd] at h; cases h
    | ok r' =>
      rw [hd] at h
      cases h
      exact Png.sized_of_decode hd
  cases content with
  | picture raster => cases h; exact .inl rfl
  | text s => exact .inr (hsized h)
  | bytes data => exact .inr (hsized h)

theorem FileTree.keeps_or_sized {tree : FileTree} {path : Path} {r : Raster}
    (h : tree.picture path = .ok r) : tree.Keeps r ∨ r.Sized := by
  unfold picture at h
  split at h
  · cases h
  · cases h
  · next content hfind =>
    split at h
    · cases h
    · cases h
    · obtain ⟨names, hcontent⟩ := content?_of_find hfind
      rcases Content.sized_of_raster h with rfl | hsized
      · exact .inl ⟨names, hcontent⟩
      · exact .inr hsized

theorem FileTree.Opens.sized {tree : FileTree} {inputs : List Path} {rs : List Raster}
    (h : tree.Opens inputs rs) (hkept : ∀ r ∈ rs, tree.Keeps r → r.Sized) :
    ∀ r ∈ rs, r.Sized := by
  have hread : ∀ r ∈ rs, ∃ path, tree.picture path = .ok r := by
    unfold Opens at h
    generalize inputs.filter tree.isFile = paths at h
    induction h with
    | nil => exact List.forall_mem_nil _
    | cons hpath _ ih =>
      rw [List.forall_mem_cons] at hkept
      exact List.forall_mem_cons.mpr ⟨⟨_, hpath⟩, ih hkept.2⟩
  intro r hr
  obtain ⟨path, hpicture⟩ := hread r hr
  exact (keeps_or_sized hpicture).elim (hkept r hr) id

/-- A file that is no picture ends the run. Else the canvas of the pictures has their exact
proportions, as long as its width is a number of 32 bits; the sides of a picture are such numbers
wherever it is read from the data of a file. -/
theorem Setting.stitch_keeps_proportions (setting : Setting) (tree : FileTree)
    (inputs : List Path) :
    ((¬∃ rs, tree.Opens inputs rs) →
      ∃ path ∈ inputs, ∃ flaw, tree.isFile path = true ∧ tree.picture path = .error flaw ∧
        ∀ out, (setting.stitch tree inputs out).effect = (tree, some (.noPicture path flaw))) ∧
      ∀ rs, tree.Opens inputs rs → rs ≠ [] → (∀ r ∈ rs, tree.Keeps r → r.Sized) →
        (rs.map (·.exactWidth (Raster.maxHeight rs))).sum < Nat.pow 2 32 →
        setting.Stitches tree inputs rs ∧
          Raster.IsExact setting.config.theme.background rs (setting.canvas rs) :=
  ⟨effect_stitch_of_broken setting tree inputs, fun _ hopens hne hkept hfits =>
    ⟨stitches_of_opens hopens, Raster.isExact_beside hne (hopens.sized hkept) hfits _⟩⟩

/-- Pictures of different heights, and beside them a file that is none. -/
theorem Setting.stitch_keeps_proportions_two :
    let large : Raster := .filled 40 20 ⟨1, 2, 3⟩
    let small : Raster := .filled 10 9 ⟨4, 5, 6⟩
    let tree : FileTree := ⟨[], [([], .folder), (["a.png"], .file (.picture large)),
      (["b.png"], .file (.picture small)), (["c.png"], .file (.bytes ⟨#[0]⟩))]⟩
    let inputs := ["a.png", "gone.png", "b.png"].map Path.ofString
    let broken := ["a.png", "c.png", "b.png"].map Path.ofString
    let setting : Setting := ⟨.standard, none⟩
    let rs := [large, small]
    (tree.Opens inputs rs ∧ rs ≠ [] ∧ (∀ r ∈ rs, r.Sized) ∧
      (rs.map (·.exactWidth (Raster.maxHeight rs))).sum < Nat.pow 2 32) ∧
      Raster.IsExact setting.config.theme.background rs (setting.canvas rs) ∧
      (setting.canvas rs).width = 63 ∧ (setting.canvas rs).height = 20 ∧
      (¬∃ rs, tree.Opens broken rs) ∧
      ∃ path flaw, ∀ out, (setting.stitch tree broken out).effect =
        (tree, some (.noPicture path flaw)) := by
  intro large small tree inputs broken setting rs
  have hopens : tree.Opens inputs rs := by
    have hfiles : inputs.filter tree.isFile = ["a.png", "b.png"].map Path.ofString := by
      decide +kernel
    rw [FileTree.Opens, hfiles]
    exact .cons rfl (.cons rfl .nil)
  have hlarge : large.Sized := by constructor <;> decide
  have hsmall : small.Sized := by constructor <;> decide
  have hsized : ∀ r ∈ rs, r.Sized :=
    List.forall_mem_cons.mpr ⟨hlarge, List.forall_mem_singleton.mpr hsmall⟩
  have hfits : (rs.map (·.exactWidth (Raster.maxHeight rs))).sum < Nat.pow 2 32 := by
    change large.exactWidth 20 + (small.exactWidth 20 + 0) < _
    rw [hlarge.exactWidth_eq, hsmall.exactWidth_eq]
    decide
  have hne : rs ≠ [] := List.cons_ne_nil _ _
  have hbroken : ¬∃ rs, tree.Opens broken rs := by
    rintro ⟨rs, h⟩
    have hok : (setting.collect tree broken).2 = .ok rs := snd_collect_of_opens h
    have hfails : (setting.collect tree broken).2.isOk = false := by decide +kernel
    rw [hok] at hfails
    cases hfails
  obtain ⟨_, hexact⟩ := (setting.stitch_keeps_proportions tree inputs).2 rs hopens hne
    (fun r hr _ => hsized r hr) hfits
  obtain ⟨path, _, flaw, _, _, heffect⟩ := (setting.stitch_keeps_proportions tree broken).1 hbroken
  exact ⟨⟨hopens, hne, hsized, hfits⟩, hexact, by decide +kernel, by decide +kernel, hbroken,
    path, flaw, heffect⟩

/-- Wider than 32 bits tell, a scaled picture loses all but the lower bits of its width. No file is
read as a picture that is wide enough for this beside one of eight rows. -/
theorem Setting.canvas_too_narrow :
    let wide : Raster := .filled 600000000 1 ⟨0, 0, 0⟩
    let tall : Raster := .filled 1 8 ⟨0, 0, 0⟩
    let setting : Setting := ⟨.standard, none⟩
    let canvas := setting.canvas [wide, tall]
    (wide.Sized ∧ tall.Sized) ∧ canvas.height = 8 ∧
      ([wide, tall].map (·.exactWidth 8)).sum = 4800000001 ∧ canvas.width = 505032705 ∧
      ∀ data r, Png.decode data = .ok r → r.width < wide.width := by
  intro wide tall setting canvas
  have hwide : wide.Sized := by constructor <;> decide
  have htall : tall.Sized := by constructor <;> decide
  refine ⟨⟨hwide, htall⟩, by decide +kernel, ?_, by decide +kernel, fun data r h => ?_⟩
  · rw [List.map_cons, List.map_singleton, hwide.exactWidth_eq, htall.exactWidth_eq]
    decide +kernel
  · obtain ⟨_, hheight, hfits⟩ := Png.decode_fits h
    exact ((Nat.le_mul_of_pos_right _ hheight).trans hfits).trans_lt (by decide)

end BenchCharts
