import BenchCharts.Proofs.FileTree
import BenchCharts.Proofs.Plan.Perform

/-!
The pictures of a run. One that goes well writes each chart of its plan where the path of the chart
leads to, and no other file. The picture stays if no later chart goes to the same place.
-/

namespace BenchCharts

def Plan.drawn (plan : Plan) : List (Chart × Path) :=
  plan.filterMap fun
    | .draw chart path => some (chart, path)
    | _ => none

theorem Plan.drawn_append (plan rest : Plan) : (plan ++ rest).drawn = plan.drawn ++ rest.drawn :=
  List.filterMap_append

theorem Plan.drawn_said (remarks : List Remark) : Plan.drawn (remarks.map .say) = [] := by
  rw [drawn, List.filterMap_map]
  exact List.filterMap_eq_nil_iff.mpr fun _ _ => rfl

theorem Plan.drawn_flatMap (xs : List α) (f : α → Plan) :
    Plan.drawn (xs.flatMap f) = xs.flatMap fun x => (f x).drawn :=
  List.filterMap_flatMap

/-- A chart that was drawn, and the names that its picture lies under. -/
structure Image where
  chart : Chart
  path : Path
  place : List String

/-- What a run has drawn. -/
structure Setting.Paints (setting : Setting) (tree after : FileTree) (images : List Image) : Prop
    where
  changes : tree.Changes after (images.map (·.place))
  leads : ∀ image ∈ images, after.namesOf image.path = .ok image.place
  shows : (images.map (·.place)).Nodup → ∀ image ∈ images,
    after.content? image.place = some (.picture (setting.picture image.chart))

namespace Setting

variable {setting : Setting} {tree : FileTree}

theorem Paints.nil (setting : Setting) (tree : FileTree) : setting.Paints tree tree [] :=
  ⟨.refl tree, List.forall_mem_nil _, fun _ => List.forall_mem_nil _⟩

theorem Paints.cons {between after : FileTree} {image : Image} {images : List Image}
    (hfirst : setting.Paints tree between [image]) (hrest : setting.Paints between after images) :
    setting.Paints tree after (image :: images) where
  changes := hfirst.changes.trans hrest.changes
  leads := by
    have hled := hfirst.leads image (List.mem_singleton_self image)
    exact List.forall_mem_cons.mpr ⟨hrest.changes.namesOf hled, hrest.leads⟩
  shows := by
    intro hnodup
    obtain ⟨hlater, hnodup⟩ := List.nodup_cons.mp hnodup
    refine List.forall_mem_cons.mpr ⟨?_, hrest.shows hnodup⟩
    rw [hrest.changes.content?_eq _ hlater]
    exact hfirst.shows (List.nodup_singleton _) image (List.mem_singleton_self image)

theorem paints_draw {chart : Chart} {path : Path}
    (h : (setting.draw tree chart path).failure = none) :
    ∃ place, setting.Paints tree (setting.draw tree chart path).tree [⟨chart, path, place⟩] := by
  unfold draw at h ⊢
  split at h
  · next after hd =>
    obtain ⟨place, hchanges, hn, hc⟩ := FileTree.changes_deliver hd
    exact ⟨place, hchanges, List.forall_mem_singleton.mpr hn,
      fun _ => List.forall_mem_singleton.mpr hc⟩
  · cases h

/-- By induction on the steps: what a step has written is where it was after the steps behind it, as
these change no other places than their own. -/
theorem paints_of_perform {plan : Plan} (hs : plan.ChartsOnly)
    (h : (setting.perform tree plan).failure = none) :
    ∃ images : List Image, images.map (fun image => (image.chart, image.path)) = plan.drawn ∧
      setting.Paints tree (setting.perform tree plan).tree images := by
  induction plan generalizing tree with
  | nil => exact ⟨[], rfl, .nil setting tree⟩
  | cons step steps ih =>
    have hsteps : Plan.ChartsOnly steps :=
      fun inputs out hm => hs inputs out (List.mem_cons_of_mem _ hm)
    cases hstep : (setting.performStep tree step).failure with
    | some failure =>
      rw [perform_cons_of_failure hstep, hstep] at h
      cases h
    | none =>
      rw [perform_cons_of_ok hstep] at h ⊢
      obtain ⟨images, hdrawn, hpaints⟩ := ih hsteps h
      cases step with
      | say remark => exact ⟨images, hdrawn, hpaints⟩
      | draw chart path =>
        obtain ⟨place, hfirst⟩ := paints_draw hstep
        exact ⟨⟨chart, path, place⟩ :: images, congrArg ((chart, path) :: ·) hdrawn,
          hfirst.cons hpaints⟩
      | stitch inputs out => exact (hs inputs out List.mem_cons_self).elim

end Setting

theorem Image.nodup_places {tree : FileTree} {images : List Image}
    (hleads : ∀ image ∈ images, tree.namesOf image.path = .ok image.place)
    (hapart : (images.map (·.path)).Pairwise Path.Apart) : (images.map (·.place)).Nodup := by
  rw [List.pairwise_map] at hapart
  apply List.pairwise_map.mpr
  refine hapart.imp_of_mem fun {image image'} hm hm' ha he => ?_
  exact ha.namesOf_ne tree image.place (hleads image hm) (he ▸ hleads image' hm')

end BenchCharts
