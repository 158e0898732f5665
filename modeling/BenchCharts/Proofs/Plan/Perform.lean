import BenchCharts.Plan

/-!
Carrying out a plan: it stops at the first step that fails. Drawing fails only where a folder cannot
be made or a file cannot be written.
-/

namespace BenchCharts

/-- A plan that joins no pictures. -/
def Plan.ChartsOnly (plan : Plan) : Prop :=
  ∀ inputs out, .stitch inputs out ∉ plan

namespace Plan.ChartsOnly

theorem nil : Plan.ChartsOnly [] :=
  fun _ _ => List.not_mem_nil

theorem say {plan : Plan} (h : plan.ChartsOnly) (remark : Remark) :
    Plan.ChartsOnly (.say remark :: plan) := by
  intro inputs out hm
  rcases List.mem_cons.mp hm with hm | hm
  · cases hm
  · exact h inputs out hm

theorem said (remarks : List Remark) : Plan.ChartsOnly (remarks.map .say) := by
  intro inputs out hm
  obtain ⟨remark, _, he⟩ := List.mem_map.mp hm
  cases he

theorem draw (chart : Chart) (path : Path) : Plan.ChartsOnly [.draw chart path] := by
  intro inputs out hm
  cases List.mem_singleton.mp hm

theorem append {plan rest : Plan} (h : plan.ChartsOnly) (hr : rest.ChartsOnly) :
    Plan.ChartsOnly (plan ++ rest) := by
  intro inputs out hm
  rcases List.mem_append.mp hm with hm | hm
  · exact h inputs out hm
  · exact hr inputs out hm

theorem flatMap {xs : List α} {f : α → Plan} (h : ∀ x ∈ xs, (f x).ChartsOnly) :
    Plan.ChartsOnly (xs.flatMap f) := by
  intro inputs out hm
  obtain ⟨x, hx, hm⟩ := List.mem_flatMap.mp hm
  exact h x hx inputs out hm

end Plan.ChartsOnly

def Failure.IsOfWriting (path : Path) : Failure → Prop
  | .noFolder folder _ => path.parent? = some folder
  | .unwritable file _ => file = path
  | _ => False

theorem FileTree.isOfWriting_of_makeRoom {tree : FileTree} {path : Path} {failure : Failure}
    (h : tree.makeRoom path = .error failure) : failure.IsOfWriting path := by
  unfold makeRoom at h
  split at h
  · cases h
  · next parent hp =>
    cases hm : tree.makeFolders parent with
    | ok made =>
      rw [hm] at h
      cases h
    | error e =>
      rw [hm] at h
      cases h
      exact hp

theorem FileTree.isOfWriting_of_written {tree : FileTree} {path : Path}
    {written : Except FileError FileTree} {flaw? : Option PictureFlaw}
    {asFlaw : FileError → PictureFlaw} {failure : Failure}
    (h : (match written with
      | .ok tree => (tree, flaw?.map (Failure.unwritable path ·))
      | .error e => (tree, some (.unwritable path (asFlaw e)))).2 = some failure) :
    failure.IsOfWriting path := by
  cases written with
  | ok tree =>
    obtain ⟨flaw, _, rfl⟩ := Option.map_eq_some_iff.mp h
    rfl
  | error e =>
    cases h
    rfl

theorem FileTree.isOfWriting_of_deliver {tree : FileTree} {path : Path} {picture : Raster}
    {flaw? : Option PictureFlaw} {asFlaw : FileError → PictureFlaw} {failure : Failure}
    (h : (tree.deliver path picture flaw? asFlaw).2 = some failure) :
    failure.IsOfWriting path := by
  unfold deliver at h
  split at h
  · next hroom =>
    cases h
    exact isOfWriting_of_makeRoom hroom
  · next made _ =>
    cases flaw? with
    | none => exact isOfWriting_of_written h
    | some flaw =>
      dsimp only at h
      split at h
      · exact isOfWriting_of_written h
      · cases h
        rfl

namespace Setting

variable {setting : Setting} {tree : FileTree}

theorem isOfWriting_of_draw {chart : Chart} {path : Path} {failure : Failure}
    (h : (setting.draw tree chart path).failure = some failure) : failure.IsOfWriting path := by
  unfold draw at h
  split at h
  · cases h
  · next hd =>
    cases h
    exact FileTree.isOfWriting_of_deliver (congrArg Prod.snd hd)

theorem remarks_draw {chart : Chart} {path : Path}
    (h : (setting.draw tree chart path).failure = none) :
    (setting.draw tree chart path).remarks = setting.drawnRemarks path := by
  unfold draw at h ⊢
  split at h
  · rfl
  · cases h

theorem warning_notMem_draw (chart : Chart) (path : Path) (text : String) :
    .warning text ∉ (setting.draw tree chart path).remarks := by
  unfold draw
  split
  · intro hm
    rcases List.mem_cons.mp hm with he | hm
    · cases he
    · cases List.mem_singleton.mp hm
  · exact List.not_mem_nil

theorem perform_cons_of_ok {step : Step} (h : (setting.performStep tree step).failure = none)
    (steps : Plan) : setting.perform tree (step :: steps) =
      (setting.perform (setting.performStep tree step).tree steps).after
        (setting.performStep tree step).remarks := by
  rw [perform, h]

theorem perform_cons_of_failure {step : Step} {failure : Failure}
    (h : (setting.performStep tree step).failure = some failure) (steps : Plan) :
    setting.perform tree (step :: steps) = setting.performStep tree step := by
  rw [perform, h]

/-- A failure is the failure of one step, after the steps before it went well. -/
theorem failure_of_perform {plan : Plan} {failure : Failure}
    (h : (setting.perform tree plan).failure = some failure) :
    ∃ before step after, plan = before ++ step :: after ∧
      (setting.perform tree before).failure = none ∧
      (setting.performStep (setting.perform tree before).tree step).failure = some failure := by
  induction plan generalizing tree with
  | nil => cases h
  | cons step steps ih =>
    cases hs : (setting.performStep tree step).failure with
    | some first =>
      rw [perform_cons_of_failure hs, hs] at h
      exact ⟨[], step, steps, rfl, rfl, hs.trans h⟩
    | none =>
      rw [perform_cons_of_ok hs] at h
      obtain ⟨before, failing, after, rfl, hb, hf⟩ := ih h
      refine ⟨step :: before, failing, after, rfl, ?_, ?_⟩
      · rw [perform_cons_of_ok hs]
        exact hb
      · rw [perform_cons_of_ok hs]
        exact hf

theorem remarks_of_perform {plan : Plan} (h : (setting.perform tree plan).failure = none)
    {step : Step} (hm : step ∈ plan) :
    ∃ now, (setting.performStep now step).failure = none ∧
      (setting.performStep now step).remarks ⊆ (setting.perform tree plan).remarks := by
  induction plan generalizing tree with
  | nil => cases hm
  | cons first steps ih =>
    cases hs : (setting.performStep tree first).failure with
    | some failure =>
      rw [perform_cons_of_failure hs, hs] at h
      cases h
    | none =>
      rw [perform_cons_of_ok hs] at h ⊢
      rcases List.mem_cons.mp hm with rfl | hm
      · exact ⟨tree, hs, List.subset_append_left _ _⟩
      · obtain ⟨now, hnow, hsub⟩ := ih h hm
        exact ⟨now, hnow, List.Subset.trans hsub (List.subset_append_right _ _)⟩

theorem mem_remarks_of_perform {plan : Plan} {remark : Remark}
    (h : remark ∈ (setting.perform tree plan).remarks) :
    ∃ now, ∃ step ∈ plan, remark ∈ (setting.performStep now step).remarks := by
  induction plan generalizing tree with
  | nil => cases h
  | cons first steps ih =>
    cases hs : (setting.performStep tree first).failure with
    | some failure =>
      rw [perform_cons_of_failure hs] at h
      exact ⟨tree, first, List.mem_cons_self, h⟩
    | none =>
      rw [perform_cons_of_ok hs] at h
      rcases List.mem_append.mp h with h | h
      · exact ⟨tree, first, List.mem_cons_self, h⟩
      · obtain ⟨now, step, hm, hr⟩ := ih h
        exact ⟨now, step, List.mem_cons_of_mem _ hm, hr⟩

theorem said_first_of_perform {said : List Remark} {remark : Remark} (hm : remark ∈ said)
    (rest : Plan) : remark ∈ (setting.perform tree (said.map .say ++ rest)).remarks := by
  induction said with
  | nil => cases hm
  | cons first said ih =>
    have hok : (setting.performStep tree (.say first)).failure = none := rfl
    rw [List.map_cons, List.cons_append, perform_cons_of_ok hok]
    rcases List.mem_cons.mp hm with rfl | hm
    · exact List.mem_append_left _ (List.mem_singleton_self _)
    · exact List.mem_append_right _ (ih hm)

theorem said_of_perform {plan : Plan} (h : (setting.perform tree plan).failure = none)
    {remark : Remark} (hm : .say remark ∈ plan) :
    remark ∈ (setting.perform tree plan).remarks := by
  obtain ⟨now, _, hsub⟩ := remarks_of_perform h hm
  exact hsub (List.mem_singleton_self remark)

theorem drawn_of_perform {plan : Plan} (h : (setting.perform tree plan).failure = none)
    {chart : Chart} {path : Path} (hm : .draw chart path ∈ plan) :
    setting.drawnRemarks path ⊆ (setting.perform tree plan).remarks := by
  obtain ⟨now, hnow, hsub⟩ := remarks_of_perform h hm
  have hsaid : setting.drawnRemarks path = (setting.performStep now (.draw chart path)).remarks :=
    (remarks_draw hnow).symm
  rw [hsaid]
  exact hsub

theorem warning_of_perform {plan : Plan} (hs : plan.ChartsOnly) {text : String}
    (h : .warning text ∈ (setting.perform tree plan).remarks) : .say (.warning text) ∈ plan := by
  obtain ⟨now, step, hm, hr⟩ := mem_remarks_of_perform h
  cases step with
  | say remark =>
    rw [List.mem_singleton.mp hr]
    exact hm
  | draw chart path => exact (warning_notMem_draw _ _ _ hr).elim
  | stitch inputs out => exact (hs inputs out hm).elim

theorem failure_of_perform_charts {plan : Plan} {failure : Failure} (hs : plan.ChartsOnly)
    (h : (setting.perform tree plan).failure = some failure) :
    ∃ before chart path after, plan = before ++ .draw chart path :: after ∧
      (setting.perform tree before).failure = none ∧
      (setting.draw (setting.perform tree before).tree chart path).failure = some failure ∧
      failure.IsOfWriting path := by
  obtain ⟨before, step, after, rfl, hb, hf⟩ := failure_of_perform h
  cases step with
  | say remark => cases hf
  | draw chart path => exact ⟨before, chart, path, after, rfl, hb, hf, isOfWriting_of_draw hf⟩
  | stitch inputs out =>
    have hm : .stitch inputs out ∈ before ++ .stitch inputs out :: after :=
      List.mem_append_right _ List.mem_cons_self
    exact (hs inputs out hm).elim

end Setting

end BenchCharts
