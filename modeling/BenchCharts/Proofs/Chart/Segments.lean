import BenchCharts.Chart.Segments
import Mathlib.Data.List.Chain
import Mathlib.Data.List.ReduceOption

/-!
The pieces of a line are the longest runs of values that have a place on the axis: together they
hold each of these values once and in order, and between two pieces lies a value without a place.
-/

namespace BenchCharts

section Runs

variable {α : Type}

theorem flatten_closeRun (run : List α) : (closeRun run).flatten = run := by
  cases run <;> simp [closeRun]

theorem mem_closeRun_iff {run r : List α} : r ∈ closeRun run ↔ r = run ∧ r ≠ [] := by
  cases run with
  | nil => simp [closeRun]
  | cons a run =>
    rw [closeRun, List.isEmpty_cons, if_neg Bool.false_ne_true, List.mem_singleton]
    exact ⟨fun h => ⟨h, h ▸ List.cons_ne_nil a run⟩, fun h => h.1⟩

theorem isChain_closeRun (R : List α → List α → Prop) (run : List α) :
    (closeRun run).IsChain R := by
  cases run <;> simp [closeRun]

theorem flatten_runsAfter (run : List α) (xs : List (Option α)) :
    (runsAfter run xs).flatten = run ++ xs.reduceOption := by
  induction xs generalizing run with
  | nil => rw [runsAfter, flatten_closeRun, List.reduceOption_nil, List.append_nil]
  | cons x xs ih =>
    cases x with
    | none =>
      rw [runsAfter, List.flatten_append, flatten_closeRun, ih, List.nil_append,
        List.reduceOption_cons_of_none]
    | some a =>
      rw [runsAfter, ih, List.append_assoc, List.singleton_append, List.reduceOption_cons_of_some]

end Runs

namespace Chart

section Numbered

variable {α β : Type} (place? : β → Option α)

/-- What `place?` makes of the members of a list, each with its index counted from `start`. -/
def numbered (start : Nat) (xs : List β) : List (Option (Nat × α)) :=
  (xs.zipIdx start).map fun (x, i) => (place? x).map ((i, ·))

/-- The indices of a run follow one another, up to the one in front of `stop`. -/
def Consecutive (run : List (Nat × α)) (stop : Nat) : Prop :=
  ∃ first, run.map (·.1) = List.range' first run.length ∧ first + run.length = stop

/-- An index with the property `p` lies behind the one run and in front of the other. -/
def Parted (p : Nat → Prop) (run next : List (Nat × α)) : Prop :=
  ∃ i, p i ∧ (∀ point ∈ run, point.1 < i) ∧ ∀ point ∈ next, i < point.1

variable {place?}

theorem numbered_cons (start : Nat) (x : β) (xs : List β) :
    numbered place? start (x :: xs) =
      (place? x).map ((start, ·)) :: numbered place? (start + 1) xs := by
  rw [numbered, List.zipIdx_cons, List.map_cons]
  rfl

theorem consecutive_nil (stop : Nat) : Consecutive (α := α) [] stop :=
  ⟨stop, rfl, rfl⟩

theorem Consecutive.concat {run : List (Nat × α)} {stop : Nat} (h : Consecutive run stop) (a : α) :
    Consecutive (run ++ [(stop, a)]) (stop + 1) := by
  obtain ⟨first, hrun, rfl⟩ := h
  refine ⟨first, ?_, by rw [List.length_append, List.length_singleton, Nat.add_assoc]⟩
  rw [List.map_append, hrun, List.length_append, List.length_singleton, List.range'_1_concat]
  rfl

theorem Consecutive.lt {run : List (Nat × α)} {stop : Nat} (h : Consecutive run stop) :
    ∀ point ∈ run, point.1 < stop := by
  obtain ⟨first, hrun, rfl⟩ := h
  intro point hp
  have hm : point.1 ∈ run.map (·.1) := List.mem_map_of_mem hp
  rw [hrun, List.mem_range'_1] at hm
  exact hm.2

theorem reduceOption_numbered (start : Nat) (xs : List β) :
    (numbered place? start xs).reduceOption =
      (xs.zipIdx start).filterMap fun (x, i) => (place? x).map ((i, ·)) := by
  rw [numbered, List.reduceOption, List.filterMap_map]
  rfl

/-- A run under way reaches up to the next index; a run that is closed stays as it is. -/
theorem consecutive_of_mem_runsAfter {run : List (Nat × α)} {start : Nat}
    (h : Consecutive run start) (xs : List β) :
    ∀ r ∈ runsAfter run (numbered place? start xs), r ≠ [] ∧ ∃ stop, Consecutive r stop := by
  induction xs generalizing run start with
  | nil =>
    intro r hr
    obtain ⟨rfl, hne⟩ := mem_closeRun_iff.mp hr
    exact ⟨hne, start, h⟩
  | cons x xs ih =>
    intro r hr
    rw [numbered_cons] at hr
    cases hx : place? x with
    | some a =>
      rw [hx] at hr
      exact ih (h.concat a) r hr
    | none =>
      rw [hx] at hr
      rcases List.mem_append.mp hr with hr | hr
      · obtain ⟨rfl, hne⟩ := mem_closeRun_iff.mp hr
        exact ⟨hne, start, h⟩
      · exact ih (consecutive_nil _) r hr

theorem le_of_mem_runs {start : Nat} {xs : List β} {r : List (Nat × α)}
    (hr : r ∈ runsAfter [] (numbered place? start xs)) : ∀ point ∈ r, start ≤ point.1 := by
  intro point hp
  have hm : point ∈ (runsAfter [] (numbered place? start xs)).flatten :=
    List.mem_flatten.mpr ⟨r, hr, hp⟩
  rw [flatten_runsAfter, List.nil_append, reduceOption_numbered, List.mem_filterMap] at hm
  obtain ⟨⟨x, i⟩, hi, he⟩ := hm
  obtain ⟨a, -, rfl⟩ := Option.map_eq_some_iff.mp he
  exact List.le_snd_of_mem_zipIdx hi

theorem isChain_runsAfter {p : Nat → Prop} {run : List (Nat × α)} {start : Nat}
    (h : Consecutive run start) {xs : List β}
    (hp : ∀ e ∈ xs.zipIdx start, place? e.1 = none → p e.2) :
    (runsAfter run (numbered place? start xs)).IsChain (Parted p) := by
  induction xs generalizing run start with
  | nil => exact isChain_closeRun _ run
  | cons x xs ih =>
    rw [List.zipIdx_cons, List.forall_mem_cons] at hp
    obtain ⟨hx, hxs⟩ := hp
    rw [numbered_cons]
    cases hplace : place? x with
    | some a => exact ih (h.concat a) hxs
    | none =>
      -- the index of the gap lies between the run that ends here and all that follow
      refine List.isChain_append.mpr
        ⟨isChain_closeRun _ run, ih (consecutive_nil _) hxs, fun r hr next hn => ?_⟩
      obtain ⟨rfl, -⟩ := mem_closeRun_iff.mp (List.mem_of_getLast? hr)
      exact ⟨start, hx hplace, h.lt, le_of_mem_runs (List.mem_of_head? hn)⟩

end Numbered

theorem place?_eq_none_iff {scale : Scale} {x : Float} :
    place? scale x = none ↔ (scale.forward x).isFinite = false := by
  rw [place?]
  split
  · next h => exact iff_of_false nofun (Bool.not_eq_false _ ▸ h)
  · next h => exact iff_of_true rfl (Bool.eq_false_iff.mpr h)

theorem segments_eq (scale : Scale) (values : List Float) :
    segments scale values = runsAfter [] (numbered (place? scale) 0 values) := rfl

theorem flatten_segments (scale : Scale) (values : List Float) :
    (segments scale values).flatten =
      (values.zipIdx.filter fun (x, _) => (scale.forward x).isFinite).map
        fun (x, i) => (i, scale.forward x) := by
  rw [segments_eq, flatten_runsAfter, List.nil_append, reduceOption_numbered,
    ← List.filterMap_eq_map, List.filterMap_filter]
  apply List.filterMap_congr
  rintro ⟨x, i⟩ _
  unfold place?
  cases h : (scale.forward x).isFinite <;> simp [h]

/-- The pieces of a line, one behind the other, are the points of all values with a place on the
axis. A piece has a point at least and leaves no index out, and an index without a place lies
between two pieces. -/
theorem segments_maximal_runs (scale : Scale) (values : List Float) :
    let hasPlace (x : Float) : Bool := (scale.forward x).isFinite
    (segments scale values).flatten =
        (values.zipIdx.filter fun (x, _) => hasPlace x).map (fun (x, i) => (i, scale.forward x)) ∧
      (∀ run ∈ segments scale values,
        run ≠ [] ∧ ∃ first, run.map (·.1) = List.range' first run.length) ∧
      (segments scale values).IsChain fun run next =>
        ∃ i, (∃ x, values[i]? = some x ∧ hasPlace x = false) ∧
          (∀ point ∈ run, point.1 < i) ∧ ∀ point ∈ next, i < point.1 := by
  intro hasPlace
  refine ⟨flatten_segments scale values, fun run hr => ?_,
    isChain_runsAfter (consecutive_nil 0) ?_⟩
  · obtain ⟨hne, stop, first, hrun, -⟩ :=
      consecutive_of_mem_runsAfter (consecutive_nil 0) values run hr
    exact ⟨hne, first, hrun⟩
  · rintro ⟨x, i⟩ hi hx
    exact ⟨x, List.mem_zipIdx_iff_getElem?.mp hi, place?_eq_none_iff.mp hx⟩

/-- Gaps at both ends, and two of them, one an infinity, between the pieces. -/
theorem segments_maximal_runs_gaps :
    let values : List Float :=
      [Decimal.nan, 1.0, Decimal.infinity, Decimal.nan, 3.0, 4.0, Decimal.nan]
    let run : List (Nat × Float) := [(4, 3.0), (5, 4.0)]
    segments .linear values = [[(1, 1.0)], run] ∧ run ∈ segments .linear values ∧ run ≠ [] ∧
      ∃ first, run.map (·.1) = List.range' first run.length := by
  intro values run
  have hsegments : segments .linear values = [[(1, 1.0)], run] := by decide +kernel
  have hrun : run ∈ segments .linear values := hsegments ▸ List.mem_cons_of_mem _ List.mem_cons_self
  exact ⟨hsegments, hrun, (segments_maximal_runs .linear values).2.1 run hrun⟩

end Chart

end BenchCharts
