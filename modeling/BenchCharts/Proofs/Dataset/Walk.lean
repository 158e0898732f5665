import BenchCharts.Proofs.Dataset.Points

/-!
The walk over a document: the items of the lists under known keys, the rows among them that go to a
group, and what becomes of each.
-/

namespace BenchCharts

/-- Whether a row has a number for a count and a category. -/
def Row.measures (row : Row) (shape : Shape) (count : Nat) (category : String) : Bool :=
  row.count? shape == some count && row.category shape == category && !row.nanos.isNaN

theorem Row.measures_iff {row : Row} {shape : Shape} {count : Nat} {category : String} :
    row.measures shape count category = true ↔
      row.count? shape = some count ∧ row.category shape = category ∧ row.nanos.isNaN = false := by
  simp only [measures, Bool.and_eq_true, beq_iff_eq, Bool.not_eq_true', and_assoc]

namespace GroupSet

/-- The group of a row under a document key: its own choice under a pooled key, and otherwise the
group of the key. -/
def groupUnder? (set : GroupSet) (key : String) (row : Row) : Option Nat :=
  if set.isPooled key then set.route row else set.resolve key

def knows (set : GroupSet) (key : String) : Bool :=
  set.isPooled key || (set.resolve key).isSome

def itemsUnder (set : GroupSet) (key : String) : Json → List (String × Json)
  | .array items => if set.knows key then items.map (key, ·) else []
  | _ => []

/-- The items of all lists under known keys in the order of the walk, each with its key. -/
def items (set : GroupSet) (document : Document) : List (String × Json) :=
  document.toSections.flatMap fun fields => fields.flatMap fun (key, value) =>
    set.itemsUnder key value

def given? (set : GroupSet) : String × Json → Option (Nat × Row)
  | (key, .object row) => (set.groupUnder? key row).map (·, row)
  | _ => none

def givenRows (set : GroupSet) (document : Document) : List (Nat × Row) :=
  (set.items document).filterMap set.given?

def verdictOn (set : GroupSet) (item : String × Json) : Verdict :=
  match set.given? item with
  | some (group, row) => set.judgeRow group row
  | none => .unroutable

theorem judge_eq_verdictOn {set : GroupSet} {key : String} {destination : Destination}
    (h : set.destination? key = some destination) (item : Json) :
    set.judge destination item = set.verdictOn (key, item) := by
  cases item with
  | object row =>
    have hgroup : set.groupOf row destination = set.groupUnder? key row := by
      unfold destination? at h
      unfold groupUnder?
      split at h
      · next hp =>
        cases h
        rw [if_pos hp]
        rfl
      · next hp =>
        obtain ⟨i, hi, rfl⟩ := Option.map_eq_some_iff.mp h
        rw [if_neg hp, hi]
        rfl
    rw [judge, verdictOn, given?, hgroup]
    cases set.groupUnder? key row <;> rfl
  | _ => rfl

theorem knows_eq_isSome_destination? (set : GroupSet) (key : String) :
    set.knows key = (set.destination? key).isSome := by
  unfold knows destination?
  cases set.isPooled key <;> simp

theorem judgeEntry_eq (set : GroupSet) (key : String) (value : Json) :
    set.judgeEntry key value = (set.itemsUnder key value).map set.verdictOn := by
  cases value with
  | array items =>
    cases hd : set.destination? key with
    | none => simp [judgeEntry, itemsUnder, knows_eq_isSome_destination?, hd]
    | some destination =>
      simp only [judgeEntry, itemsUnder, knows_eq_isSome_destination?, hd, Option.isSome_some,
        ↓reduceIte, List.map_map]
      exact List.map_congr_left fun item _ => judge_eq_verdictOn hd item
  | _ => cases hd : set.destination? key <;> simp [judgeEntry, itemsUnder, hd]

theorem walk_eq (set : GroupSet) (document : Document) :
    set.walk document = (set.items document).map set.verdictOn := by
  simp only [walk, items, List.map_flatMap, ← judgeEntry_eq]
  rfl

theorem nanosAt?_judgeRow (set : GroupSet) (group i count : Nat) (category : String) (row : Row) :
    (set.judgeRow group row).nanosAt? i count category =
      if group = i ∧ row.measures set.shape count category then some row.nanos else none := by
  simp only [Row.measures_iff]
  unfold judgeRow
  cases hc : row.count? set.shape with
  | none =>
    rw [if_neg fun h => nomatch h.2.1]
    rfl
  | some c =>
    cases hx : row.nanos.isNaN with
    | true =>
      rw [if_neg fun h => nomatch h.2.2.2]
      rfl
    | false =>
      apply if_congr ?_ rfl rfl
      simp only [Option.some.injEq, and_true]

theorem filterMap_nanosAt?_walk (set : GroupSet) (document : Document) (i count : Nat)
    (category : String) :
    (set.walk document).filterMap (Verdict.nanosAt? i count category) =
      ((set.givenRows document).filter fun (group, row) =>
        group = i ∧ row.measures set.shape count category).map fun (_, row) => row.nanos := by
  rw [walk_eq, givenRows, List.filterMap_map, List.filter_filterMap, List.map_filterMap]
  apply List.filterMap_congr
  intro item _
  simp only [Function.comp_apply, verdictOn]
  cases hg : set.given? item with
  | none => rfl
  | some given =>
    obtain ⟨group, row⟩ := given
    rw [nanosAt?_judgeRow]
    simp only [Option.filter_some, decide_eq_true_eq]
    split <;> rfl

end GroupSet

end BenchCharts
