import BenchCharts.Proofs.Dataset.Walk

/-!
Rows under a key of their group and rows under a pooled key. A list under a key that belongs to a
group may as well stand under a pooled key, if each of its rows is given the key as its field
`group`.
-/

namespace BenchCharts

namespace Row

/-- The fields that a count, a category and an average are read from. -/
def measuredFields : List String :=
  ["label", "name", "stats", "avg", "average", "mean"]

variable {row : Row} {field : String}

theorem firstField?_put {names : List String} (h : field ∉ names) (value : Json)
    (keep : Json → Bool) :
    firstField? (row.put field value) names keep = row.firstField? names keep := by
  induction names with
  | nil => rfl
  | cons name names ih =>
    obtain ⟨hne, hrest⟩ := not_or.mp (List.mem_cons.not.mp h)
    have hstep (row : Row) : row.firstField? (name :: names) keep =
        ((row.get? name).filter keep).or (row.firstField? names keep) := by
      rw [firstField?, List.findSome?_cons]
      cases (row.get? name).filter keep <;> rfl
    rw [hstep, hstep, ih hrest, Fields.get?_put, if_neg hne]

theorem label_put (h : field ∉ measuredFields) (value : Json) :
    label (row.put field value) = row.label := by
  have hnames : field ∉ ["label", "name"] := fun hm => h (List.mem_append_left _ hm)
  rw [label, firstField?_put hnames, label]

theorem average?_put (h : field ∉ measuredFields) (value : Json) :
    average? (row.put field value) = row.average? := by
  have hstats : field ≠ "stats" := by
    rintro rfl
    exact h (by decide)
  have hnames : field ∉ ["avg", "average", "mean"] :=
    fun hm => h (List.mem_append_right ["label", "name", "stats"] hm)
  rw [average?, statsAverage?, Fields.get?_put, if_neg hstats, firstField?_put hnames, average?,
    statsAverage?]

end Row

/-- An item of a list of rows, with a key in the field `group` if it is a row. -/
def Json.withGroup (key : String) : Json → Json
  | .object row => .object (Fields.put row "group" (.string key))
  | item => item

namespace GroupSet

variable {set : GroupSet} {pool key : String}

theorem judgeRow_put {field : String} (h : field ∉ Row.measuredFields) (group : Nat) (row : Row)
    (value : Json) : set.judgeRow group (row.put field value) = set.judgeRow group row := by
  have hlabel : Row.label (row.put field value) = row.label := Row.label_put h value
  have hcount (shape : Shape) : Row.count? (row.put field value) shape = row.count? shape := by
    cases shape <;> simp only [Row.count?, Row.labelText?, hlabel]
  have hcategory (shape : Shape) :
      Row.category (row.put field value) shape = row.category shape := by
    cases shape <;> simp only [Row.category, hlabel]
  have hnanos : Row.nanos (row.put field value) = row.nanos := by
    rw [Row.nanos, Row.average?_put h, Row.nanos]
  rw [judgeRow, hcount, hcategory, hnanos, judgeRow]

/-- The field `group` of a pooled row decides before its field `mode` and its label. -/
theorem route_put_group {i : Nat} (h : set.resolve key = some i) (row : Row) :
    set.route (row.put "group" (.string key)) = some i := by
  rw [route, List.findSome?_cons, Fields.get?_put, if_pos rfl]
  dsimp only
  rw [h]
  rfl

theorem verdictOn_withGroup (hp : set.isPooled pool = true) (hk : set.isPooled key = false)
    {i : Nat} (hi : set.resolve key = some i) (item : Json) :
    set.verdictOn (pool, item.withGroup key) = set.verdictOn (key, item) := by
  cases item with
  | object row =>
    have hroute : set.groupUnder? pool (Fields.put row "group" (.string key)) = some i := by
      rw [groupUnder?, if_pos hp]
      exact route_put_group hi row
    have hkey : set.groupUnder? key row = some i := by
      rw [groupUnder?, hk]
      exact hi
    rw [Json.withGroup, verdictOn, given?, hroute, verdictOn, given?, hkey]
    exact judgeRow_put (by decide) i row _
  | _ => rfl

theorem judgeEntry_withGroup (hp : set.isPooled pool = true) (hk : set.isPooled key = false)
    {i : Nat} (hi : set.resolve key = some i) (items : List Json) :
    set.judgeEntry pool (.array (items.map (Json.withGroup key))) =
      set.judgeEntry key (.array items) := by
  have hpool : set.knows pool = true := by rw [knows, hp, Bool.true_or]
  have hkey : set.knows key = true := by rw [knows, hi, Option.isSome_some, Bool.or_true]
  rw [judgeEntry_eq, judgeEntry_eq, itemsUnder, itemsUnder, if_pos hpool, if_pos hkey,
    List.map_map, List.map_map, List.map_map]
  apply List.map_congr_left
  intro item _
  exact verdictOn_withGroup hp hk hi item

/-- What stands for an entry of a section where all rows are pooled. -/
def pooledSection? (set : GroupSet) (pool key : String) : Json → Option Section
  | .array items =>
    if set.isPooled key then some [(key, .array items)]
    else if (set.resolve key).isSome then some [(pool, .array (items.map (Json.withGroup key)))]
    else none
  | _ => none

/-- The sections of a document where all rows are pooled, one for each list of rows. -/
def pooledForm (set : GroupSet) (pool : String) (document : Document) : List Section :=
  document.toSections.flatMap fun fields => fields.filterMap fun (key, value) =>
    set.pooledSection? pool key value

theorem judgeSection_singleton (set : GroupSet) (key : String) (value : Json) :
    set.judgeSection [(key, value)] = set.judgeEntry key value :=
  List.append_nil _

theorem judge_pooledSection? (hp : set.isPooled pool = true) (key : String) (value : Json) :
    (set.pooledSection? pool key value).toList.flatMap set.judgeSection =
      set.judgeEntry key value := by
  cases value with
  | array items =>
    rw [pooledSection?]
    by_cases hk : set.isPooled key = true
    · rw [if_pos hk, Option.toList_some, List.flatMap_singleton, judgeSection_singleton]
    · rw [if_neg hk]
      cases hr : set.resolve key with
      | none =>
        have hkey : ¬ set.knows key = true := by
          rw [knows, hr, Option.isSome_none, Bool.or_false]
          exact hk
        rw [Option.isSome_none, if_neg Bool.false_ne_true, judgeEntry_eq, itemsUnder, if_neg hkey]
        rfl
      | some i =>
        rw [Option.isSome_some, if_pos rfl, Option.toList_some, List.flatMap_singleton,
          judgeSection_singleton]
        exact judgeEntry_withGroup hp (Bool.eq_false_iff.mpr hk) hr items
  | _ => rw [judgeEntry_eq]; rfl

theorem walk_pooledForm (hp : set.isPooled pool = true) (document : Document) :
    set.walk (.sections (set.pooledForm pool document)) = set.walk document := by
  simp only [walk, pooledForm, Document.toSections, List.flatMap_assoc]
  apply List.flatMap_congr
  intro fields _
  rw [List.filterMap_eq_flatMap_toList, List.flatMap_assoc, judgeSection]
  apply List.flatMap_congr
  intro e _
  exact judge_pooledSection? hp e.1 e.2

theorem isPooled_of_mem_pooledForm (hp : set.isPooled pool = true) {document : Document}
    {fields : Section} (h : fields ∈ set.pooledForm pool document) :
    ∃ key items, fields = [(key, .array items)] ∧ set.isPooled key = true := by
  obtain ⟨fields', _, h⟩ := List.mem_flatMap.mp h
  obtain ⟨⟨key, value⟩, _, h⟩ := List.mem_filterMap.mp h
  dsimp only at h
  unfold pooledSection? at h
  split at h
  · split at h
    · next hk =>
      cases h
      exact ⟨key, _, rfl, hk⟩
    · split at h
      · cases h
        exact ⟨pool, _, rfl, hp⟩
      · cases h
  · cases h

theorem isPooled_pool (set : GroupSet) (key : String) : (set.pool key).isPooled key = true :=
  List.contains_iff_mem.mpr (List.mem_append_right _ (List.mem_singleton_self _))

end GroupSet

namespace Dataset

/-- The dataset of a document is that of its pooled form, which has pooled keys only. -/
theorem extract_pooledForm {set : GroupSet} {pool : String} (hp : set.isPooled pool = true)
    (document : Document) :
    (∀ fields ∈ set.pooledForm pool document, ∃ key items,
        fields = [(key, .array items)] ∧ set.isPooled key = true) ∧
      extract (.sections (set.pooledForm pool document)) set = extract document set :=
  ⟨fun _ h => GroupSet.isPooled_of_mem_pooledForm hp h,
    congrArg (ofVerdicts set) (GroupSet.walk_pooledForm hp document)⟩

/-- A row of the workers whose field `mode` and whose label name another group, and what is no row,
next to a pooled list and a key that is not known. -/
theorem extract_pooledForm_contradicting :
    let set := (GroupSet.exact .count ["worker", "knitting"]).pool "Entries"
    let row : Json := .object
      [("name", .string "knitting (3)"), ("mode", .string "knitting"), ("avg", .int 5)]
    let document : Document := .mapping [("Worker ", .array [row, .null]), ("other", .array [row]),
      ("knitting", .string "oops"), ("entries", .array [row, .int 7])]
    let form := set.pooledForm "Entries" document
    set.isPooled "Entries" = true ∧ form.map (·.map (·.1)) = [["Entries"], ["entries"]] ∧
      extract (.sections form) set = extract document set ∧
      (extract (.sections form) set).groups.map (·.1) = ["worker", "knitting"] ∧
      (extract (.sections form) set).skipped = ⟨0, 0, 2⟩ := by
  intro set row document form
  have hp : set.isPooled "Entries" = true := GroupSet.isPooled_pool _ "Entries"
  have h : extract (.sections form) set = extract document set := (extract_pooledForm hp document).2
  exact ⟨hp, by decide +kernel, h, by decide +kernel, by decide +kernel⟩

end Dataset

end BenchCharts
