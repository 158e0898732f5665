import BenchCharts.Proofs.Dataset.Walk

/-!
Extraction at one place: of the rows for a group, a count and a category the last one counts.
-/

namespace BenchCharts

namespace Dataset

/-- A place of a dataset holds the value of the last row for it, and nothing if there is none. -/
theorem get?_atCount_extract {set : GroupSet} (h : set.Distinct) (document : Document) {i : Nat}
    {g : Group} (hi : set.groups[i]? = some g) (count : Nat) (category : String) :
    ((extract document set).atCount g.name count).get? category =
      ((set.givenRows document).filter fun (group, row) =>
        group = i ∧ row.measures set.shape count category).getLast?.map
          fun (_, row) => row.nanos := by
  rw [extract, get?_atCount_ofVerdicts h _ hi, GroupSet.filterMap_nanosAt?_walk, List.getLast?_map]

/-- A later row overrides an earlier one even if it is pooled. -/
theorem get?_atCount_extract_pooled :
    let set := (GroupSet.exact .count ["worker", "knitting"]).pool "entries"
    let document : Document := .mapping
      [("worker", .array [.object [("name", .string "w -> (1)"), ("avg", .int 10)]]),
        ("entries", .array [.null, .object [("name", .string "x (1)"),
          ("group", .string "Worker "), ("avg", .string "2 us")]])]
    set.Distinct ∧ ((extract document set).atCount "worker" 1).get? "default" = some 2000.0 := by
  intro set document
  have h : set.Distinct := by decide +kernel
  have hi : set.groups[0]? = some ⟨"worker", .exact⟩ := by rfl
  exact ⟨h, (get?_atCount_extract h document hi 1 "default").trans rfl⟩

end Dataset

end BenchCharts
