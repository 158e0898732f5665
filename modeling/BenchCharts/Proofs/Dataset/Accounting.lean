import BenchCharts.Proofs.Dataset.Places
import BenchCharts.Proofs.Dataset.Walk
import BenchCharts.Proofs.Group
import Mathlib.Data.List.Perm.Subperm

/-!
What becomes of the items of a document: each one is dropped for one reason or accepted, and the
accepted rows are the places of the dataset.
-/

namespace BenchCharts

theorem length_le_of_nodup {l l' : List α} (h : l.Nodup) (hm : ∀ x, x ∈ l ↔ x ∈ l') :
    l.length ≤ l'.length ∧ (l.length = l'.length ↔ l'.Nodup) := by
  have hs := List.subperm_of_subset h fun x hx => (hm x).mp hx
  refine ⟨hs.length_le, fun he => ?_, fun hn => ?_⟩
  · exact (hs.perm_of_length_le (Nat.le_of_eq he.symm)).nodup_iff.mp h
  · exact ((List.perm_ext_iff_of_nodup h hn).mpr hm).length_eq

namespace Verdict

def place? : Verdict → Option (Nat × Nat × String)
  | accepted group count category _ => some (group, count, category)
  | _ => none

theorem length_eq (verdicts : List Verdict) :
    verdicts.length = verdicts.countP isNoCount + verdicts.countP isNoValue +
      verdicts.countP isUnroutable + (verdicts.filterMap place?).length := by
  induction verdicts with
  | nil => rfl
  | cons v verdicts ih =>
    cases v <;> simp only [List.length_cons, List.countP_cons, List.filterMap_cons, ih, isNoCount,
      isNoValue, isUnroutable, place?] <;> simp <;> omega

theorem isSome_nanosAt?_iff (v : Verdict) (group count : Nat) (category : String) :
    (v.nanosAt? group count category).isSome ↔ v.place? = some (group, count, category) := by
  cases v with
  | accepted g c k nanos =>
    rw [nanosAt?, place?, Option.some.injEq, Prod.mk.injEq, Prod.mk.injEq]
    split <;> simp_all
  | _ => simp [nanosAt?, place?]

theorem isSome_getLast?_nanosAt?_iff {verdicts : List Verdict} {group count : Nat}
    {category : String} :
    (verdicts.filterMap (nanosAt? group count category)).getLast?.isSome ↔
      (group, count, category) ∈ verdicts.filterMap place? := by
  rw [List.getLast?_isSome]
  constructor
  · intro h
    obtain ⟨nanos, hn⟩ := List.exists_mem_of_ne_nil _ h
    obtain ⟨v, hv, he⟩ := List.mem_filterMap.mp hn
    have hp := (isSome_nanosAt?_iff v group count category).mp (Option.isSome_of_mem he)
    exact List.mem_filterMap.mpr ⟨v, hv, hp⟩
  · intro h
    obtain ⟨v, hv, hp⟩ := List.mem_filterMap.mp h
    obtain ⟨nanos, he⟩ := Option.isSome_iff_exists.mp
      ((isSome_nanosAt?_iff v group count category).mpr hp)
    exact List.ne_nil_of_mem (List.mem_filterMap.mpr ⟨v, hv, he⟩)

end Verdict

namespace GroupSet

/-- Whether an item goes to no group: it is no mapping, or it names none under a pooled key. -/
def isUnrouted (set : GroupSet) : String × Json → Bool
  | (key, .object row) => set.isPooled key && (set.route row).isNone
  | _ => true

def lacksCount (set : GroupSet) : String × Json → Bool
  | (_, .object row) => (Row.count? row set.shape).isNone
  | _ => false

def lacksValue : String × Json → Bool
  | (_, .object row) => (Row.nanos row).isNaN
  | _ => false

def accepted (set : GroupSet) (document : Document) : List (Nat × Nat × String) :=
  (set.givenRows document).filterMap fun (group, row) =>
    (row.count? set.shape).bind fun count =>
      if row.nanos.isNaN then none else some (group, count, row.category set.shape)

theorem knows_of_mem_items {set : GroupSet} {document : Document} {item : String × Json}
    (h : item ∈ set.items document) : set.knows item.1 := by
  obtain ⟨fields, _, h⟩ := List.mem_flatMap.mp h
  obtain ⟨⟨key, value⟩, _, h⟩ := List.mem_flatMap.mp h
  dsimp only at h
  unfold itemsUnder at h
  split at h
  · split at h
    · next hk =>
      obtain ⟨_, _, rfl⟩ := List.mem_map.mp h
      exact hk
    · cases h
  · cases h

theorem groupUnder?_lt {set : GroupSet} {key : String} {row : Row} {i : Nat}
    (h : set.groupUnder? key row = some i) : i < set.groups.length := by
  unfold groupUnder? at h
  split at h
  · exact route_lt h
  · exact resolve_lt h

theorem routed_or_not {set : GroupSet} {item : String × Json} (hk : set.knows item.1) :
    (set.isUnrouted item = true ∧ set.given? item = none) ∨
      ∃ group row, item.2 = .object row ∧ set.isUnrouted item = false ∧
        set.given? item = some (group, row) := by
  obtain ⟨key, value⟩ := item
  cases value with
  | object row =>
    rw [isUnrouted, given?, groupUnder?]
    cases hp : set.isPooled key with
    | true =>
      cases hr : set.route row with
      | none => exact .inl ⟨rfl, rfl⟩
      | some group => exact .inr ⟨group, row, rfl, rfl, rfl⟩
    | false =>
      rw [knows, hp, Bool.false_or] at hk
      obtain ⟨group, hg⟩ := Option.isSome_iff_exists.mp hk
      exact .inr ⟨group, row, rfl, rfl, by rw [hg]; rfl⟩
  | _ => exact .inl ⟨rfl, rfl⟩

theorem verdictOn_counts {set : GroupSet} {item : String × Json} (hk : set.knows item.1) :
    (set.verdictOn item).isUnroutable = set.isUnrouted item ∧
      (set.verdictOn item).isNoCount = (!set.isUnrouted item && set.lacksCount item) ∧
      (set.verdictOn item).isNoValue =
        (!set.isUnrouted item && !set.lacksCount item && lacksValue item) := by
  obtain ⟨hu, hg⟩ | ⟨group, row, hi, hu, hg⟩ := routed_or_not hk
  · simp [verdictOn, hu, hg, Verdict.isUnroutable, Verdict.isNoCount, Verdict.isNoValue]
  · obtain ⟨key, value⟩ := item
    dsimp only at hi
    subst hi
    rw [verdictOn, hg, hu]
    simp only [judgeRow, lacksCount, lacksValue]
    cases Row.count? row set.shape with
    | none => exact ⟨rfl, rfl, rfl⟩
    | some count => cases (Row.nanos row).isNaN <;> exact ⟨rfl, rfl, rfl⟩

theorem countP_walk {set : GroupSet} (document : Document) {p : Verdict → Bool}
    {q : String × Json → Bool} (h : ∀ item, set.knows item.1 → p (set.verdictOn item) = q item) :
    (set.walk document).countP p = (set.items document).countP q := by
  rw [walk_eq, List.countP_map]
  apply List.countP_congr
  intro item hi
  rw [Function.comp_apply, h item (knows_of_mem_items hi)]

theorem accepted_eq (set : GroupSet) (document : Document) :
    set.accepted document = (set.walk document).filterMap Verdict.place? := by
  rw [accepted, givenRows, walk_eq, List.filterMap_map, List.filterMap_filterMap]
  apply List.filterMap_congr
  intro item _
  rw [Function.comp_apply, verdictOn]
  cases set.given? item with
  | none => rfl
  | some given =>
    rw [Option.bind_some]
    simp only [judgeRow]
    cases given.2.count? set.shape with
    | none => rfl
    | some count => cases given.2.nanos.isNaN <;> simp [Verdict.place?]

theorem lt_of_mem_accepted {set : GroupSet} {document : Document} {place : Nat × Nat × String}
    (h : place ∈ set.accepted document) : place.1 < set.groups.length := by
  obtain ⟨⟨group, row⟩, hr, hp⟩ := List.mem_filterMap.mp h
  obtain ⟨count, _, hp⟩ := Option.bind_eq_some_iff.mp hp
  split at hp
  · cases hp
  · cases hp
    obtain ⟨⟨key, value⟩, _, hg⟩ := List.mem_filterMap.mp hr
    unfold given? at hg
    split at hg
    · obtain ⟨i, hi, he⟩ := Option.map_eq_some_iff.mp hg
      cases he
      exact groupUnder?_lt hi
    · cases hg

def named (set : GroupSet) (place : Nat × Nat × String) : String × Nat × String :=
  ((set.groups[place.1]?.map (·.name)).getD "", place.2)

theorem Distinct.named_inj {set : GroupSet} (h : set.Distinct) {p q : Nat × Nat × String}
    (hp : p.1 < set.groups.length) (hq : q.1 < set.groups.length)
    (he : set.named p = set.named q) : p = q := by
  obtain ⟨hn, hr⟩ := Prod.mk.inj he
  have hi := List.getElem?_eq_getElem hp
  have hj := List.getElem?_eq_getElem hq
  rw [hi, hj] at hn
  exact Prod.ext (h.index_eq hi hj hn) hr

theorem Distinct.nodup_named_accepted_iff {set : GroupSet} (h : set.Distinct)
    (document : Document) :
    ((set.accepted document).map set.named).Nodup ↔ (set.accepted document).Nodup := by
  refine ⟨List.Nodup.of_map _, fun hn => hn.map_on fun p hp q hq he => ?_⟩
  exact h.named_inj (lt_of_mem_accepted hp) (lt_of_mem_accepted hq) he

end GroupSet

namespace Dataset

theorem names_nodup_ofVerdicts {set : GroupSet} (h : set.Distinct) (verdicts : List Verdict) :
    ((ofVerdicts set verdicts).groups.map (·.1)).Nodup := by
  rw [groups_ofVerdicts h]
  exact filled_distinct h _

theorem mem_places_extract {set : GroupSet} (h : set.Distinct) (document : Document)
    (place : String × Nat × String) :
    place ∈ (extract document set).places ↔ place ∈ (set.accepted document).map set.named := by
  obtain ⟨name, count, category⟩ := place
  have hnames : ((extract document set).groups.map (·.1)).Nodup := names_nodup_ofVerdicts h _
  have hat {i : Nat} {g : Group} (hi : set.groups[i]? = some g) :
      (((extract document set).atCount g.name count).get? category).isSome ↔
        (i, count, category) ∈ set.accepted document := by
    rw [extract, get?_atCount_ofVerdicts h _ hi, Verdict.isSome_getLast?_nanosAt?_iff,
      GroupSet.accepted_eq]
  rw [mem_places_iff hnames]
  constructor
  · intro hs
    cases hg : (extract document set).get? name with
    | none => simp [atCount, hg] at hs
    | some series =>
      have hm := (Fields.get?_eq_some_iff hnames).mp hg
      rw [extract, groups_ofVerdicts h] at hm
      obtain ⟨i, g, hi, rfl, _, _⟩ := mem_filled.mp hm
      refine List.mem_map.mpr ⟨(i, count, category), (hat hi).mp hs, ?_⟩
      simp [GroupSet.named, hi]
  · intro hm
    obtain ⟨⟨i, p⟩, ha, he⟩ := List.mem_map.mp hm
    have hi := List.getElem?_eq_getElem (GroupSet.lt_of_mem_accepted ha)
    rw [GroupSet.named, hi] at he
    cases he
    exact (hat hi).mpr ha

/-- Every item of a list under a known key is dropped for exactly one reason or accepted, and the
dataset has as many places as the accepted rows have between them. -/
theorem extract_accounts_for_items {set : GroupSet} (h : set.Distinct) (document : Document) :
    let items := set.items document
    let skipped := (extract document set).skipped
    let accepted := set.accepted document
    let places := (extract document set).places
    items.length = skipped.noCount + skipped.noValue + skipped.unroutable + accepted.length ∧
      skipped.unroutable = items.countP set.isUnrouted ∧
      skipped.noCount =
        items.countP (fun item => !set.isUnrouted item && set.lacksCount item) ∧
      skipped.noValue = items.countP (fun item =>
        !set.isUnrouted item && !set.lacksCount item && GroupSet.lacksValue item) ∧
      places.length ≤ accepted.length ∧ (places.length = accepted.length ↔ accepted.Nodup) := by
  intro items skipped accepted places
  have hlength : items.length = (set.walk document).length := by
    rw [GroupSet.walk_eq, List.length_map]
  obtain ⟨hle, heq⟩ := length_le_of_nodup (places_nodup (names_nodup_ofVerdicts h _))
    (mem_places_extract h document)
  rw [List.length_map] at hle heq
  refine ⟨?_, ?_, ?_, ?_, hle, heq.trans (h.nodup_named_accepted_iff document)⟩
  · rw [hlength, Verdict.length_eq, ← GroupSet.accepted_eq]
    rfl
  · exact GroupSet.countP_walk document fun item hk => (GroupSet.verdictOn_counts hk).1
  · exact GroupSet.countP_walk document fun item hk => (GroupSet.verdictOn_counts hk).2.1
  · exact GroupSet.countP_walk document fun item hk => (GroupSet.verdictOn_counts hk).2.2

/-- One row of each kind, and a second accepted row at the same place. -/
theorem extract_accounts_for_six_items :
    let set := GroupSet.exact .count ["worker"]
    let document : Document := .mapping
      [("worker", .array [.object [("name", .string "none"), ("avg", .int 1)],
          .object [("name", .string "w (1)"), ("avg", .string "n/a")],
          .object [("name", .string "w (2)")], .int 7,
          .object [("name", .string "w (3)"), ("avg", .int 3)],
          .object [("name", .string "w (3)"), ("avg", .int 4)]]),
        ("other", .array [.int 8])]
    set.Distinct ∧ (extract document set).skipped = ⟨1, 2, 1⟩ ∧
      (set.items document).length = 1 + 2 + 1 + (set.accepted document).length ∧
      (extract document set).places.length < (set.accepted document).length := by
  intro set document
  have h : set.Distinct := by decide +kernel
  obtain ⟨hlength, _, _, _, hle, heq⟩ := extract_accounts_for_items h document
  have htwice : ¬ (set.accepted document).Nodup := by decide +kernel
  exact ⟨h, rfl, hlength, Nat.lt_of_le_of_ne hle fun he => htwice (heq.mp he)⟩

end Dataset

end BenchCharts
