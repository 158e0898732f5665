import BenchCharts.OrderedMap
import Mathlib.Data.List.Nodup

/-!
Lookups in ordered maps: what each operation does to `get?`, and what the keys of a map are.
-/

namespace BenchCharts

namespace OrderedMap

variable {κ α β : Type} [Ord κ]

@[simp] theorem get?_empty (k : κ) : (∅ : OrderedMap κ α).get? k = none := rfl

@[simp] theorem keys_mapValues (f : κ → α → β) (m : OrderedMap κ α) :
    (m.mapValues f).keys = m.keys :=
  List.map_map ..

variable [Std.LawfulEqOrd κ]

theorem keys_nodup (m : OrderedMap κ α) : m.keys.Nodup := by
  apply List.pairwise_map.mpr
  apply m.ascending.imp
  intro a b hlt he
  rw [he, Std.ReflOrd.compare_self] at hlt
  cases hlt

theorem get?_eq_some_iff {m : OrderedMap κ α} {k : κ} {v : α} :
    m.get? k = some v ↔ (k, v) ∈ m.entries := by
  have hkey {e : κ × α} (he : (m.entries.find? fun e => compare e.1 k == .eq) = some e) :
      e ∈ m.entries ∧ e.1 = k := by
    have hk := List.find?_some he
    exact ⟨List.mem_of_find?_eq_some he, Std.LawfulEqOrd.compare_beq_iff_eq.mp hk⟩
  constructor
  · intro h
    obtain ⟨e, he, rfl⟩ := Option.map_eq_some_iff.mp h
    obtain ⟨hm, rfl⟩ := hkey he
    exact hm
  · intro h
    obtain ⟨e, he⟩ : ∃ e, (m.entries.find? fun e => compare e.1 k == .eq) = some e := by
      apply Option.isSome_iff_exists.mp
      exact List.find?_isSome.mpr ⟨(k, v), h, Std.LawfulEqOrd.compare_beq_iff_eq.mpr rfl⟩
    obtain ⟨hm, hk⟩ := hkey he
    have hv : e = (k, v) := List.inj_on_of_nodup_map m.keys_nodup hm h hk
    rw [get?, he, hv]
    rfl

theorem find?_cons_of_ne {e : κ × α} {k : κ} (h : e.1 ≠ k) (es : List (κ × α)) :
    ((e :: es).find? fun e => compare e.1 k == .eq) = es.find? fun e => compare e.1 k == .eq := by
  apply List.find?_cons_of_neg
  rw [Std.LawfulEqOrd.compare_beq_iff_eq]
  exact h

theorem mem_keys_iff {m : OrderedMap κ α} {k : κ} : k ∈ m.keys ↔ (m.get? k).isSome := by
  rw [Option.isSome_iff_exists]
  constructor
  · intro h
    obtain ⟨e, he, rfl⟩ := List.mem_map.mp h
    exact ⟨e.2, get?_eq_some_iff.mpr he⟩
  · rintro ⟨v, hv⟩
    exact List.mem_map.mpr ⟨(k, v), get?_eq_some_iff.mp hv, rfl⟩

theorem isEmpty_iff {m : OrderedMap κ α} : m.isEmpty = true ↔ ∀ k, m.get? k = none := by
  rw [isEmpty, List.isEmpty_iff]
  constructor
  · intro h k
    rw [get?, h]
    rfl
  · intro h
    apply List.eq_nil_iff_forall_not_mem.mpr
    intro e he
    have hv := get?_eq_some_iff.mpr he
    rw [h] at hv
    cases hv

theorem isEmpty_eq_false_iff {m : OrderedMap κ α} :
    m.isEmpty = false ↔ ∃ k v, m.get? k = some v := by
  rw [← Bool.not_eq_true, isEmpty_iff, Classical.not_forall]
  exact exists_congr fun k => Option.ne_none_iff_exists'

theorem get?_mapValues (f : κ → α → β) (m : OrderedMap κ α) (k : κ) :
    (m.mapValues f).get? k = (m.get? k).map (f k) := by
  apply Option.ext
  intro v
  rw [get?_eq_some_iff, Option.map_eq_some_iff]
  simp only [get?_eq_some_iff, mapValues, List.mem_map, Prod.mk.injEq]
  constructor
  · rintro ⟨e, he, rfl, rfl⟩
    exact ⟨e.2, he, rfl⟩
  · rintro ⟨x, hx, rfl⟩
    exact ⟨(k, x), hx, rfl, rfl⟩

theorem get?_filterMapValues (f : α → Option β) (m : OrderedMap κ α) (k : κ) :
    (m.filterMapValues f).get? k = (m.get? k).bind f := by
  apply Option.ext
  intro v
  rw [get?_eq_some_iff, Option.bind_eq_some_iff]
  simp only [get?_eq_some_iff, filterMapValues, List.mem_filterMap, Option.map_eq_some_iff,
    Prod.mk.injEq]
  constructor
  · rintro ⟨e, he, x, hx, rfl, rfl⟩
    exact ⟨e.2, he, hx⟩
  · rintro ⟨x, hx, hv⟩
    exact ⟨(k, x), hx, v, hv, rfl, rfl⟩

variable [Std.TransOrd κ]

theorem get?_insert_self (m : OrderedMap κ α) (k : κ) (v : α) :
    (m.insert k v).get? k = some v := by
  apply get?_eq_some_iff.mpr
  change (k, v) ∈ insertEntry k v m.entries
  induction m.entries with
  | nil => exact List.mem_singleton_self _
  | cons e es ih =>
    unfold insertEntry
    split
    · exact List.mem_cons_self
    · exact List.mem_cons_self
    · exact List.mem_cons_of_mem _ ih

theorem get?_insert_of_ne (m : OrderedMap κ α) {k k' : κ} (v : α) (h : k ≠ k') :
    (m.insert k v).get? k' = m.get? k' := by
  change Option.map _ ((insertEntry k v m.entries).find? _) = Option.map _ (m.entries.find? _)
  congr 1
  induction m.entries with
  | nil => exact find?_cons_of_ne h _
  | cons e es ih =>
    unfold insertEntry
    split
    · exact find?_cons_of_ne h _
    · next heq =>
      have hold : e.1 ≠ k' := Std.LawfulEqOrd.eq_of_compare heq ▸ h
      rw [find?_cons_of_ne h, find?_cons_of_ne hold]
    · rw [List.find?_cons, List.find?_cons, ih]

theorem mem_keys_ofList {es : List (κ × α)} {k : κ} :
    k ∈ (ofList es).keys ↔ k ∈ es.map (·.1) := by
  have hfold (es : List (κ × α)) (m : OrderedMap κ α) :
      k ∈ (es.foldl (fun m e => m.insert e.1 e.2) m).keys ↔ k ∈ m.keys ∨ k ∈ es.map (·.1) := by
    induction es generalizing m with
    | nil => simp
    | cons e es ih =>
      have hinsert : k ∈ (m.insert e.1 e.2).keys ↔ k ∈ m.keys ∨ k = e.1 := by
        by_cases hk : e.1 = k
        · simp [mem_keys_iff, ← hk, get?_insert_self]
        · simp [mem_keys_iff, get?_insert_of_ne _ _ hk, Ne.symm hk]
      rw [List.foldl_cons, ih, hinsert, or_assoc, List.map_cons, List.mem_cons]
  have hnil : k ∉ (∅ : OrderedMap κ α).keys := List.not_mem_nil
  exact (hfold es ∅).trans (or_iff_right hnil)

theorem ext_get? {m m' : OrderedMap κ α} (h : ∀ k, m.get? k = m'.get? k) : m = m' := by
  have hmem (e : κ × α) : e ∈ m.entries ↔ e ∈ m'.entries := by
    rw [← get?_eq_some_iff, ← get?_eq_some_iff, h]
  have hperm := (List.perm_ext_iff_of_nodup m.keys_nodup.of_map m'.keys_nodup.of_map).mpr hmem
  have hasymm {a b : κ × α} (hab : compare a.1 b.1 = .lt) (hba : compare b.1 a.1 = .lt) :
      a = b := by
    rw [Std.OrientedCmp.gt_iff_lt.mpr hab] at hba
    cases hba
  have he := hperm.eq_of_pairwise (fun _ _ _ _ => hasymm) m.ascending m'.ascending
  cases m
  cases m'
  cases he
  rfl

/-- The entries of both maps; a key of both has the value in the second. -/
def override (m m' : OrderedMap κ α) : OrderedMap κ α :=
  m'.entries.foldl (fun m e => m.insert e.1 e.2) m

theorem get?_override (m m' : OrderedMap κ α) (k : κ) :
    (m.override m').get? k = (m'.get? k).or (m.get? k) := by
  have hfold (es : List (κ × α)) (hes : (es.map (·.1)).Nodup) (m : OrderedMap κ α) :
      (es.foldl (fun m e => m.insert e.1 e.2) m).get? k =
        ((es.find? fun e => compare e.1 k == .eq).map (·.2)).or (m.get? k) := by
    induction es generalizing m with
    | nil => rfl
    | cons e es ih =>
      obtain ⟨hnew, hes⟩ := List.nodup_cons.mp hes
      rw [List.foldl_cons, ih hes]
      by_cases hk : e.1 = k
      · subst hk
        have hnone : (es.find? fun e' => compare e'.1 e.1 == .eq) = none := by
          apply List.find?_eq_none.mpr
          intro e' he' heq
          have hkey := Std.LawfulEqOrd.compare_beq_iff_eq.mp heq
          exact hnew (List.mem_map.mpr ⟨e', he', hkey⟩)
        have hsome : ((e :: es).find? fun e' => compare e'.1 e.1 == .eq) = some e :=
          List.find?_cons_of_pos (Std.LawfulEqOrd.compare_beq_iff_eq.mpr rfl)
        rw [hnone, hsome, get?_insert_self]
        rfl
      · rw [find?_cons_of_ne hk, get?_insert_of_ne _ _ hk]
  exact hfold m'.entries m'.keys_nodup m

theorem ofList_entries (m : OrderedMap κ α) : ofList m.entries = m := by
  apply ext_get?
  intro k
  have h := get?_override ∅ m k
  rwa [get?_empty, Option.or_none] at h

end OrderedMap

section

variable {κ : Type} [Ord κ] [Std.TransOrd κ] [Std.LawfulEqOrd κ]

@[simp] theorem mem_sortedKeys {ks : List κ} {k : κ} : k ∈ sortedKeys ks ↔ k ∈ ks := by
  simp [sortedKeys, OrderedMap.mem_keys_ofList]

theorem sortedKeys_nodup (ks : List κ) : (sortedKeys ks).Nodup :=
  OrderedMap.keys_nodup _

end

theorem OrderedMap.keys_ascending (m : OrderedMap Nat α) : m.keys.Pairwise (· < ·) := by
  apply List.pairwise_map.mpr
  exact m.ascending.imp fun hlt => Nat.compare_eq_lt.mp hlt

theorem sortedKeys_ascending (ks : List Nat) : (sortedKeys ks).Pairwise (· < ·) :=
  OrderedMap.keys_ascending _

end BenchCharts
