import BenchCharts.Fields
import Mathlib.Data.List.Nodup

/-!
What building fields adds and what a look-up finds. Where names are distinct, building fields
changes nothing and a look-up finds every one.
-/

namespace BenchCharts.Fields

theorem mem_put {fields : Fields α} {name : String} {value : α} {field : String × α}
    (h : field ∈ fields.put name value) : field ∈ fields ∨ field = (name, value) := by
  induction fields with
  | nil => exact .inr (List.mem_singleton.mp h)
  | cons first rest ih =>
    unfold put at h
    split at h
    · rcases List.mem_cons.mp h with h | h
      · exact .inr h
      · exact .inl (List.mem_cons_of_mem _ h)
    · rcases List.mem_cons.mp h with h | h
      · exact .inl (h ▸ List.mem_cons_self)
      · exact (ih h).imp_left (List.mem_cons_of_mem _)

theorem mem_of_mem_ofPairs {pairs : List (String × α)} {field : String × α}
    (h : field ∈ ofPairs pairs) : field ∈ pairs := by
  revert h
  apply List.foldlRecOn pairs (motive := fun fields => field ∈ fields → field ∈ pairs)
  · exact fun h => nomatch h
  · intro fields ih pair hp h
    rcases mem_put h with h | rfl
    · exact ih h
    · exact hp

theorem mem_of_get?_eq_some {fields : Fields α} {name : String} {value : α}
    (h : fields.get? name = some value) : (name, value) ∈ fields := by
  obtain ⟨field, hf, rfl⟩ := Option.map_eq_some_iff.mp h
  have hname := List.find?_some hf
  rw [beq_iff_eq] at hname
  subst hname
  exact List.mem_of_find?_eq_some hf

theorem put_of_notMem {fields : Fields α} {name : String} (h : name ∉ fields.map (·.1))
    (value : α) : fields.put name value = fields ++ [(name, value)] := by
  induction fields with
  | nil => rfl
  | cons field rest ih =>
    obtain ⟨hne, hrest⟩ := not_or.mp (List.mem_cons.not.mp h)
    rw [put, if_neg (Ne.symm hne), ih hrest, List.cons_append]

theorem ofPairs_eq_self {pairs : List (String × α)} (h : (pairs.map (·.1)).Nodup) :
    ofPairs pairs = pairs := by
  have hfold (pairs : List (String × α)) (fields : Fields α)
      (h : ((fields ++ pairs).map (·.1)).Nodup) :
      pairs.foldl (fun fields pair => fields.put pair.1 pair.2) fields = fields ++ pairs := by
    induction pairs generalizing fields with
    | nil => exact (List.append_nil _).symm
    | cons pair pairs ih =>
      obtain ⟨name, value⟩ := pair
      have hnew : name ∉ fields.map (·.1) := by
        rw [List.map_append, List.map_cons] at h
        intro hm
        exact (List.nodup_cons.mp (List.nodup_middle.mp h)).1 (List.mem_append_left _ hm)
      have he : fields ++ (name, value) :: pairs = (fields ++ [(name, value)]) ++ pairs := by
        rw [List.append_assoc, List.singleton_append]
      rw [List.foldl_cons, put_of_notMem hnew, he]
      exact ih _ (he ▸ h)
  exact hfold pairs [] h

theorem get?_eq_some_iff {fields : Fields α} (h : (fields.map (·.1)).Nodup) {name : String}
    {value : α} : fields.get? name = some value ↔ (name, value) ∈ fields := by
  induction fields with
  | nil => simp
  | cons field rest ih =>
    obtain ⟨n, v⟩ := field
    obtain ⟨hnew, hrest⟩ := List.nodup_cons.mp h
    rw [get?_cons, List.mem_cons, Prod.mk.injEq]
    split
    · next he =>
      subst he
      have hnot : (n, value) ∉ rest := fun hm => hnew (List.mem_map.mpr ⟨_, hm, rfl⟩)
      simp [hnot, eq_comm]
    · next hne => simp [ih hrest, Ne.symm hne]

theorem names_put (fields : Fields α) (name : String) (value : α) :
    (fields.put name value).map (·.1) =
      if name ∈ fields.map (·.1) then fields.map (·.1) else fields.map (·.1) ++ [name] := by
  induction fields with
  | nil => rfl
  | cons field rest ih =>
    obtain ⟨n, v⟩ := field
    by_cases hn : n = name
    · subst hn
      rw [put, if_pos rfl, List.map_cons, List.map_cons, if_pos List.mem_cons_self]
    · rw [put, if_neg hn, List.map_cons, ih, List.map_cons]
      by_cases hm : name ∈ rest.map (·.1)
      · rw [if_pos hm, if_pos (List.mem_cons_of_mem _ hm)]
      · have hnew : name ∉ n :: rest.map (·.1) := fun h => (List.mem_cons.mp h).elim (hn ·.symm) hm
        rw [if_neg hm, if_neg hnew, List.cons_append]

theorem names_ofPairs (pairs : List (String × α)) :
    ((ofPairs pairs).map (·.1)).Nodup ∧ ((ofPairs pairs).map (·.1)).Sublist (pairs.map (·.1)) ∧
      ∀ name, name ∈ (ofPairs pairs).map (·.1) ↔ name ∈ pairs.map (·.1) := by
  have hfold (pairs : List (String × α)) (fields : Fields α) (h : (fields.map (·.1)).Nodup) :
      let names := (pairs.foldl (fun fields pair => fields.put pair.1 pair.2) fields).map (·.1)
      names.Nodup ∧ names.Sublist (fields.map (·.1) ++ pairs.map (·.1)) ∧
        ∀ name, name ∈ names ↔ name ∈ fields.map (·.1) ++ pairs.map (·.1) := by
    induction pairs generalizing fields with
    | nil =>
      rw [List.foldl_nil, List.map_nil, List.append_nil]
      exact ⟨h, .refl _, fun _ => .rfl⟩
    | cons pair pairs ih =>
      have hput := names_put fields pair.1 pair.2
      rw [List.foldl_cons, List.map_cons]
      by_cases hm : pair.1 ∈ fields.map (·.1)
      · rw [if_pos hm] at hput
        obtain ⟨hn, hs, hmem⟩ := ih (fields.put pair.1 pair.2) (hput ▸ h)
        rw [hput] at hs hmem
        refine ⟨hn, hs.trans (.append_left (List.sublist_cons_self _ _) _), fun name => ?_⟩
        rw [hmem, List.mem_append, List.mem_append, List.mem_cons]
        constructor
        · exact Or.imp_right .inr
        · rintro (hl | rfl | hr)
          · exact .inl hl
          · exact .inl hm
          · exact .inr hr
      · rw [if_neg hm] at hput
        have hnew : ((fields.put pair.1 pair.2).map (·.1)).Nodup := by
          rw [hput]
          exact List.nodup_append.mpr ⟨h, List.nodup_singleton _, fun a ha b hb he =>
            hm (List.mem_singleton.mp hb ▸ he ▸ ha)⟩
        obtain ⟨hn, hs, hmem⟩ := ih _ hnew
        rw [hput, List.append_assoc, List.singleton_append] at hs hmem
        exact ⟨hn, hs, hmem⟩
  exact hfold pairs [] List.nodup_nil

theorem isSome_get?_iff {fields : Fields α} {name : String} :
    (fields.get? name).isSome ↔ name ∈ fields.map (·.1) := by
  rw [get?, Option.isSome_map, List.find?_isSome, List.mem_map]
  simp only [beq_iff_eq]

end BenchCharts.Fields
