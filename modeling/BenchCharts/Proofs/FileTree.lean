import BenchCharts.Plan
import BenchCharts.Proofs.Path
import Mathlib.Data.List.Infix
import Mathlib.Data.List.Nodup

/-!
What writing does to a tree: folders are made and none is removed, and of the files only those that
are written change.
-/

namespace BenchCharts

def Node.content? : Node → Option Content
  | .folder => none
  | .file content => some content

namespace FileTree

def content? (tree : FileTree) (names : List String) : Option Content :=
  (tree.node? names).bind Node.content?

/-- As in every file system: there is one node under a list of names, and no name has a slash. -/
structure WellFormed (tree : FileTree) : Prop where
  nodup : (tree.nodes.map (·.1)).Nodup
  slash_current : ∀ name ∈ tree.current, '/' ∉ name.toList
  slash : ∀ node ∈ tree.nodes, ∀ name ∈ node.1, '/' ∉ name.toList

/-- A tree before and after files are written at some places. -/
structure Changes (tree after : FileTree) (places : List (List String)) : Prop where
  current_eq : after.current = tree.current
  folder : ∀ names, tree.node? names = some .folder → after.node? names = some .folder
  content?_eq : ∀ names, names ∉ places → after.content? names = tree.content? names
  wellFormed : tree.WellFormed → after.WellFormed

theorem Changes.refl (tree : FileTree) : tree.Changes tree [] :=
  ⟨rfl, fun _ => id, fun _ _ => rfl, id⟩

theorem Changes.trans {tree between after : FileTree} {places places' : List (List String)}
    (h : tree.Changes between places) (h' : between.Changes after places') :
    tree.Changes after (places ++ places') where
  current_eq := h'.current_eq.trans h.current_eq
  folder := fun names hf => h'.folder names (h.folder names hf)
  content?_eq := by
    intro names hn
    rw [List.mem_append, not_or] at hn
    exact (h'.content?_eq names hn.2).trans (h.content?_eq names hn.1)
  wellFormed := fun hw => h'.wellFormed (h.wellFormed hw)

variable {tree : FileTree}

theorem node?_put (tree : FileTree) (names other : List String) (node : Node) :
    (tree.put names node).node? other =
      if names = other then some node else tree.node? other := by
  unfold node? put
  dsimp only
  split
  · next h =>
    rw [List.find?_cons_of_pos (by simpa using h)]
    rfl
  · next h =>
    have hkept : (fun n : List String × Node => decide (n.1 != names ∧ n.1 == other)) =
        (·.1 == other) := by
      funext n
      by_cases ho : n.1 = other
      · simp [ho, Ne.symm h]
      · simp [ho]
    rw [List.find?_cons_of_neg (by simpa using h), List.find?_filter, hkept]

theorem content?_put (tree : FileTree) (names other : List String) (node : Node) :
    (tree.put names node).content? other =
      if names = other then node.content? else tree.content? other := by
  unfold content?
  rw [node?_put]
  split <;> rfl

theorem WellFormed.put (h : tree.WellFormed) {names : List String}
    (hnames : ∀ name ∈ names, '/' ∉ name.toList) (node : Node) :
    (tree.put names node).WellFormed where
  nodup := by
    refine List.nodup_cons.mpr ⟨fun hm => ?_, h.nodup.sublist (List.filter_sublist.map _)⟩
    obtain ⟨n, hn, he⟩ := List.mem_map.mp hm
    exact bne_iff_ne.mp (List.mem_filter.mp hn).2 he
  slash_current := h.slash_current
  slash := by
    intro n hn
    rcases List.mem_cons.mp hn with rfl | hn
    · exact hnames
    · exact h.slash n (List.mem_filter.mp hn).1

section

variable {after : FileTree} {places : List (List String)} (h : tree.Changes after places)

include h

theorem Changes.walk {names next : List String} {part : Path.Part}
    (hw : tree.walk names part = .ok next) : after.walk names part = .ok next := by
  rw [walk_eq_ok] at hw ⊢
  cases part with
  | root => exact hw
  | here => exact hw
  | up => exact ⟨h.folder names hw.1, hw.2⟩
  | name s => exact ⟨h.folder names hw.1, hw.2⟩

theorem Changes.foldlM_walk {parts : List Path.Part} {names last : List String}
    (hw : parts.foldlM tree.walk names = .ok last) : parts.foldlM after.walk names = .ok last := by
  induction parts generalizing names with
  | nil => exact hw
  | cons part parts ih =>
    obtain ⟨next, hp, hrest⟩ := foldlM_walk_cons.mp hw
    exact foldlM_walk_cons.mpr ⟨next, h.walk hp, ih hrest⟩

theorem Changes.namesOf {path : Path} {names : List String} (hn : tree.namesOf path = .ok names) :
    after.namesOf path = .ok names := by
  rw [namesOf_eq_ok] at hn ⊢
  rw [h.current_eq]
  exact ⟨hn.1, h.foldlM_walk hn.2⟩

end

theorem slash_walk {names next : List String} {part : Path.Part}
    (hnames : ∀ name ∈ names, '/' ∉ name.toList) (hpart : ∀ s, part = .name s → '/' ∉ s)
    (hw : tree.walk names part = .ok next) : ∀ name ∈ next, '/' ∉ name.toList := by
  rw [walk_eq_ok] at hw
  cases part with
  | root => exact hw ▸ List.forall_mem_nil _
  | here => exact hw ▸ hnames
  | up => exact hw.2 ▸ fun name hm => hnames name (List.mem_of_mem_dropLast hm)
  | name s =>
    rw [hw.2, List.forall_mem_append, List.forall_mem_singleton, String.toList_ofList]
    exact ⟨hnames, hpart s rfl⟩

theorem slash_foldlM_walk {parts : List Path.Part} {names last : List String}
    (hnames : ∀ name ∈ names, '/' ∉ name.toList) (hparts : ∀ s, .name s ∈ parts → '/' ∉ s)
    (hw : parts.foldlM tree.walk names = .ok last) : ∀ name ∈ last, '/' ∉ name.toList := by
  induction parts generalizing names with
  | nil =>
    cases hw
    exact hnames
  | cons part parts ih =>
    obtain ⟨next, hp, hrest⟩ := foldlM_walk_cons.mp hw
    have hnext := slash_walk hnames (fun s he => hparts s (he ▸ List.mem_cons_self)) hp
    exact ih hnext (fun s hs => hparts s (List.mem_cons_of_mem _ hs)) hrest

theorem WellFormed.slash_namesOf (h : tree.WellFormed) {path : Path} {names : List String}
    (hn : tree.namesOf path = .ok names) : ∀ name ∈ names, '/' ∉ name.toList :=
  slash_foldlM_walk h.slash_current (fun _ => Path.slash_notMem_of_mem_parts)
    (namesOf_eq_ok.mp hn).2

theorem nameIn?_eq_some {folder names : List String} {name : String}
    (h : nameIn? folder names = some name) : names = folder ++ [name] := by
  unfold nameIn? at h
  split at h
  · next hd =>
    obtain ⟨front, rfl⟩ := List.getLast?_eq_some_iff.mp h
    rw [List.dropLast_concat] at hd
    rw [hd]
  · cases h

theorem eq_of_list {path : Path} {listed : List String} (h : tree.list path = .ok listed) :
    ∃ folder, listed = (tree.nodes.filterMap fun n => nameIn? folder n.1).mergeSort := by
  obtain ⟨folder, _, h⟩ := bind_eq_ok_iff.mp h
  obtain ⟨_, _, h⟩ := bind_eq_ok_iff.mp h
  obtain ⟨_, _, h⟩ := bind_eq_ok_iff.mp h
  exact ⟨folder, (Except.ok.inj h).symm⟩

theorem WellFormed.nodup_list (h : tree.WellFormed) {path : Path} {listed : List String}
    (hl : tree.list path = .ok listed) : listed.Nodup := by
  obtain ⟨folder, rfl⟩ := eq_of_list hl
  have hnames : (tree.nodes.filterMap fun n => nameIn? folder n.1) =
      (tree.nodes.map (·.1)).filterMap (nameIn? folder) := by
    rw [List.filterMap_map]
    rfl
  rw [(List.mergeSort_perm _ _).nodup_iff, hnames]
  refine List.Nodup.filterMap (fun names names' name hm hm' => ?_) h.nodup
  rw [nameIn?_eq_some hm, nameIn?_eq_some hm']

theorem WellFormed.slash_list (h : tree.WellFormed) {path : Path} {listed : List String}
    (hl : tree.list path = .ok listed) : ∀ name ∈ listed, '/' ∉ name.toList := by
  obtain ⟨folder, rfl⟩ := eq_of_list hl
  intro name hm
  rw [List.mem_mergeSort] at hm
  obtain ⟨n, hn, hname⟩ := List.mem_filterMap.mp hm
  apply h.slash n hn
  rw [nameIn?_eq_some hname]
  exact List.mem_concat_self

theorem changes_put {path : Path} {names : List String} {places : List (List String)}
    (hn : tree.namesOf path = .ok names) (hf : tree.node? names ≠ some .folder) (node : Node)
    (hc : names ∉ places → node.content? = tree.content? names) :
    tree.Changes (tree.put names node) places where
  current_eq := rfl
  folder := by
    intro other ho
    rw [node?_put, if_neg, ho]
    exact fun he => hf (he ▸ ho)
  content?_eq := by
    intro other ho
    rw [content?_put]
    split
    · next he =>
      rw [← he] at ho ⊢
      exact hc ho
    · rfl
  wellFormed := fun hw => hw.put (hw.slash_namesOf hn) node

theorem changes_makeFolder {made : FileTree} {path : Path} (h : tree.makeFolder path = .ok made) :
    tree.Changes made [] := by
  obtain ⟨names, hn, h⟩ := bind_eq_ok_iff.mp h
  split at h
  · cases h
  · next hnone =>
    cases h
    apply changes_put hn (hnone ▸ nofun)
    intro _
    rw [content?, hnone]
    rfl

theorem changes_makeFoldersUpTo {n : Nat} {made : FileTree} {path : Path}
    (h : makeFoldersUpTo n tree path = .ok made) : tree.Changes made [] := by
  induction n generalizing tree made path with
  | zero => cases h
  | succ n ih =>
    unfold makeFoldersUpTo at h
    split at h
    · next hm =>
      cases h
      exact changes_makeFolder hm
    -- the folder itself is tried again once those above it are there
    · obtain ⟨above, hp, h⟩ := bind_eq_ok_iff.mp h
      have habove := ih hp
      split at h
      · next hm =>
        cases h
        exact habove.trans (changes_makeFolder hm)
      · split at h
        · cases h
          exact habove
        · cases h
    · split at h
      · cases h
        exact .refl tree
      · cases h

theorem changes_makeRoom {made : FileTree} {path : Path} (h : tree.makeRoom path = .ok made) :
    tree.Changes made [] := by
  unfold makeRoom at h
  split at h
  · cases h
    exact .refl tree
  · next parent _ =>
    cases hp : tree.makeFolders parent with
    | error e =>
      rw [hp] at h
      cases h
    | ok above =>
      rw [hp] at h
      cases h
      exact changes_makeFoldersUpTo hp

theorem eq_put_of_write {after : FileTree} {path : Path} {content : Content}
    (h : tree.write path content = .ok after) :
    ∃ place, tree.namesOf path = .ok place ∧ tree.node? place ≠ some .folder ∧
      after = tree.put place (.file content) := by
  obtain ⟨place, hn, h⟩ := bind_eq_ok_iff.mp h
  have hput (h : (do tree.requireFolder place.dropLast
                     return tree.put place (.file content)) = Except.ok after) :
      after = tree.put place (.file content) := by
    obtain ⟨_, _, h⟩ := bind_eq_ok_iff.mp h
    exact (Except.ok.inj h).symm
  refine ⟨place, hn, ?_⟩
  split at h
  · cases h
  · next hfile =>
    rw [hfile]
    split at h
    · cases h
    · exact ⟨nofun, hput h⟩
  · next hnone =>
    rw [hnone]
    split at h
    · cases h
    · exact ⟨nofun, hput h⟩

theorem changes_write {after : FileTree} {path : Path} {content : Content}
    (h : tree.write path content = .ok after) :
    ∃ place, tree.Changes after [place] ∧ after.namesOf path = .ok place ∧
      after.content? place = some content := by
  obtain ⟨place, hn, hf, rfl⟩ := eq_put_of_write h
  have hchanges : tree.Changes (tree.put place (.file content)) [place] :=
    changes_put hn hf _ fun hm => (hm (List.mem_singleton_self place)).elim
  refine ⟨place, hchanges, hchanges.namesOf hn, ?_⟩
  rw [content?_put, if_pos rfl]
  rfl

theorem changes_deliver {after : FileTree} {path : Path} {picture : Raster}
    {flaw? : Option PictureFlaw} {asFlaw : FileError → PictureFlaw}
    (h : tree.deliver path picture flaw? asFlaw = (after, none)) :
    ∃ place, tree.Changes after [place] ∧ after.namesOf path = .ok place ∧
      after.content? place = some (.picture picture) := by
  unfold deliver at h
  split at h
  · cases h
  · next made hroom =>
    cases flaw? with
    | none =>
      dsimp only at h
      split at h
      · next hw =>
        cases h
        obtain ⟨place, hchanges, hplace⟩ := changes_write hw
        exact ⟨place, (changes_makeRoom hroom).trans hchanges, hplace⟩
      · cases h
    | some flaw =>
      dsimp only at h
      split at h
      · split at h <;> cases h
      · cases h

end FileTree

end BenchCharts
