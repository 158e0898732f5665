import BenchCharts.Proofs.Path
import BenchCharts.Proofs.Text.Case
import BenchCharts.Source

/-!
The result files of a source. The name of a file is made of the slug and the kind, and the title of
a file is the name of the first source that the name of the file starts with. A source whose slug
continues that of an earlier one has its files taken for the earlier one's.
-/

namespace BenchCharts

namespace Source

/-- What stands in front of the kind in the names of the files. -/
def fileHead (source : Source) : List Char :=
  Path.lastPiece source.slug.toList

variable {source : Source}

theorem lastPiece_fileName (source : Source) {kind : String} (h : '/' ∉ kind.toList) :
    Path.lastPiece (source.fileName kind).toList =
      source.fileHead ++ '_' :: kind.toList ++ '.' :: "json".toList := by
  have hname : source.fileName kind = source.slug ++ ("_" ++ kind ++ ".json") := by
    simp only [fileName, toString, String.append_assoc]
  rw [hname, String.toList_append, Path.lastPiece_append]
  · simp [fileHead]
  · simp [h]

theorem lastPiece_of_mem_candidates {input path : Path} {file : String}
    (h : path ∈ source.candidates input file) :
    Path.lastPiece path.chars = Path.lastPiece file.toList := by
  simp only [candidates, List.mem_cons, List.not_mem_nil, or_false] at h
  rcases h with rfl | rfl | rfl | rfl <;> exact Path.lastPiece_join _ _

theorem stem_of_lastPiece {path : Path} {kind : String} (hk : '/' ∉ kind.toList)
    (h : Path.lastPiece path.chars = Path.lastPiece (source.fileName kind).toList) :
    path.stem = source.fileHead ++ '_' :: kind.toList := by
  rw [source.lastPiece_fileName hk] at h
  exact Path.stem_eq_of_lastPiece h (by simp) (by decide) (by decide)

theorem stem_of_mem_candidates {input path : Path} {kind : String} (hk : '/' ∉ kind.toList)
    (h : path ∈ source.candidates input (source.fileName kind)) :
    path.stem = source.fileHead ++ '_' :: kind.toList :=
  stem_of_lastPiece hk (lastPiece_of_mem_candidates h)

def lowerSlug (source : Source) : List Char :=
  Text.lower source.slug.toList

theorem fileHead_eq (h : '/' ∉ source.lowerSlug) : source.fileHead = source.slug.toList :=
  Path.lastPiece_of_notMem fun hm => h (Text.mem_lower hm (by decide) (by decide))

theorem ownsStem_iff {stem : List Char} :
    source.ownsStem stem = true ↔ source.lowerSlug ++ ['_'] <+: stem :=
  List.isPrefixOf_iff_prefix

theorem titleOf_eq {sources : List Source} {path : Path}
    (h : sources.find? (·.ownsStem (Text.lower path.stem)) = some source) :
    titleOf sources path = source.name := by
  rw [titleOf, h]

theorem lower_stem_fileName (dir : Path) {kind : String} (hslug : '/' ∉ source.lowerSlug)
    (hkind : '/' ∉ kind.toList) :
    Text.lower (dir / .ofString (source.fileName kind)).stem =
      source.lowerSlug ++ '_' :: Text.lower kind.toList := by
  have hlast := Path.lastPiece_join dir (.ofString (source.fileName kind))
  rw [stem_of_lastPiece hkind hlast, fileHead_eq hslug, Text.lower_append_underscore]
  rfl

theorem eq_of_prefix {s t rest : List Char} (hs : '_' ∉ s) (ht : '_' ∉ t)
    (h : s ++ ['_'] <+: t ++ '_' :: rest) : s = t := by
  obtain ⟨tail, h⟩ := h
  rw [List.append_assoc, List.singleton_append] at h
  have hsplit (w : List Char) (hw : '_' ∉ w) (r : List Char) :
      (w ++ '_' :: r).takeWhile (· != '_') = w := by
    rw [List.takeWhile_append_of_pos, List.takeWhile_cons_of_neg (by decide), List.append_nil]
    exact fun c hc => bne_iff_ne.mpr fun he => hw (he ▸ hc)
  rw [← hsplit s hs tail, h, hsplit t ht]

/-- A result file has the title of its own source, unless a source in front has a slug that the name
of the file starts with, too. No source has if the slugs are different and without underscores. -/
theorem titleOf_fileName {sources : List Source}
    (hdistinct : (sources.map lowerSlug).Nodup) (hslash : ∀ s ∈ sources, '/' ∉ s.lowerSlug)
    (dir : Path) {kind : String} (hkind : '/' ∉ kind.toList) :
    (∀ before source after, sources = before ++ source :: after →
        (∀ other ∈ before, ¬other.lowerSlug ++ ['_'] <+:
          source.lowerSlug ++ '_' :: Text.lower kind.toList) →
        titleOf sources (dir / .ofString (source.fileName kind)) = source.name) ∧
      ((∀ s ∈ sources, '_' ∉ s.lowerSlug) → ∀ source ∈ sources,
        titleOf sources (dir / .ofString (source.fileName kind)) = source.name) := by
  have htitle : ∀ before source after, sources = before ++ source :: after →
      (∀ other ∈ before, ¬other.lowerSlug ++ ['_'] <+:
        source.lowerSlug ++ '_' :: Text.lower kind.toList) →
      titleOf sources (dir / .ofString (source.fileName kind)) = source.name := by
    rintro before source after rfl hfirst
    have hslug := hslash source (List.mem_append_right _ List.mem_cons_self)
    apply titleOf_eq
    rw [lower_stem_fileName dir hslug hkind, List.find?_append, List.find?_eq_none.mpr,
      Option.none_or, List.find?_cons_of_pos]
    · refine ownsStem_iff.mpr ⟨Text.lower kind.toList, ?_⟩
      rw [List.append_assoc, List.singleton_append]
    · exact fun other hm => ownsStem_iff.not.mpr (hfirst other hm)
  refine ⟨htitle, fun hunderscore source hm => ?_⟩
  obtain ⟨before, after, hsplit⟩ := List.append_of_mem hm
  apply htitle before source after hsplit
  intro other hother hprefix
  have hbefore : other ∈ sources := hsplit ▸ List.mem_append_left _ hother
  have heq := eq_of_prefix (hunderscore other hbefore) (hunderscore source hm) hprefix
  -- two places of the list would have one slug
  rw [hsplit, List.map_append, List.map_cons, List.nodup_append] at hdistinct
  exact hdistinct.2.2 _ (List.mem_map_of_mem hother) _ List.mem_cons_self heq

/-- The longer one of two slugs comes first. -/
theorem titleOf_fileName_longer :
    let canary : Source := ⟨"Node.js canary", "node_canary", none⟩
    let node : Source := ⟨"Node.js", "Node", none⟩
    let sources := [canary, node]
    let dir := Path.ofString "results/json"
    (sources.map lowerSlug).Nodup ∧ (∀ s ∈ sources, '/' ∉ s.lowerSlug) ∧ '/' ∉ "ipc".toList ∧
      (¬canary.lowerSlug ++ ['_'] <+: node.lowerSlug ++ '_' :: Text.lower "ipc".toList) ∧
      titleOf sources (dir / .ofString (canary.fileName "ipc")) = "Node.js canary" ∧
      titleOf sources (dir / .ofString (node.fileName "ipc")) = "Node.js" := by
  intro canary node sources dir
  have hdistinct : (sources.map lowerSlug).Nodup := by decide +kernel
  have hslash : ∀ s ∈ sources, '/' ∉ s.lowerSlug := by decide +kernel
  have hkind : '/' ∉ "ipc".toList := by decide
  have hfirst : ¬canary.lowerSlug ++ ['_'] <+:
      node.lowerSlug ++ '_' :: Text.lower "ipc".toList := by
    decide +kernel
  obtain ⟨htitle, -⟩ := titleOf_fileName hdistinct hslash dir hkind
  exact ⟨hdistinct, hslash, hkind, hfirst, htitle [] canary [node] rfl (List.forall_mem_nil _),
    htitle [canary] node [] rfl (List.forall_mem_singleton.mpr hfirst)⟩

/-- With the shorter one of two slugs in front, the file of the other source has the wrong title.
The same file is the one of the first source for another kind. -/
theorem titleOf_fileName_shorter :
    let node : Source := ⟨"Node.js", "node", none⟩
    let canary : Source := ⟨"Node.js canary", "node_canary", none⟩
    let sources := [node, canary]
    let dir := Path.ofString "results"
    (sources.map lowerSlug).Nodup ∧
      (∀ s ∈ sources, s.lowerSlug ≠ [] ∧ '/' ∉ s.lowerSlug) ∧
      titleOf sources (dir / .ofString (canary.fileName "ipc")) ≠ canary.name ∧
      canary.fileName "ipc" = node.fileName "canary_ipc" := by
  decide +kernel

end Source

end BenchCharts
