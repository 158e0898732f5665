import BenchCharts.Plan.Ipc
import BenchCharts.Proofs.Plan.Loading
import BenchCharts.Proofs.Source
import BenchCharts.Session

/-!
Where the report on messages between processes puts its charts. The chart of a source has the name
of the file that the source was found in, and with it the last piece of the slug. The charts of two
sources fall together if and only if these pieces do.
-/

namespace BenchCharts

namespace Ipc

section

variable {setting : Setting} {tree : FileTree} {input : Path} {r : Results}
  (h : r ∈ (setting.loadSources tree input "ipc" groupSet).2) (out : Path)

include h

theorem stem_of_mem_loadSources :
    ∃ source, setting.config.sources[r.index]? = some source ∧
      r.path.stem = source.fileHead ++ "_ipc".toList := by
  obtain ⟨source, index, hs, hloads⟩ := Setting.loads_of_mem_loadSources h
  cases hloads with
  | loaded hp _ _ =>
    exact ⟨source, hs, Source.stem_of_mem_candidates (by decide) (List.mem_of_find?_eq_some hp)⟩

end

theorem lastPiece_sourcePath {r : Results} {head : List Char} (hh : '/' ∉ head)
    (h : r.path.stem = head ++ "_ipc".toList) (out : Path) :
    Path.lastPiece (sourcePath out r).chars = head ++ "_ipc.png".toList := by
  have hname : '/' ∉ "_ipc.png".toList := by decide
  rw [sourcePath, Path.lastPiece_join, h, List.append_assoc]
  exact Path.lastPiece_of_notMem fun hm => (List.mem_append.mp hm).elim hh hname

theorem two_lt_length_name (head : List Char) : 2 < (head ++ "_ipc.png".toList).length := by
  simp

theorem apart_of_stem {r : Results} {head : List Char} (hh : '/' ∉ head)
    (h : r.path.stem = head ++ "_ipc".toList) (out : Path) :
    (sourcePath out r).Apart (combinedPath out) ∧ (sourcePath out r).Apart (montagePath out) := by
  have hlast := lastPiece_sourcePath hh h out
  have hother (name : String) (hn : Path.lastPiece name.toList = name.toList)
      (hl : 2 < name.toList.length) (hs : ¬ "_ipc.png".toList <:+ name.toList) :
      (sourcePath out r).Apart (out / .ofString name) := by
    have hname : Path.lastPiece (out / Path.ofString name).chars = name.toList :=
      (Path.lastPiece_join out _).trans hn
    apply Path.apart_of_lastPiece_ne (hlast ▸ two_lt_length_name head) (hname ▸ hl)
    rw [hlast, hname]
    exact fun he => hs ⟨head, he⟩
  exact ⟨hother "ipc_combined.png" (by decide) (by decide) (by decide),
    hother "ipc_montage.png" (by decide) (by decide) (by decide)⟩

/-- The charts of two sources go to one place if the slugs have the same last piece, and else to
different places. They never go to the place of the other two pictures. -/
theorem chart_paths_by_slug (setting : Setting) (tree : FileTree) (input out : Path) :
    let loaded := (setting.loadSources tree input "ipc" groupSet).2
    (∀ r ∈ loaded,
      (sourcePath out r).Apart (combinedPath out) ∧ (sourcePath out r).Apart (montagePath out)) ∧
      ∀ r ∈ loaded, ∀ r' ∈ loaded, ∃ source source',
        setting.config.sources[r.index]? = some source ∧
          setting.config.sources[r'.index]? = some source' ∧
          if source.fileHead = source'.fileHead then sourcePath out r = sourcePath out r'
          else (sourcePath out r).Apart (sourcePath out r') := by
  intro loaded
  have hslash (source : Source) : '/' ∉ source.fileHead := Path.slash_notMem_lastPiece _
  refine ⟨fun r hr => ?_, fun r hr r' hr' => ?_⟩
  · obtain ⟨source, _, hstem⟩ := stem_of_mem_loadSources hr
    exact apart_of_stem (hslash source) hstem out
  · obtain ⟨source, hs, hstem⟩ := stem_of_mem_loadSources hr
    obtain ⟨source', hs', hstem'⟩ := stem_of_mem_loadSources hr'
    refine ⟨source, source', hs, hs', ?_⟩
    split
    · next he => rw [sourcePath, sourcePath, hstem, hstem', he]
    · next hne =>
      have hlast := lastPiece_sourcePath (hslash source) hstem out
      have hlast' := lastPiece_sourcePath (hslash source') hstem' out
      apply Path.apart_of_lastPiece_ne (hlast ▸ two_lt_length_name _)
        (hlast' ▸ two_lt_length_name _)
      rw [hlast, hlast']
      exact fun he => hne (List.append_cancel_right he)

/-- Two of the sources that are known without a configuration. -/
theorem chart_paths_by_slug_standard :
    let file : Json :=
      .object [("http", .array [.object [("name", .string "h (1)"), ("avg", .int 5)]])]
    let tree : FileTree := .ofResults [("node_ipc.json", file), ("bun_ipc.json", file)]
    let loaded := (Setting.loadSources ⟨.standard, none⟩ tree (.ofString ".") "ipc" groupSet).2
    let out := Path.ofString "out"
    ∃ node ∈ loaded, ∃ bun ∈ loaded, node.index = 0 ∧ bun.index = 2 ∧
      (sourcePath out node).Apart (sourcePath out bun) ∧
      (sourcePath out bun).Apart (combinedPath out) := by
  intro file tree loaded out
  have hloaded : loaded.map (·.index) = [0, 2] := by decide +kernel
  obtain ⟨node, hnode, hn⟩ := List.mem_map.mp (hloaded ▸ List.mem_cons_self : 0 ∈ _)
  obtain ⟨bun, hbun, hb⟩ :=
    List.mem_map.mp (hloaded ▸ List.mem_cons_of_mem 0 (List.mem_singleton_self 2) : 2 ∈ _)
  obtain ⟨hothers, hpaths⟩ := chart_paths_by_slug ⟨.standard, none⟩ tree (.ofString ".") out
  obtain ⟨source, source', hs, hs', hapart⟩ := hpaths node hnode bun hbun
  rw [hn] at hs
  rw [hb] at hs'
  cases hs
  cases hs'
  exact ⟨node, hnode, bun, hbun, hn, hb, hapart, (hothers bun hbun).1⟩

/-- Two sources with one slug have their files in different folders. The chart of the second one is
written over the chart of the first one. -/
theorem chart_overwritten :
    let file : Json :=
      .object [("worker", .array [.object [("name", .string "w (1)"), ("avg", .int 5)]])]
    let result : Node := .file (.text (String.ofList file.compact))
    let sources := "[[sources]]\nname = \"Node 20\"\nslug = \"node\"\ndir = \"v20\"\n\n" ++
      "[[sources]]\nname = \"Node 22\"\nslug = \"node\"\ndir = \"v22\"\n"
    let tree : FileTree := ⟨[], [([], .folder), (["two.toml"], .file (.text sources)),
      (["v20"], .folder), (["v20", "node_ipc.json"], result),
      (["v22"], .folder), (["v22", "node_ipc.json"], result)]⟩
    let environment : Environment := { home := none }
    let request : ReportRequest := ⟨.ofString ".", some (.ofString "out"), false⟩
    let invocation : Invocation := ⟨.ipc request false, some (.ofString "two.toml"), 0⟩
    let outcome := invocation.run environment tree
    CommandLine.read ["ipc", "-i", ".", "-o", "out", "--config", "two.toml"] = .ok invocation ∧
      ((Config.load environment tree invocation.config).2.toOption.map fun config =>
        (Setting.loadSources ⟨config, none⟩ tree request.input "ipc" groupSet).2.map fun r =>
          (r.source, r.path.text, (sourcePath (.ofString "out") r).text)) =
        some [("Node 20", "./v20/node_ipc.json", "out/node_ipc.png"),
          ("Node 22", "./v22/node_ipc.json", "out/node_ipc.png")] ∧
      outcome.failure.isNone ∧
      outcome.tree.files.map (·.1) = [["out", "ipc_combined.png"], ["out", "node_ipc.png"],
        ["two.toml"], ["v20", "node_ipc.json"], ["v22", "node_ipc.json"]] := by
  intro file result sources tree environment request invocation outcome
  exact ⟨by rfl, by decide +kernel⟩

end Ipc

end BenchCharts
