import BenchCharts.Chart.Drawing
import BenchCharts.Failure
import BenchCharts.Issue
import BenchCharts.Notice
import BenchCharts.PictureFormat
import BenchCharts.Png.Reader

/-!
Plans: what a report says and draws, in order. Only drawing and stitching can fail, and nothing of a
plan happens after a failure.
-/

namespace BenchCharts

inductive Detail where
  | info
  | debug
  deriving DecidableEq, Repr

inductive Remark where
  | log (detail : Detail) (text : String)
  | notice (notice : Notice)
  | table (text : String)
  deriving DecidableEq, Repr

namespace Remark

def debug (text : String) : Remark := log .debug text

def info (text : String) : Remark := log .info text

def warning (text : String) : Remark := notice ⟨.warning, text⟩

def hint (text : String) : Remark := notice ⟨.hint, text⟩

def success (text : String) : Remark := notice ⟨.success, text⟩

end Remark

inductive Step where
  | say (remark : Remark)
  /-- Draws a chart into a file. -/
  | draw (chart : Chart) (path : Path)
  /-- Joins the pictures in some files side by side in another one. -/
  | stitch (inputs : List Path) (out : Path)

abbrev Plan := List Step

structure Setting where
  config : Config
  home : Option Path

structure Outcome where
  remarks : List Remark
  tree : FileTree
  /-- Why the plan ended early. -/
  failure : Option Failure := none

namespace Outcome

def after (remarks : List Remark) (outcome : Outcome) : Outcome :=
  { outcome with remarks := remarks ++ outcome.remarks }

end Outcome

/-- What a flaw of a PNG means for its file. -/
def PictureFlaw.ofPng : Png.Flaw → PictureFlaw
  | .cutShort => .file .cutShort
  | .malformed => .malformed
  | .tooLarge => .tooLarge

def Content.raster : Content → Except PictureFlaw Raster
  | .picture raster => .ok raster
  | .text s => (Png.decode s.toUTF8).mapError .ofPng
  | .bytes data => (Png.decode data).mapError .ofPng

namespace FileTree

/-- Makes the folder that a file is to lie in. -/
def makeRoom (tree : FileTree) (path : Path) : Except Failure FileTree :=
  match path.parent? with
  | none => .ok tree
  | some parent => (tree.makeFolders parent).mapError (.noFolder parent)

/-- Makes room for a picture and writes it, unless there is a flaw beforehand, which may leave an
empty file. An error of the file counts as the flaw that `asFlaw` makes of it. The room stays
whatever comes of the picture. -/
def deliver (tree : FileTree) (path : Path) (picture : Raster) (flaw? : Option PictureFlaw)
    (asFlaw : FileError → PictureFlaw) : FileTree × Option Failure :=
  match tree.makeRoom path with
  | .error failure => (tree, some failure)
  | .ok tree =>
    let write := fun (content : Content) (flaw? : Option PictureFlaw) =>
      match tree.write path content with
      | .ok tree => (tree, flaw?.map (.unwritable path ·))
      | .error e => (tree, some (.unwritable path (asFlaw e)))
    match flaw? with
    | none => write (.picture picture) none
    | some flaw =>
      if flaw.leavesFile then write (.text "") flaw else (tree, some (.unwritable path flaw))

/-- The picture in a file whose name tells the format. -/
def picture (tree : FileTree) (path : Path) : Except PictureFlaw Raster :=
  match tree.find path with
  | .error e => .error (.file e)
  | .ok .folder => .error (.file .isFolder)
  | .ok (.file content) =>
    match PictureFormat.ofPath? path with
    | none => .error .noFormat
    | some (.other name) => .error (.unreadable name)
    | some .png => content.raster

end FileTree

/-- What keeps a chart from being written under a name. -/
def Chart.formatFlaw? (path : Path) : Option PictureFlaw :=
  if path.isPng then none else some .undrawable

namespace Raster

/-- What keeps a montage from being written under a name. -/
def formatFlaw? (path : Path) : Option PictureFlaw :=
  match path.extension? with
  | none => some .noFormat
  | some extension =>
    match PictureFormat.ofExtension? extension with
    | some .png => none
    | some (.other name) => some (.unwritable name)
    | none => some (.unknownFormat (String.ofList extension))

end Raster

namespace Setting

def picture (setting : Setting) (chart : Chart) : Raster :=
  chart.drawing setting.config.theme setting.config.width setting.config.height

def drawnRemarks (setting : Setting) (path : Path) : List Remark :=
  [.info s!"Rendered {path.text}", .success s!"Wrote {path.shown setting.home}"]

/-- Draws a chart into a file, which has to be a PNG. -/
def draw (setting : Setting) (tree : FileTree) (chart : Chart) (path : Path) : Outcome :=
  match tree.deliver path (setting.picture chart) (Chart.formatFlaw? path) .undelivered with
  | (tree, none) => ⟨setting.drawnRemarks path, tree, none⟩
  | (tree, some failure) => ⟨[], tree, some failure⟩

/-- The pictures in some files, up to the first one that is none; missing files are warned about. -/
def collect (setting : Setting) (tree : FileTree) :
    List Path → List Remark × Except Failure (List Raster)
  | [] => ([], .ok [])
  | path :: paths =>
    if tree.isFile path then
      match tree.picture path with
      | .error flaw => ([], .error (.noPicture path flaw))
      | .ok raster =>
        let (remarks, rest) := setting.collect tree paths
        (remarks, rest.map (raster :: ·))
    else
      let (remarks, rest) := setting.collect tree paths
      (.warning s!"Missing montage input {path.shown setting.home}, skipping" :: remarks, rest)

/-- The pictures of a montage at their places. -/
def canvas (setting : Setting) (rasters : List Raster) : Raster :=
  .beside setting.config.theme.background rasters

def nothingStitched : Remark :=
  .warning "No montage inputs found; nothing stitched"

def stitchedRemarks (setting : Setting) (count : Nat) (canvas : Raster) (out : Path) :
    List Remark :=
  [.info s!"Stitched {count} images into {out.text} ({canvas.width}x{canvas.height})",
    .success s!"Wrote {out.shown setting.home}"]

/-- Joins the pictures in some files. Without any picture nothing is written. -/
def stitch (setting : Setting) (tree : FileTree) (inputs : List Path) (out : Path) : Outcome :=
  match setting.collect tree inputs with
  | (said, .error failure) => ⟨said, tree, some failure⟩
  | (said, .ok []) => ⟨said ++ [nothingStitched], tree, none⟩
  | (said, .ok rasters) =>
    let canvas := setting.canvas rasters
    match tree.deliver out canvas (Raster.formatFlaw? out) .file with
    | (tree, none) => ⟨said ++ setting.stitchedRemarks rasters.length canvas out, tree, none⟩
    | (tree, some failure) => ⟨said, tree, some failure⟩

def performStep (setting : Setting) (tree : FileTree) : Step → Outcome
  | .say remark => ⟨[remark], tree, none⟩
  | .draw chart path => setting.draw tree chart path
  | .stitch inputs out => setting.stitch tree inputs out

/-- Carries out a plan up to the first failure. -/
def perform (setting : Setting) (tree : FileTree) : Plan → Outcome
  | [] => ⟨[], tree, none⟩
  | step :: steps =>
    let outcome := setting.performStep tree step
    match outcome.failure with
    | some _ => outcome
    | none => (setting.perform outcome.tree steps).after outcome.remarks

end Setting

end BenchCharts
