import BenchCharts.Config
import BenchCharts.FileTree

/-!
What ends a run early.
-/

namespace BenchCharts

inductive PictureFlaw where
  /-- The drawing of a chart knows no format for such a name. -/
  | undrawable
  /-- A chart that was drawn does not get into its file. -/
  | undelivered (error : FileError)
  /-- The name tells no format. -/
  | noFormat
  | unknownFormat (extension : String)
  /-- The name tells a format that cannot be read. -/
  | unreadable (format : String)
  /-- The name tells a format that cannot be written. -/
  | unwritable (format : String)
  /-- The file holds something else. -/
  | malformed
  | tooLarge
  | file (error : FileError)
  deriving DecidableEq, Repr

/-- A text between double quotes, where a double quote and a backslash have one in front. -/
def quoted (s : String) : String :=
  String.ofList ('"' :: (s.toList.flatMap fun c =>
    if c = '"' ∨ c = '\\' then ['\\', c] else [c]) ++ ['"'])

/-- Whether an empty file is left, because the format matters only once there is a file. -/
def PictureFlaw.leavesFile : PictureFlaw → Bool
  | unwritable _ => true
  | _ => false

def PictureFlaw.message : PictureFlaw → String
  | undrawable => "backend error: unknown picture format"
  | undelivered error => s!"backend error: {error.message}"
  | noFormat => "The image format could not be determined"
  | unknownFormat extension =>
    s!"The file extension `.{quoted extension}` was not recognized as an image format"
  | unreadable format => s!"The image format {format} is not supported"
  | unwritable format => s!"The image format `{format}` is not supported"
  | malformed => "Format error: not a picture"
  | tooLarge => "Memory limit exceeded"
  | file error => error.message

inductive Failure where
  /-- The configuration that was asked for is not there. -/
  | noConfig (path : Path)
  | unreadableConfig (path : Path) (error : FileError)
  | malformedConfig (path : Path) (flaw : Config.Flaw)
  | noFolder (path : Path) (error : FileError)
  /-- A file to be stitched is no picture. -/
  | noPicture (path : Path) (flaw : PictureFlaw)
  | unwritable (path : Path) (flaw : PictureFlaw)

namespace Failure

def context : Failure → String
  | noConfig path => s!"Config file not found: {path.text}"
  | unreadableConfig path _ => s!"Failed to read {path.text}"
  | malformedConfig path _ => s!"Failed to parse {path.text}"
  | noFolder path _ => s!"Failed to create {path.text}"
  | noPicture path _ => s!"Failed to open {path.text}"
  | unwritable path _ => s!"Failed to write {path.text}"

def reason? : Failure → Option String
  | noConfig _ => none
  | unreadableConfig _ error => error.message
  | malformedConfig _ flaw => flaw.message
  | noFolder _ error => error.message
  | noPicture _ flaw => flaw.message
  | unwritable _ flaw => flaw.message

def message (failure : Failure) : String :=
  match failure.reason? with
  | some reason => s!"{failure.context}: {reason}"
  | none => failure.context

end Failure

end BenchCharts
