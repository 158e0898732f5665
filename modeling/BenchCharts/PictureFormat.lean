import BenchCharts.Path

/-!
The formats of pictures that the name of a file tells. Only PNG can be read and written.
-/

namespace BenchCharts

inductive PictureFormat where
  | png
  /-- A format that is known by its name only. -/
  | other (name : String)
  deriving DecidableEq, Repr

namespace PictureFormat

/-- The formats besides PNG with their extensions. -/
def others : List (String × List String) := [
  ("Avif", ["avif"]), ("Jpeg", ["jpg", "jpeg", "jfif"]), ("Gif", ["gif"]), ("WebP", ["webp"]),
  ("Tiff", ["tif", "tiff"]), ("Tga", ["tga"]), ("Dds", ["dds"]), ("Bmp", ["bmp"]), ("Ico", ["ico"]),
  ("Hdr", ["hdr"]), ("OpenExr", ["exr"]), ("Pnm", ["pbm", "pam", "ppm", "pgm", "pnm"]),
  ("Farbfeld", ["ff"]), ("Qoi", ["qoi"])]

/-- The format of an extension in any ASCII letter case. -/
def ofExtension? (extension : List Char) : Option PictureFormat :=
  let extension := String.ofList (extension.map Char.toLower)
  if extension = "png" ∨ extension = "apng" then some png
  else (others.find? (·.2.contains extension)).map fun (name, _) => other name

def ofPath? (path : Path) : Option PictureFormat :=
  path.extension?.bind ofExtension?

end PictureFormat

end BenchCharts
