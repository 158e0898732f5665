import BenchCharts.Path
import BenchCharts.Text.Case

/-!
What can be wrong with the input of a report. A report warns of it and goes on without that input.
-/

namespace BenchCharts

inductive Issue where
  /-- There is no such file under the place searched. -/
  | missing (file : String) (searched : Path)
  | malformed (path : Option Path) (reason : String)
  | empty (what : String)

namespace Issue

def message : Issue → String
  | missing file _ => s!"missing {file}"
  | malformed none reason => s!"malformed input: {reason}"
  | malformed (some path) reason => s!"malformed input {path.text}: {reason}"
  | empty what => s!"no usable data for {what}"

/-- Tells where a malformed text was found, if that is not known yet. -/
def locate (path : Path) : Issue → Issue
  | malformed none reason => malformed path reason
  | issue => issue

def sentence (issue : Issue) : String :=
  String.ofList (Text.capitalize issue.message.toList)

def skipWarning (issue : Issue) (home : Option Path) (what : String) : String :=
  match issue with
  | missing file searched => s!"Missing {file} under {searched.shown home}, skipping {what}"
  | issue => s!"{issue.sentence}, skipping {what}"

end Issue

end BenchCharts
