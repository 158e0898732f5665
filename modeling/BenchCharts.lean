import BenchCharts.Alignment
import BenchCharts.Canvas
import BenchCharts.Chart
import BenchCharts.Chart.AxisText
import BenchCharts.Chart.Drawing
import BenchCharts.Chart.Extent
import BenchCharts.Chart.Lines
import BenchCharts.Chart.Segments
import BenchCharts.Chart.Swatch
import BenchCharts.Color
import BenchCharts.CommandLine
import BenchCharts.CommandLine.Reader
import BenchCharts.Config
import BenchCharts.Config.Reader
import BenchCharts.Dataset
import BenchCharts.Decimal.Exact
import BenchCharts.Decimal.Fixed
import BenchCharts.Decimal.Natural
import BenchCharts.Decimal.Numeral
import BenchCharts.Decimal.Shortest
import BenchCharts.Document
import BenchCharts.Duration
import BenchCharts.Failure
import BenchCharts.Fields
import BenchCharts.FileTree
import BenchCharts.Glyph
import BenchCharts.Group
import BenchCharts.Issue
import BenchCharts.Json
import BenchCharts.Json.Fault
import BenchCharts.Json.Number
import BenchCharts.Json.Reader
import BenchCharts.Label
import BenchCharts.Label.Threads
import BenchCharts.Main
import BenchCharts.Notice
import BenchCharts.OrderedMap
import BenchCharts.Path
import BenchCharts.Pattern
import BenchCharts.Pattern.Reader
import BenchCharts.PictureFormat
import BenchCharts.Plan
import BenchCharts.Plan.Ipc
import BenchCharts.Plan.Load
import BenchCharts.Plan.Loading
import BenchCharts.Plan.Overlay
import BenchCharts.Plan.Types
import BenchCharts.Png
import BenchCharts.Png.Header
import BenchCharts.Png.Inflate
import BenchCharts.Png.Pixels
import BenchCharts.Png.Reader
import BenchCharts.Proofs.Alignment.Categories
import BenchCharts.Proofs.Alignment.Columns
import BenchCharts.Proofs.Alignment.Order
import BenchCharts.Proofs.Alignment.Regular
import BenchCharts.Proofs.Alignment.Shared
import BenchCharts.Proofs.Alignment.Union
import BenchCharts.Proofs.Appearance
import BenchCharts.Proofs.Chart.AxisText
import BenchCharts.Proofs.Chart.Extent
import BenchCharts.Proofs.Chart.Readings
import BenchCharts.Proofs.Chart.Segments
import BenchCharts.Proofs.Chart.Swatch
import BenchCharts.Proofs.Chart.WellFormed
import BenchCharts.Proofs.Color
import BenchCharts.Proofs.Dataset.Accounting
import BenchCharts.Proofs.Dataset.LastRow
import BenchCharts.Proofs.Dataset.Places
import BenchCharts.Proofs.Dataset.Points
import BenchCharts.Proofs.Dataset.Pooled
import BenchCharts.Proofs.Dataset.Sections
import BenchCharts.Proofs.Dataset.Sound
import BenchCharts.Proofs.Dataset.Stored
import BenchCharts.Proofs.Dataset.Walk
import BenchCharts.Proofs.Decimal.Denoted
import BenchCharts.Proofs.Decimal.Double
import BenchCharts.Proofs.Decimal.Exact
import BenchCharts.Proofs.Decimal.Fixed
import BenchCharts.Proofs.Decimal.Natural
import BenchCharts.Proofs.Decimal.Numeral
import BenchCharts.Proofs.Decimal.Positive
import BenchCharts.Proofs.Decimal.Rounding
import BenchCharts.Proofs.Decimal.SignedZero
import BenchCharts.Proofs.Document
import BenchCharts.Proofs.Document.Outcome
import BenchCharts.Proofs.Duration
import BenchCharts.Proofs.Fields
import BenchCharts.Proofs.FileTree
import BenchCharts.Proofs.Group
import BenchCharts.Proofs.Group.Resolution
import BenchCharts.Proofs.Json.Number
import BenchCharts.Proofs.Json.Quoted
import BenchCharts.Proofs.Json.RoundTrip
import BenchCharts.Proofs.Label
import BenchCharts.Proofs.Label.Category
import BenchCharts.Proofs.Label.Notation
import BenchCharts.Proofs.Label.Split
import BenchCharts.Proofs.Label.Threads
import BenchCharts.Proofs.Label.Written
import BenchCharts.Proofs.Largest
import BenchCharts.Proofs.OrderedMap
import BenchCharts.Proofs.Path
import BenchCharts.Proofs.Plan.ChartPaths
import BenchCharts.Proofs.Plan.Images
import BenchCharts.Proofs.Plan.Ipc
import BenchCharts.Proofs.Plan.Load
import BenchCharts.Proofs.Plan.Loading
import BenchCharts.Proofs.Plan.Overlay
import BenchCharts.Proofs.Plan.Perform
import BenchCharts.Proofs.Plan.Stitch
import BenchCharts.Proofs.Plan.Types
import BenchCharts.Proofs.Plan.TypesPaths
import BenchCharts.Proofs.Png
import BenchCharts.Proofs.Presence
import BenchCharts.Proofs.Raster
import BenchCharts.Proofs.Report.Charts
import BenchCharts.Proofs.Report.Colors
import BenchCharts.Proofs.Report.DisplayUnit
import BenchCharts.Proofs.Report.Divisors
import BenchCharts.Proofs.Report.Ipc
import BenchCharts.Proofs.Report.Load
import BenchCharts.Proofs.Report.Overlay
import BenchCharts.Proofs.Report.Ratio
import BenchCharts.Proofs.Report.Scaling
import BenchCharts.Proofs.Report.Types
import BenchCharts.Proofs.Source
import BenchCharts.Proofs.Table
import BenchCharts.Proofs.Table.Line
import BenchCharts.Proofs.Text.Blank
import BenchCharts.Proofs.Text.ByteOrder
import BenchCharts.Proofs.Text.Case
import BenchCharts.Proofs.Text.Digit
import BenchCharts.Proofs.Text.Search
import BenchCharts.Proofs.Text.Width
import BenchCharts.Proofs.TimeUnit
import BenchCharts.Proofs.Tolerance
import BenchCharts.Raster
import BenchCharts.Report.Ipc
import BenchCharts.Report.Load
import BenchCharts.Report.Overlay
import BenchCharts.Report.Results
import BenchCharts.Report.Types
import BenchCharts.Row
import BenchCharts.Scale
import BenchCharts.Session
import BenchCharts.Source
import BenchCharts.Table
import BenchCharts.Text.Blank
import BenchCharts.Text.Case
import BenchCharts.Text.CaseTable
import BenchCharts.Text.Digit
import BenchCharts.Text.Fold
import BenchCharts.Text.Plain
import BenchCharts.Text.Ranges
import BenchCharts.Text.Search
import BenchCharts.Text.Width
import BenchCharts.Text.WidthTable
import BenchCharts.Text.Word
import BenchCharts.Theme
import BenchCharts.TimeUnit
import BenchCharts.Toml
import BenchCharts.Toml.Quoted
import BenchCharts.Toml.Reader
import BenchCharts.Toml.Scalar
import BenchCharts.Toml.Tree
