import HiveDump.Bytes
import HiveDump.CommandLine.Arguments
import HiveDump.CommandLine.Directory
import HiveDump.CommandLine.Run
import HiveDump.Config
import HiveDump.Conversion
import HiveDump.Diagnostic
import HiveDump.Failing
import HiveDump.Fault
import HiveDump.Hive.Item
import HiveDump.Hive.Kind
import HiveDump.Hive.Shape
import HiveDump.Hive.Source
import HiveDump.Image.Basic
import HiveDump.Image.Cell
import HiveDump.Image.Hive
import HiveDump.Image.Item
import HiveDump.Image.Layout
import HiveDump.Image.ListGraph
import HiveDump.Image.Loops
import HiveDump.Image.Payload
import HiveDump.Image.SubkeyList
import HiveDump.Loop
import HiveDump.Main
import HiveDump.Markup.Call
import HiveDump.Markup.Charset
import HiveDump.Markup.CodePage.Basic
import HiveDump.Markup.CodePage.Further
import HiveDump.Markup.CodePage.Iso8859
import HiveDump.Markup.CodePage.Regional
import HiveDump.Markup.CodePage.Windows
import HiveDump.Markup.Document
import HiveDump.Markup.Eastern
import HiveDump.Markup.Eastern.Basic
import HiveDump.Markup.Eastern.Gb18030Runs
import HiveDump.Markup.Eastern.Japanese
import HiveDump.Markup.Eastern.Korean
import HiveDump.Markup.Eastern.Simplified
import HiveDump.Markup.Eastern.Traditional
import HiveDump.Markup.Label
import HiveDump.Markup.Outline
import HiveDump.Markup.Parsing
import HiveDump.Markup.Plane.Basic
import HiveDump.Markup.Plane.Big5
import HiveDump.Markup.Plane.Cns
import HiveDump.Markup.Plane.Cns15
import HiveDump.Markup.Plane.Cns3
import HiveDump.Markup.Plane.Cns4
import HiveDump.Markup.Plane.Cns5
import HiveDump.Markup.Plane.Cns6
import HiveDump.Markup.Plane.Cns7
import HiveDump.Markup.Plane.Cp932
import HiveDump.Markup.Plane.Gb2312
import HiveDump.Markup.Plane.Hkscs
import HiveDump.Markup.Plane.IsoIr165
import HiveDump.Markup.Plane.Jis0208
import HiveDump.Markup.Plane.Jis0212
import HiveDump.Markup.Plane.Ks1001
import HiveDump.Markup.Reader
import HiveDump.Markup.SourceEscape
import HiveDump.Markup.Switching
import HiveDump.Markup.Token
import HiveDump.Markup.Tree
import HiveDump.Markup.Writer
import HiveDump.Memory.Hive
import HiveDump.Memory.Script
import HiveDump.Memory.Stored
import HiveDump.Policy
import HiveDump.Proofs.Bytes
import HiveDump.Proofs.Calm
import HiveDump.Proofs.CommandLine.Reports
import HiveDump.Proofs.Conversion.ByteRuns
import HiveDump.Proofs.Conversion.Callbacks
import HiveDump.Proofs.Conversion.Closing
import HiveDump.Proofs.Conversion.Images
import HiveDump.Proofs.Conversion.Insertions
import HiveDump.Proofs.Conversion.Losses
import HiveDump.Proofs.Conversion.Policies
import HiveDump.Proofs.Conversion.Skipping
import HiveDump.Proofs.Conversion.Stopping
import HiveDump.Proofs.Conversion.Tallies
import HiveDump.Proofs.Handling
import HiveDump.Proofs.Image.Cells
import HiveDump.Proofs.Image.CutRoot
import HiveDump.Proofs.Image.DataCells
import HiveDump.Proofs.Image.Drawing
import HiveDump.Proofs.Image.Ending
import HiveDump.Proofs.Image.Extent
import HiveDump.Proofs.Image.FreeCells
import HiveDump.Proofs.Image.Handles
import HiveDump.Proofs.Image.Holds
import HiveDump.Proofs.Image.KeyLists
import HiveDump.Proofs.Image.KeyRecord
import HiveDump.Proofs.Image.LastBin
import HiveDump.Proofs.Image.ListGraph
import HiveDump.Proofs.Image.ListPaths
import HiveDump.Proofs.Image.Loops
import HiveDump.Proofs.Image.Opening
import HiveDump.Proofs.Image.Placed
import HiveDump.Proofs.Image.RoundTrip
import HiveDump.Proofs.Image.Sight
import HiveDump.Proofs.Image.SkippingWalk
import HiveDump.Proofs.Image.Stamps
import HiveDump.Proofs.Image.Storage
import HiveDump.Proofs.Image.ValueRecord
import HiveDump.Proofs.Image.Values
import HiveDump.Proofs.Image.Wording
import HiveDump.Proofs.Markup.AnyOrder
import HiveDump.Proofs.Markup.Confined
import HiveDump.Proofs.Markup.Described
import HiveDump.Proofs.Markup.Gathered
import HiveDump.Proofs.Markup.Growing
import HiveDump.Proofs.Markup.LaidDown
import HiveDump.Proofs.Markup.OpenElements
import HiveDump.Proofs.Markup.Prefix
import HiveDump.Proofs.Markup.Reading
import HiveDump.Proofs.Markup.Rendering
import HiveDump.Proofs.Markup.Restarts
import HiveDump.Proofs.Markup.Stages
import HiveDump.Proofs.Markup.Started
import HiveDump.Proofs.Markup.UnknownLabel
import HiveDump.Proofs.Markup.WriterCalls
import HiveDump.Proofs.Memory.Allotted
import HiveDump.Proofs.Memory.Closed
import HiveDump.Proofs.Memory.Insertions
import HiveDump.Proofs.Memory.Losses
import HiveDump.Proofs.Memory.Reachable
import HiveDump.Proofs.Memory.Thinning
import HiveDump.Proofs.Report.Accord
import HiveDump.Proofs.Report.Brings
import HiveDump.Proofs.Report.Calls
import HiveDump.Proofs.Report.Charted
import HiveDump.Proofs.Report.Composed
import HiveDump.Proofs.Report.Converted
import HiveDump.Proofs.Report.Course
import HiveDump.Proofs.Report.Depth
import HiveDump.Proofs.Report.Elements
import HiveDump.Proofs.Report.Names
import HiveDump.Proofs.Report.Numbers
import HiveDump.Proofs.Report.Outcome
import HiveDump.Proofs.Report.Passing
import HiveDump.Proofs.Report.Pieces
import HiveDump.Proofs.Report.Printable
import HiveDump.Proofs.Report.Recovery
import HiveDump.Proofs.Report.Rejected
import HiveDump.Proofs.Report.RunTags
import HiveDump.Proofs.Report.RunsWritten
import HiveDump.Proofs.Report.SafeAttributes
import HiveDump.Proofs.Report.Shown
import HiveDump.Proofs.Report.ShownValues
import HiveDump.Proofs.Report.Started
import HiveDump.Proofs.Report.Thinned
import HiveDump.Proofs.Report.Walked
import HiveDump.Proofs.Report.Yields
import HiveDump.Proofs.Text.Base64
import HiveDump.Proofs.Text.ReadBack
import HiveDump.Proofs.Text.Strict
import HiveDump.Proofs.Text.Terminated
import HiveDump.Proofs.Text.Utf16
import HiveDump.Proofs.Text.Utf8
import HiveDump.Proofs.Time.Civil
import HiveDump.Proofs.Time.FileTime
import HiveDump.Proofs.Walk.Callbacks
import HiveDump.Proofs.Walk.Met
import HiveDump.Proofs.Walk.Padded
import HiveDump.Proofs.Walk.Recursive
import HiveDump.Proofs.Walk.Skipped
import HiveDump.Proofs.Walk.Tallied
import HiveDump.Proofs.Walk.Turns
import HiveDump.Report.Attribute
import HiveDump.Report.ByteRuns
import HiveDump.Report.Call
import HiveDump.Report.Element
import HiveDump.Report.Grammar
import HiveDump.Report.Recovery
import HiveDump.Session
import HiveDump.Text.Base64
import HiveDump.Text.DecimalDigit
import HiveDump.Text.Quoted
import HiveDump.Text.Unprintable
import HiveDump.Text.Utf16
import HiveDump.Text.Utf7
import HiveDump.Text.Utf8
import HiveDump.Time.Civil
import HiveDump.Time.FileTime
import HiveDump.Walk.Callback
import HiveDump.Walk.Event
import HiveDump.Walk.Recursive
import HiveDump.Walk.Run
import HiveDump.Walk.Turn
