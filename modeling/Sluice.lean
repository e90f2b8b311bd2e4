import Sluice.Number.Power
import Sluice.Text.Shown
import Sluice.Time.Reading
import Sluice.Script.Source
import Sluice.Script.Operation
import Sluice.Script.Engine
import Sluice.Text.Cutting
import Sluice.Text.Utf8
import Sluice.Settings
import Sluice.Exchange
import Sluice.Comparison
import Sluice.Disk.Store
import Sluice.Flow.Drain
import Sluice.Flow.Stage
import Sluice.Table.Column
import Sluice.Table.Rows
import Sluice.Table.FixedWidth
import Sluice.Catalog
import Sluice.Ndjson
import Sluice.Yaml.Scalar
import Sluice.Yaml.Token
import Sluice.Yaml.Node
import Sluice.Yaml.Resolution
import Sluice.Settings.Reading
import Sluice.Main
import Sluice.Proofs.Outcome
import Sluice.Proofs.Record
import Sluice.Proofs.Record.OrderedMap
import Sluice.Proofs.Settings
import Sluice.Proofs.Script.Engine
import Sluice.Proofs.Flow.Run
import Sluice.Proofs.Flow.Journal
import Sluice.Proofs.Flow.Memory
import Sluice.Proofs.Flow.Buffer
import Sluice.Proofs.Flow.Handling
import Sluice.Proofs.Flow.Draining
import Sluice.Proofs.Stages
import Sluice.Proofs.Handlers
import Sluice.Proofs.Steady
import Sluice.Proofs.Release
import Sluice.Proofs.Skipping
import Sluice.Proofs.Routing
import Sluice.Proofs.Flow.Output
import Sluice.Proofs.Text.Utf8
import Sluice.Proofs.Number.Reading
import Sluice.Proofs.Table.Rows
import Sluice.Proofs.Table.Reading
import Sluice.Proofs.Table.Whole
import Sluice.Proofs.Table.CutOff
import Sluice.Proofs.Table.Kept
import Sluice.Proofs.Table.Published
import Sluice.Proofs.Table.RoundTrip
import Sluice.Proofs.Table.Mark
import Sluice.Proofs.Table.Positional
import Sluice.Proofs.Json.Reading
import Sluice.Proofs.Text.Lines
import Sluice.Proofs.Json.Writing
import Sluice.Proofs.Ndjson
import Sluice.Proofs.Disk.Store
import Sluice.Proofs.Disk.Below
import Sluice.Proofs.Disk.Saving
import Sluice.Proofs.CommandLine.Output
import Sluice.Proofs.Flow.Blame
import Sluice.Proofs.Script.Spelling
import Sluice.Proofs.Script.Literals
import Sluice.Proofs.Script.Footprint
import Sluice.Proofs.Script.History
import Sluice.Proofs.Comparison
import Sluice.Proofs.Agreement
import Sluice.Proofs.Derivation
import Sluice.Proofs.Settling
import Sluice.Proofs.Flow.Copy
import Sluice.Proofs.Flow.Use
import Sluice.Proofs.FileRouting
import Sluice.Proofs.Flow.Disk
import Sluice.Proofs.CommandLine.Failing
import Sluice.Proofs.Time.Parts
import Sluice.Proofs.Time.Scan
import Sluice.Proofs.Time.Keeping
import Sluice.Proofs.Time.Calendar
import Sluice.Proofs.Time.Digits
import Sluice.Proofs.Table.Resolution
import Sluice.Proofs.Table.Cells
import Sluice.Proofs.Table.Mapping
import Sluice.Proofs.Table.FieldNames
import Sluice.Proofs.Table.Named
import Sluice.Proofs.Table.Permuted
import Sluice.Proofs.Time.RoundTrip
import Sluice.Proofs.Time.Telling
import Sluice.Proofs.Script.NormalForm
import Sluice.Proofs.Script.Unclosed
import Sluice.Proofs.Assignments
import Sluice.Proofs.Truth
import Sluice.Proofs.Script.Fields
import Sluice.Proofs.Script.Substrings
import Sluice.Proofs.Ordering
import Sluice.Proofs.Number.Nearest
import Sluice.Proofs.Number.Exact
import Sluice.Proofs.Narrowing
import Sluice.Proofs.Precompiled
import Sluice.Proofs.Table.Slices
import Sluice.Proofs.Sizes
import Sluice.Proofs.Table.Spacing
import Sluice.Proofs.Disk.Saving
import Sluice.Proofs.Script.Quotients
import Sluice.Proofs.Text.TitleCase
import Sluice.Proofs.Flow.Ports
