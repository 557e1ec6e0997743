import SceneScript.Action.Basic
import SceneScript.Action.Guard
import SceneScript.CommandLine.Arguments
import SceneScript.CommandLine.Options
import SceneScript.CommandLine.Run
import SceneScript.CommandLine.Usage
import SceneScript.Compile.Error
import SceneScript.Compile.Walk
import SceneScript.Document
import SceneScript.Export.Basic
import SceneScript.Export.Envelope
import SceneScript.Export.Slug
import SceneScript.Field.Checked
import SceneScript.Field.Coercion
import SceneScript.FileTree
import SceneScript.Graph.Basic
import SceneScript.Graph.Index
import SceneScript.Graph.Lane
import SceneScript.Graph.Reach
import SceneScript.Graph.Reading
import SceneScript.Graph.Unseen
import SceneScript.Json.Basic
import SceneScript.Json.Display
import SceneScript.Json.Lexeme
import SceneScript.Json.Reader
import SceneScript.Json.Writer
import SceneScript.Main
import SceneScript.Number.Basic
import SceneScript.Number.Double
import SceneScript.Number.Notation
import SceneScript.Number.Numeral
import SceneScript.Number.Shortest
import SceneScript.Proofs.Scan
import SceneScript.Report.Basic
import SceneScript.Report.Edges
import SceneScript.Report.Finding
import SceneScript.Report.Lanes
import SceneScript.Report.Nodes
import SceneScript.Service
import SceneScript.Settings.Basic
import SceneScript.Settings.Dotenv
import SceneScript.Settings.Sources
import SceneScript.Table
import SceneScript.Text.Blank
import SceneScript.Text.CaseContext
import SceneScript.Text.CaseMap
import SceneScript.Text.Digit
import SceneScript.Text.LetterCase
import SceneScript.Text.Printable
import SceneScript.Text.Quoted
import SceneScript.Text.Ranges
import SceneScript.Text.Split
import SceneScript.Text.Utf8
import SceneScript.Proofs.Walked
import SceneScript.Proofs.Configuration
import SceneScript.Proofs.Totality
import SceneScript.Proofs.Findings
import SceneScript.Proofs.Forewarning
import SceneScript.Proofs.Playback
import SceneScript.Proofs.Travel
import SceneScript.Proofs.ExportGate
import SceneScript.Proofs.Cycle
import SceneScript.Proofs.Trimmed
import SceneScript.Proofs.GuardCompleteness
import SceneScript.Proofs.Nesting
import SceneScript.Proofs.Visits
import SceneScript.Proofs.Record
import SceneScript.Proofs.RequiredFields
import SceneScript.Proofs.LaneMatching
import SceneScript.Proofs.Coverage
import SceneScript.Proofs.NodeReached
import SceneScript.Proofs.Sharing
import SceneScript.Proofs.Loading
import SceneScript.Proofs.StepRecords
import SceneScript.Proofs.ExitCodes
import SceneScript.Proofs.WithinReach
import SceneScript.Proofs.PairLinks
import SceneScript.Proofs.Grouping
import SceneScript.Proofs.Shuffled
import SceneScript.Proofs.Decoration
import SceneScript.Proofs.Seclusion
import SceneScript.Proofs.LaneSelection
import SceneScript.Proofs.ForkRecord
import SceneScript.Proofs.ShortestDigits
import SceneScript.Proofs.WrittenNumber
import SceneScript.Proofs.EnvelopeText
import SceneScript.Proofs.Blame
import SceneScript.Proofs.Pruning
import SceneScript.Proofs.Reloading
import SceneScript.Proofs.Reportable
import SceneScript.Proofs.Retouching
import SceneScript.Proofs.SceneIds
import SceneScript.Proofs.CallStack
import SceneScript.Proofs.Termination
import SceneScript.Proofs.PathIndependence
import SceneScript.Proofs.LaneAsSequence
import SceneScript.Proofs.IndexTables
