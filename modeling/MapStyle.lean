import MapStyle.Number.Shortest
import MapStyle.Text.Digit
import MapStyle.Text.Quoted
import MapStyle.Text.Newline
import MapStyle.Value.Equality
import MapStyle.Expression.Chained
import MapStyle.Layer.Basic
import MapStyle.Chain.Let
import MapStyle.Shape.Document
import MapStyle.Json.Writer
import MapStyle.Json.Reader
import MapStyle.Config.Basic
import MapStyle.Report.Lines
import MapStyle.Markup.Render
import MapStyle.Output.Print
import MapStyle.Catalog
import MapStyle.CommandLine.Run
import MapStyle.Script.StyleFunction
import MapStyle.Script.ExpressionMethod
import MapStyle.Script.Program
import MapStyle.Main
import MapStyle.Proofs.Forging.Compositional
import MapStyle.Proofs.Shape.Accepted
import MapStyle.Proofs.Shape.LayerLists
import MapStyle.Proofs.Shape.ExpressionChecks
import MapStyle.Proofs.Json.Files
import MapStyle.Proofs.Json.Objects
import MapStyle.Proofs.Files.Failures
import MapStyle.Proofs.CommandLine.CheckRuns
import MapStyle.Proofs.CommandLine.ReportLines
import MapStyle.Proofs.CommandLine.ConfigOption
import MapStyle.Proofs.CommandLine.ExamplesRuns
import MapStyle.Proofs.Forging.StaticForms
import MapStyle.Proofs.Layer.PlainRecords
import MapStyle.Proofs.Report.Scripts
import MapStyle.Proofs.Report.Entries
import MapStyle.Proofs.CommandLine.VerboseRuns
import MapStyle.Proofs.Forging.MatchWays
import MapStyle.Proofs.Chain.MatchKeys
import MapStyle.Proofs.Config.Defaults
import MapStyle.Proofs.Forging.TextKeys
import MapStyle.Proofs.Forging.CaseWays
import MapStyle.Proofs.Forging.LetBodies
import MapStyle.Proofs.Forging.MatchFallbacks
import MapStyle.Proofs.Forging.FormattedText
