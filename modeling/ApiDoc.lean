import ApiDoc.Text.Word
import ApiDoc.Text.Printable
import ApiDoc.Text.Case
import ApiDoc.DocComment.Decoration
import ApiDoc.DocComment.Tag
import ApiDoc.Pattern.Parse
import ApiDoc.Pattern.Match
import ApiDoc.DocComment.Parse
import ApiDoc.Keyed
import ApiDoc.NaturalOrder
import ApiDoc.Number.Shortest
import ApiDoc.Json.Read
import ApiDoc.Json.Write
import ApiDoc.Json.Display
import ApiDoc.Syntax.Dump
import ApiDoc.Syntax.Outline
import ApiDoc.Record.Build
import ApiDoc.Record.Json
import ApiDoc.Syntax.Load
import ApiDoc.Settings.Load
import ApiDoc.Template.Percent
import ApiDoc.Template.Dollar
import ApiDoc.Template.Brace
import ApiDoc.Yaml.Read
import ApiDoc.Logging.Config.Handler
import ApiDoc.Logging.Configure
import ApiDoc.Logging.Session
import ApiDoc.Logging.Journal
import ApiDoc.CommandLine.Run
import ApiDoc.Main
import ApiDoc.Proofs.Text.Lines
import ApiDoc.Proofs.DocComment.Decoration
import ApiDoc.Proofs.DocComment.Tag
import ApiDoc.Proofs.DocComment.Parse
import ApiDoc.Proofs.Settings.Patterns
import ApiDoc.Proofs.DocComment.Written
import ApiDoc.Proofs.DocComment.NormalForm
import ApiDoc.Proofs.Keyed
import ApiDoc.Proofs.Traversal
import ApiDoc.Proofs.NaturalOrder
import ApiDoc.Proofs.Record.Members
import ApiDoc.Proofs.Record.LastDeclaration
import ApiDoc.Proofs.Record.Totality
import ApiDoc.Proofs.Syntax.Generations
import ApiDoc.Proofs.Record.Comments
import ApiDoc.Proofs.CommandLine.Reports
import ApiDoc.Proofs.Record.Influence
import ApiDoc.Proofs.Syntax.Alike
import ApiDoc.Proofs.Record.Dumps
import ApiDoc.Proofs.Record.Namespaces
import ApiDoc.Proofs.Json.RoundTrip
import ApiDoc.Proofs.Json.Short
import ApiDoc.Proofs.Storage.Files
import ApiDoc.Proofs.Text.Utf8
import ApiDoc.Proofs.Syntax.Flags
import ApiDoc.Proofs.Record.Json
import ApiDoc.Proofs.CommandLine.Arguments
import ApiDoc.Proofs.CommandLine.Output
import ApiDoc.Proofs.DocComment.Modes
import ApiDoc.Proofs.DocComment.TagName
import ApiDoc.Proofs.DocComment.LineBreaks
import ApiDoc.Proofs.DocComment.LeadingBlanks
import ApiDoc.Proofs.DocComment.Places
import ApiDoc.Proofs.DocComment.StarLines
import ApiDoc.Proofs.DocComment.Noise
import ApiDoc.Proofs.Logging.Recorded
import ApiDoc.Proofs.Record.Order
import ApiDoc.Proofs.NaturalOrder.Walk
import ApiDoc.Proofs.NaturalOrder.Total
import ApiDoc.Proofs.Syntax.TypeLeaves
import ApiDoc.Proofs.Syntax.DeclaredType
import ApiDoc.Proofs.Record.Layout
import ApiDoc.Proofs.Syntax.Outline
import ApiDoc.Proofs.DocComment.Image
import ApiDoc.Proofs.Logging.Qualify
import ApiDoc.Proofs.Logging.Override
