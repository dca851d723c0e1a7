import DtsBundle.Layout.Printer
import DtsBundle.Main
import DtsBundle.Proofs.Files.Location
import DtsBundle.Proofs.Files.Change
import DtsBundle.Proofs.Emission.Course
import DtsBundle.Proofs.Assembly.Build
import DtsBundle.Proofs.Emission.Generation
import DtsBundle.Proofs.Emission.Sources
import DtsBundle.Proofs.Emission.Intermediates
import DtsBundle.Proofs.Assembly.Rereading
import DtsBundle.Proofs.Emission.Publication
import DtsBundle.Proofs.Unit.Rereading
import DtsBundle.Proofs.Emission.Strictness
import DtsBundle.Proofs.Assembly.Defects
import DtsBundle.Proofs.Emission.Starts
import DtsBundle.Proofs.Session.Printing
import DtsBundle.Proofs.Bundle.Exhaustion
import DtsBundle.Proofs.Assembly.Determination
import DtsBundle.Proofs.Emission.Freshness
import DtsBundle.Proofs.Files.Agreement
import DtsBundle.Proofs.Emission.Leftovers
import DtsBundle.Proofs.Emission.Rebuild
import DtsBundle.Proofs.Layout.Order
import DtsBundle.Proofs.Assembly.Order
import DtsBundle.Proofs.Json.Members
import DtsBundle.Proofs.Layout.Rereading
import DtsBundle.Proofs.Session.Course
import DtsBundle.Proofs.Text.Utf8
import DtsBundle.Proofs.Session.Status
import DtsBundle.Proofs.Session.Relay
import DtsBundle.Proofs.Layout.Distinct
import DtsBundle.Proofs.Declaration.Edit
import DtsBundle.Proofs.Declaration.Lines
import DtsBundle.Proofs.Declaration.LineEnds
import DtsBundle.Proofs.Layout.Leaves
import DtsBundle.Proofs.Assembly.Outline
import DtsBundle.Proofs.Assembly.Reports
import DtsBundle.Proofs.Json.Document
import DtsBundle.Proofs.Layout.Repeats
import DtsBundle.Proofs.Layout.Verdict
import DtsBundle.Proofs.Layout.Steps
import DtsBundle.Proofs.Unit.LineByLine
import DtsBundle.Proofs.Characters.Set
import DtsBundle.Proofs.Characters.Table
import DtsBundle.Proofs.Text.Classes
import DtsBundle.Proofs.Unit.Grammar
import DtsBundle.Proofs.Unit.Bindings
import DtsBundle.Proofs.Assembly.Lookup
import DtsBundle.Proofs.Bundle.Rendering
import DtsBundle.Proofs.CommandLine.Items
import DtsBundle.Proofs.CommandLine.Spelling
import DtsBundle.Proofs.Text.Visits
import DtsBundle.Proofs.Declaration.Header
import DtsBundle.Proofs.Expression.Building
import DtsBundle.Proofs.Expression.Search
import DtsBundle.Proofs.Expression.Groups
import DtsBundle.Proofs.Expression.Room
import DtsBundle.Proofs.Unit.Patterns
