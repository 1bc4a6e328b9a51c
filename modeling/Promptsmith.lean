import Promptsmith.Main
import Promptsmith.Form
import Promptsmith.Proofs.Template.Nesting
import Promptsmith.Proofs.Template.Margin
import Promptsmith.Proofs.Template.Tiling
import Promptsmith.Proofs.Template.Scanning
import Promptsmith.Proofs.Template.Markup
import Promptsmith.Proofs.Template.Printing
import Promptsmith.Proofs.Template.Hiding
import Promptsmith.Proofs.Template.Substitution
import Promptsmith.Proofs.Catalog.Weights
import Promptsmith.Proofs.Engine.History
import Promptsmith.Proofs.Engine.Answer
import Promptsmith.Proofs.Engine.Escaping
import Promptsmith.Proofs.Template.Prefix
import Promptsmith.Proofs.Template.Lines
import Promptsmith.Proofs.Template.Faults
import Promptsmith.Proofs.Decimal.Order
import Promptsmith.Proofs.Catalog.Bounds
import Promptsmith.Proofs.Catalog.Log
import Promptsmith.Proofs.Engine.Bounded
import Promptsmith.Proofs.Engine.Logging
import Promptsmith.Proofs.Text.Lower
import Promptsmith.Proofs.Catalog.Choice
import Promptsmith.Proofs.Engine.Ending
import Promptsmith.Proofs.Template.Tidy
import Promptsmith.Proofs.Files.Placing
import Promptsmith.Proofs.Engine.Bodies
import Promptsmith.Proofs.Engine.Describing
import Promptsmith.Proofs.Engine.Bundled
import Promptsmith.Proofs.Files.Naming
import Promptsmith.Proofs.Command.Agreement
import Promptsmith.Proofs.Engine.Caching
import Promptsmith.Proofs.Files.Saving
import Promptsmith.Proofs.Files.Normal
import Promptsmith.Proofs.Json.Spelling
import Promptsmith.Proofs.Config.RoundTrip
import Promptsmith.Proofs.Command.Ways
import Promptsmith.Proofs.Command.Effects
import Promptsmith.Proofs.Command.Exits
import Promptsmith.Proofs.Template.Scoping
import Promptsmith.Proofs.Template.Joining
import Promptsmith.Proofs.Template.Directives
import Promptsmith.Proofs.Files.Holding
import Promptsmith.Proofs.Engine.Interchange
import Promptsmith.Proofs.Template.Rewording
import Promptsmith.Proofs.Template.Padding
import Promptsmith.Proofs.Template.LineEndings
import Promptsmith.Proofs.Engine.Learning
import Promptsmith.Proofs.Engine.Guidance
import Promptsmith.Proofs.Engine.Availability
import Promptsmith.Proofs.Analysis.Merging
import Promptsmith.Proofs.Analysis.Confidence
import Promptsmith.Proofs.Decimal.Rounding
import Promptsmith.Proofs.Decimal.Approximation
import Promptsmith.Proofs.Analysis.Scores
import Promptsmith.Proofs.Analysis.Ruling
import Promptsmith.Proofs.Score.Growth
import Promptsmith.Proofs.Context.Flags
import Promptsmith.Proofs.Score.Typed
import Promptsmith.Proofs.Command.Accounts
import Promptsmith.Proofs.Text.Pattern
import Promptsmith.Proofs.Template.Matching
import Promptsmith.Proofs.Template.Visiting
import Promptsmith.Proofs.Score.OneLine
import Promptsmith.Proofs.Analysis.Detail
import Promptsmith.Proofs.Text.Hyphens
import Promptsmith.Proofs.Text.FileNames
import Promptsmith.Proofs.Text.Listing
