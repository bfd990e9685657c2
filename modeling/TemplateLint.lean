import TemplateLint.Main
import TemplateLint.Proofs.Fragment.Edit
import TemplateLint.Proofs.Text.Blank
import TemplateLint.Proofs.Text.Lines
import TemplateLint.Proofs.Text.Search
import TemplateLint.Proofs.Fragment.Excerpt
import TemplateLint.Proofs.Fragment.Body
import TemplateLint.Proofs.Fragment.Numbering
import TemplateLint.Proofs.Fragment.Rendering
import TemplateLint.Proofs.Pointing
import TemplateLint.Proofs.Fragment.Passage
import TemplateLint.Proofs.Fragment.Closing
import TemplateLint.Proofs.Fragment.Moving
import TemplateLint.Proofs.Journal
import TemplateLint.Proofs.Linter.Carrying
import TemplateLint.Proofs.Linter.Moving
import TemplateLint.Proofs.Discovery.Answer
import TemplateLint.Proofs.Run.Share
import TemplateLint.Proofs.Run.Account
import TemplateLint.Proofs.Linter.Columns
import TemplateLint.Proofs.FileTree.Plain
import TemplateLint.Proofs.Path.Order
import TemplateLint.Proofs.Discovery.Reordering
import TemplateLint.Proofs.Text.Numeral
import TemplateLint.Proofs.Json.Literal
import TemplateLint.Proofs.Json.RoundTrip
import TemplateLint.Proofs.Config.RoundTrip
import TemplateLint.Proofs.Config.Keywise
import TemplateLint.Proofs.Diagnostic.Batches
import TemplateLint.Proofs.Diagnostic.RoundTrip
import TemplateLint.Proofs.Pattern.Wildcard
import TemplateLint.Proofs.Pattern.Below
import TemplateLint.Proofs.Pattern.Components
import TemplateLint.Proofs.Pattern.Glob
import TemplateLint.Proofs.Pattern.Directory
import TemplateLint.Proofs.Pattern.DoubleStar
import TemplateLint.Proofs.Pattern.Defaults
import TemplateLint.Proofs.Fragment.Blank
import TemplateLint.Proofs.Linter.Asking
import TemplateLint.Proofs.Text.Repetition
import TemplateLint.Proofs.Fragment.Opening
import TemplateLint.Proofs.Config.Spelling
import TemplateLint.Proofs.Config.Usable
import TemplateLint.Proofs.Config.Loading
import TemplateLint.Proofs.Offense.Reading
import TemplateLint.Proofs.Template.Numbering
import TemplateLint.Proofs.Fragment.Header
import TemplateLint.Proofs.Fragment.Operations
import TemplateLint.Proofs.Json.Appended
import TemplateLint.Proofs.Run.Report
import TemplateLint.Proofs.FileTree.Links
import TemplateLint.Proofs.FileTree.Resolving
import TemplateLint.Proofs.Discovery.Ways
import TemplateLint.Proofs.Discovery.Links
