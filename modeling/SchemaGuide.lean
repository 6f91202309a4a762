import SchemaGuide.Files.Tree
import SchemaGuide.Main
import SchemaGuide.Proofs.Explorer.Detection
import SchemaGuide.Proofs.Explorer.Injection
import SchemaGuide.Proofs.Explorer.SearchLimit
import SchemaGuide.Proofs.Explorer.Withheld
import SchemaGuide.Proofs.Overlay.Beside
import SchemaGuide.Proofs.Overlay.Invisible
import SchemaGuide.Proofs.Overlay.Latest
import SchemaGuide.Proofs.Overlay.Removal
import SchemaGuide.Proofs.Overlay.Teardown
import SchemaGuide.Proofs.Query.Elements
import SchemaGuide.Proofs.Query.Outermost
import SchemaGuide.Proofs.Query.Rooted
import SchemaGuide.Proofs.Query.SelectionPath
import SchemaGuide.Proofs.Query.Typing
import SchemaGuide.Proofs.Schema.Decoding
import SchemaGuide.Proofs.Session.Deprecation
import SchemaGuide.Proofs.Session.Stops
import SchemaGuide.Proofs.Settings.Binding
import SchemaGuide.Proofs.Session.Interference
import SchemaGuide.Proofs.Query.ArgumentValues
import SchemaGuide.Proofs.Query.UntypedFragment
import SchemaGuide.Proofs.Explorer.PanelElements
import SchemaGuide.Proofs.Text.Position
import SchemaGuide.Proofs.Explorer.Members
import SchemaGuide.Proofs.Explorer.Owners
import SchemaGuide.Proofs.Schema.Conversion
import SchemaGuide.Proofs.Explorer.Stack
import SchemaGuide.Proofs.Schema.Notation
import SchemaGuide.Proofs.Html.Grammar
import SchemaGuide.Proofs.Markdown.Vocabulary
import SchemaGuide.Proofs.Overlay.Badge
import SchemaGuide.Proofs.Explorer.Matching
import SchemaGuide.Proofs.Overlay.CodeSpan
import SchemaGuide.Proofs.Session.SchemaOption
import SchemaGuide.Proofs.Settings.Naming
import SchemaGuide.Proofs.Uri.Absolute
