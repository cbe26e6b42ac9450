import MarkupRules.Exchange.Report
import MarkupRules.Library.Loading
import MarkupRules.Library.Packaged
import MarkupRules.Proofs.Document.Representation
import MarkupRules.Proofs.Path.Closure
import MarkupRules.Proofs.Path.Reference
import MarkupRules.Proofs.Path.Axes
import MarkupRules.Proofs.Path.Evaluation
import MarkupRules.Proofs.Path.Grammar
import MarkupRules.Proofs.Path.Productions
import MarkupRules.Proofs.Path.Parsing
import MarkupRules.Proofs.Registry.Acceptance
import MarkupRules.Proofs.Registry.Checks
import MarkupRules.Proofs.Registry.Truthfulness
import MarkupRules.Proofs.Document.Location
import MarkupRules.Proofs.Guarded.Access
import MarkupRules.Proofs.Guarded.Selection
import MarkupRules.Proofs.Guarded.Validation
import MarkupRules.Proofs.Library.Compilation
import MarkupRules.Proofs.Library.Counts
import MarkupRules.Proofs.Path.Anchoring
import MarkupRules.Proofs.Path.Sources
import MarkupRules.Proofs.Registry.Grouping
import MarkupRules.Proofs.Registry.Independence
import MarkupRules.Proofs.Registry.Messages
import MarkupRules.Proofs.Registry.Multiplicity
import MarkupRules.Proofs.Library.Partition
import MarkupRules.Proofs.Text.Search
import MarkupRules.Proofs.Path.Embedding
import MarkupRules.Proofs.Rule.Queries
import MarkupRules.Proofs.Rule.Rendering
import MarkupRules.Proofs.Rule.Template
import MarkupRules.Proofs.Library.Affiliations
import MarkupRules.Proofs.Library.Regrouping
import MarkupRules.Proofs.Path.Attributes
import MarkupRules.Proofs.Rule.Spans
import MarkupRules.Proofs.Rule.Blanks
import MarkupRules.Proofs.Document.Characters
import MarkupRules.Proofs.Rule.Segments
import MarkupRules.Proofs.Path.Composition
import MarkupRules.Proofs.Library.Blame
import MarkupRules.Proofs.Path.Abbreviations
import MarkupRules.Proofs.Path.Filters
import MarkupRules.Proofs.Document.Subtree
import MarkupRules.Proofs.Path.Downward
import MarkupRules.Proofs.Path.Spacing
import MarkupRules.Proofs.Library.Silences
import MarkupRules.Proofs.Path.Prefixes
import MarkupRules.Proofs.Text.Phrases
import MarkupRules.Proofs.Library.Kinds
import MarkupRules.Proofs.Library.Misplaced
import MarkupRules.Proofs.Library.Failures
import MarkupRules.Proofs.Rule.Whitespace
import MarkupRules.Proofs.Path.Inequality
