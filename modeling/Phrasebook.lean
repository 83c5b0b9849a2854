import Phrasebook.Assoc
import Phrasebook.Call
import Phrasebook.Command.Basic
import Phrasebook.Command.Error
import Phrasebook.Command.Generate
import Phrasebook.Command.Lint
import Phrasebook.Command.Plan
import Phrasebook.Command.Prune
import Phrasebook.Command.Rekey
import Phrasebook.Command.Run
import Phrasebook.Command.Sort
import Phrasebook.Command.Usage
import Phrasebook.CommandLine.Argument
import Phrasebook.CommandLine.Matching
import Phrasebook.CommandLine.Parser
import Phrasebook.Config.Basic
import Phrasebook.Config.Reader
import Phrasebook.Decimal.Shortest
import Phrasebook.Dialect
import Phrasebook.Disk
import Phrasebook.Extraction
import Phrasebook.FilePath
import Phrasebook.Files
import Phrasebook.Generate
import Phrasebook.Glob
import Phrasebook.Issue
import Phrasebook.Json.Basic
import Phrasebook.Json.Fault
import Phrasebook.Json.Parser
import Phrasebook.Json.Printer
import Phrasebook.Json.Punctuation
import Phrasebook.Json.Scalar
import Phrasebook.Json.Skip
import Phrasebook.KeyLine
import Phrasebook.KeyPath
import Phrasebook.KeyTable
import Phrasebook.Language
import Phrasebook.Lint.Charset
import Phrasebook.Lint.Echo
import Phrasebook.Lint.Leaf
import Phrasebook.Lint.Run
import Phrasebook.Lint.Words
import Phrasebook.Main
import Phrasebook.Markup
import Phrasebook.PhraseFile
import Phrasebook.Placeholder
import Phrasebook.Program
import Phrasebook.Project
import Phrasebook.Project.Opening
import Phrasebook.Project.Reading
import Phrasebook.Proofs.Canonical.Compatibility
import Phrasebook.Proofs.Canonical.FirstFailure
import Phrasebook.Proofs.Canonical.Idempotence
import Phrasebook.Proofs.Canonical.LastWord
import Phrasebook.Proofs.Canonical.LineBreaks
import Phrasebook.Proofs.Canonical.Placement
import Phrasebook.Proofs.Canonical.Preservation
import Phrasebook.Proofs.Canonical.Scanning
import Phrasebook.Proofs.Canonical.SecondRun
import Phrasebook.Proofs.Canonical.Survival
import Phrasebook.Proofs.Caret
import Phrasebook.Proofs.Command.Effects
import Phrasebook.Proofs.Command.Locales
import Phrasebook.Proofs.Command.Looking
import Phrasebook.Proofs.Command.Performing
import Phrasebook.Proofs.Command.Planning
import Phrasebook.Proofs.Command.Reading
import Phrasebook.Proofs.Disk.Listing
import Phrasebook.Proofs.Disk.Places
import Phrasebook.Proofs.FirstSeen
import Phrasebook.Proofs.Flat.Collapsing
import Phrasebook.Proofs.Flat.Expansion
import Phrasebook.Proofs.Flat.Reordering
import Phrasebook.Proofs.Flat.Retention
import Phrasebook.Proofs.Flat.SingleLevel
import Phrasebook.Proofs.Flat.Spreading
import Phrasebook.Proofs.Flat.Stability
import Phrasebook.Proofs.Json.Paths
import Phrasebook.Proofs.Json.Reading
import Phrasebook.Proofs.Json.RoundTrip
import Phrasebook.Proofs.KeyLine.Lines
import Phrasebook.Proofs.KeyLine.PlainKeys
import Phrasebook.Proofs.KeyLine.Searching
import Phrasebook.Proofs.KeyPaths
import Phrasebook.Proofs.Lint.RuleOrder
import Phrasebook.Proofs.Lint.Words
import Phrasebook.Proofs.MarkupCalls
import Phrasebook.Proofs.Placeholders
import Phrasebook.Proofs.Prune.Repetition
import Phrasebook.Proofs.Prune.Reporting
import Phrasebook.Proofs.Prune.Selection
import Phrasebook.Proofs.Regions
import Phrasebook.Proofs.Rekey.Locales
import Phrasebook.Proofs.Rekey.Overlap
import Phrasebook.Proofs.Rekey.Unrelated
import Phrasebook.Proofs.Script.Columns
import Phrasebook.Proofs.Splitting
import Phrasebook.Proofs.StableSort
import Phrasebook.Proofs.Text.Lowering
import Phrasebook.Proofs.Text.Width
import Phrasebook.Proofs.Traversal.Clashes
import Phrasebook.Proofs.Traversal.Independence
import Phrasebook.Proofs.Traversal.Rebuilding
import Phrasebook.Proofs.Traversal.Walks
import Phrasebook.Proofs.Tree.Alike
import Phrasebook.Proofs.Tree.Decoding
import Phrasebook.Proofs.Tree.Editing
import Phrasebook.Proofs.Tree.Encoding
import Phrasebook.Proofs.Tree.Entries
import Phrasebook.Proofs.Tree.Hollow
import Phrasebook.Proofs.Tree.Leafy
import Phrasebook.Proofs.Tree.Merging
import Phrasebook.Proofs.Tree.Obstacles
import Phrasebook.Proofs.Tree.Overlay
import Phrasebook.Proofs.Tree.Removal
import Phrasebook.Proofs.Tree.Rereading
import Phrasebook.Proofs.Tree.RoundTrip
import Phrasebook.Proofs.Tree.Shape
import Phrasebook.Proofs.Tree.Sorting
import Phrasebook.Proofs.Tree.Spots
import Phrasebook.Proofs.Tree.Storing
import Phrasebook.Proofs.Tree.Trimming
import Phrasebook.Proofs.Tree.Walking
import Phrasebook.Proofs.Tree.Withdrawal
import Phrasebook.Proofs.UsageCounts
import Phrasebook.Prune
import Phrasebook.Rekey
import Phrasebook.Report
import Phrasebook.Script.Bindings
import Phrasebook.Script.Callee
import Phrasebook.Script.Calls
import Phrasebook.Script.Classes
import Phrasebook.Script.Declarations
import Phrasebook.Script.Elements
import Phrasebook.Script.Expressions
import Phrasebook.Script.Functions
import Phrasebook.Script.Grammar
import Phrasebook.Script.Links
import Phrasebook.Script.Loops
import Phrasebook.Script.Members
import Phrasebook.Script.Modules
import Phrasebook.Script.Names
import Phrasebook.Script.Objects
import Phrasebook.Script.Operators
import Phrasebook.Script.Outline
import Phrasebook.Script.Parameters
import Phrasebook.Script.Parentheses
import Phrasebook.Script.Parser
import Phrasebook.Script.Pattern
import Phrasebook.Script.Primary
import Phrasebook.Script.Scanner.Escape
import Phrasebook.Script.Scanner.Gap
import Phrasebook.Script.Scanner.Mode
import Phrasebook.Script.Scanner.Name
import Phrasebook.Script.Scanner.Number
import Phrasebook.Script.Scanner.Quoted
import Phrasebook.Script.Scanner.Token
import Phrasebook.Script.Source
import Phrasebook.Script.Statements
import Phrasebook.Script.Template
import Phrasebook.Script.Token
import Phrasebook.Script.TypeMarks
import Phrasebook.Script.Types
import Phrasebook.Script.Word
import Phrasebook.Site
import Phrasebook.SourceScan
import Phrasebook.Style
import Phrasebook.Summary
import Phrasebook.Tag
import Phrasebook.Text.Blank
import Phrasebook.Text.CharRange
import Phrasebook.Text.Digits
import Phrasebook.Text.Folding
import Phrasebook.Text.Identifier
import Phrasebook.Text.Listing
import Phrasebook.Text.Lowercase
import Phrasebook.Text.Quoted
import Phrasebook.Text.Search
import Phrasebook.Text.Utf8
import Phrasebook.Text.Width
import Phrasebook.Text.WidthTable
import Phrasebook.Text.WordChar
import Phrasebook.Tree.Access
import Phrasebook.Tree.Basic
import Phrasebook.Tree.Flat
import Phrasebook.Tree.Json
import Phrasebook.Tree.Leaves
import Phrasebook.Tree.Merge
import Phrasebook.Usage
import Phrasebook.Validation
