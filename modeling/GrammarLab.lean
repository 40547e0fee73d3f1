import GrammarLab.Chart.Item
import GrammarLab.Chart.Parse
import GrammarLab.Chart.Queue
import GrammarLab.Chart.StateSet
import GrammarLab.CommandLine.Form
import GrammarLab.CommandLine.Request
import GrammarLab.CommandLine.Run
import GrammarLab.Decimal.Notation
import GrammarLab.Decimal.Rounding
import GrammarLab.Derivation.Enumerator
import GrammarLab.Event
import GrammarLab.Gallery
import GrammarLab.Grammar.Analysis
import GrammarLab.Grammar.Basic
import GrammarLab.Grammar.Printer
import GrammarLab.Grammar.Reader
import GrammarLab.Grammar.Report
import GrammarLab.Grammar.Samples
import GrammarLab.Language.Preview
import GrammarLab.Language.Session
import GrammarLab.Language.Store
import GrammarLab.Language.StringSet
import GrammarLab.Main
import GrammarLab.Proofs.Chart.Agreement
import GrammarLab.Proofs.Chart.Arising
import GrammarLab.Proofs.Chart.Checked
import GrammarLab.Proofs.Chart.Filling
import GrammarLab.Proofs.Chart.Finishing
import GrammarLab.Proofs.Chart.Limit
import GrammarLab.Proofs.Chart.Renaming
import GrammarLab.Proofs.Chart.Sets
import GrammarLab.Proofs.Chart.Trees
import GrammarLab.Proofs.Decimal.Characters
import GrammarLab.Proofs.Derivation.Completion
import GrammarLab.Proofs.Derivation.Counting
import GrammarLab.Proofs.Derivation.Emptiness
import GrammarLab.Proofs.Derivation.Limit
import GrammarLab.Proofs.Derivation.Round
import GrammarLab.Proofs.Gallery.Caption
import GrammarLab.Proofs.Grammar.Ambiguity
import GrammarLab.Proofs.Grammar.Arrow
import GrammarLab.Proofs.Grammar.Bound
import GrammarLab.Proofs.Grammar.Built
import GrammarLab.Proofs.Grammar.Chains
import GrammarLab.Proofs.Grammar.Generating
import GrammarLab.Proofs.Grammar.Lines
import GrammarLab.Proofs.Grammar.Renaming
import GrammarLab.Proofs.Grammar.Rereading
import GrammarLab.Proofs.Grammar.Rewriting
import GrammarLab.Proofs.Grammar.Rounds
import GrammarLab.Proofs.Language.Denotation
import GrammarLab.Proofs.Language.Levels
import GrammarLab.Proofs.Language.Preview
import GrammarLab.Proofs.Language.Reading
import GrammarLab.Proofs.Language.Sessions
import GrammarLab.Proofs.Language.StringSet
import GrammarLab.Proofs.Language.Strings
import GrammarLab.Proofs.Regex.Forms
import GrammarLab.Proofs.Regex.Places
import GrammarLab.Proofs.Regex.Printing
import GrammarLab.Proofs.Relation.Closure
import GrammarLab.Proofs.Relation.Reach
import GrammarLab.Proofs.Relation.Rows
import GrammarLab.Proofs.Text.Blank
import GrammarLab.Proofs.Text.Document
import GrammarLab.Proofs.Text.Entity
import GrammarLab.Proofs.Text.Replacement
import GrammarLab.Proofs.Tree.Addresses
import GrammarLab.Proofs.Tree.Columns
import GrammarLab.Proofs.Tree.Cycles
import GrammarLab.Proofs.Tree.Derivation
import GrammarLab.Proofs.Tree.Graph
import GrammarLab.Proofs.Tree.Quoting
import GrammarLab.Proofs.Tree.Shallow
import GrammarLab.Proofs.Tree.Spacing
import GrammarLab.Proofs.Tree.Svg
import GrammarLab.Regex.Basic
import GrammarLab.Regex.Reader
import GrammarLab.Relation.Closure
import GrammarLab.Relation.Fixpoint
import GrammarLab.Text.Blank
import GrammarLab.Text.Case
import GrammarLab.Text.Colour
import GrammarLab.Text.Emoji
import GrammarLab.Text.Emoji.Names
import GrammarLab.Text.Entity
import GrammarLab.Text.Extent
import GrammarLab.Text.Integer
import GrammarLab.Text.Markup
import GrammarLab.Text.Printable
import GrammarLab.Text.Quoted
import GrammarLab.Text.Ranges
import GrammarLab.Text.Scanner
import GrammarLab.Text.Style
import GrammarLab.Text.Table
import GrammarLab.Text.Tabs
import GrammarLab.Text.Width
import GrammarLab.Text.Wrap
import GrammarLab.Tree.Basic
import GrammarLab.Tree.Dot
import GrammarLab.Tree.Drawing
import GrammarLab.Tree.Order
import GrammarLab.Tree.Outline
import GrammarLab.Tree.Svg
