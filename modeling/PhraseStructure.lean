import PhraseStructure.Text.Blank
import PhraseStructure.Text.Cut
import PhraseStructure.Text.Encoding
import PhraseStructure.Text.Lines
import PhraseStructure.Text.Numeral
import PhraseStructure.Text.Quoted
import PhraseStructure.Text.Utf8
import PhraseStructure.Production.Shape
import PhraseStructure.Production.Rule
import PhraseStructure.OrderedSet
import PhraseStructure.Position
import PhraseStructure.Datum.Hash
import PhraseStructure.Datum.Order
import PhraseStructure.Datum.Set
import PhraseStructure.Grammar.Contents
import PhraseStructure.Grammar.Rules
import PhraseStructure.Grammar.Summary
import PhraseStructure.Tree.Printing
import PhraseStructure.Tree.Treebank
import PhraseStructure.Tree.Derivation
import PhraseStructure.Tree.Latex
import PhraseStructure.Command.GrammarFile
import PhraseStructure.Store.Clone
import PhraseStructure.Store.Make
import PhraseStructure.Store.Printing
import PhraseStructure.Main
import PhraseStructure.Proofs.Bracketing
import PhraseStructure.Proofs.Tree.Token
import PhraseStructure.Proofs.Tree.Acceptance
import PhraseStructure.Proofs.Tree.RoundTrip
import PhraseStructure.Proofs.Treebank.Division
import PhraseStructure.Proofs.Treebank.Reading
import PhraseStructure.Proofs.Grammar.Buckets
import PhraseStructure.Proofs.Grammar.Represents
import PhraseStructure.Proofs.Outcome
import PhraseStructure.Proofs.Grammar.Operations
import PhraseStructure.Proofs.Grammar.Reachable
import PhraseStructure.Proofs.Text.Cut
import PhraseStructure.Proofs.Production.RoundTrip
import PhraseStructure.Proofs.Tree.Nesting
import PhraseStructure.Proofs.OrderedSet
import PhraseStructure.Proofs.Grammar.Start
import PhraseStructure.Proofs.Grammar.Undo
import PhraseStructure.Proofs.Grammar.Failure
import PhraseStructure.Proofs.Grammar.Regrouping
import PhraseStructure.Proofs.Grammar.RoundTrip
import PhraseStructure.Proofs.Tree.Derivation
import PhraseStructure.Proofs.Production.Reprint
import PhraseStructure.Proofs.Text.Respacing
import PhraseStructure.Proofs.Tree.Layout
import PhraseStructure.Proofs.Treebank.Rereading
import PhraseStructure.Proofs.Treebank.Findings
import PhraseStructure.Proofs.Text.Lines
import PhraseStructure.Proofs.Command.Conversion
import PhraseStructure.Proofs.Tree.Rereading
import PhraseStructure.Proofs.Grammar.Iteration
import PhraseStructure.Proofs.Grammar.Terminals
import PhraseStructure.Proofs.Grammar.RuleLines
import PhraseStructure.Proofs.Text.LineBreaks
import PhraseStructure.Proofs.Command.Classification
import PhraseStructure.Proofs.Text.Quoting
import PhraseStructure.Proofs.Tree.Counting
import PhraseStructure.Proofs.Tree.Classification
import PhraseStructure.Proofs.Tree.TokenSequence
import PhraseStructure.Proofs.Tree.Reprint
import PhraseStructure.Proofs.Treebank.Accounting
import PhraseStructure.Proofs.Production.Overlap
import PhraseStructure.Proofs.Grammar.Equality
import PhraseStructure.Proofs.Grammar.Texts
import PhraseStructure.Proofs.Grammar.Printing
import PhraseStructure.Proofs.Grammar.Union
import PhraseStructure.Proofs.Tree.Visiting
import PhraseStructure.Proofs.Store.Unfolding
import PhraseStructure.Proofs.Store.Postorder
import PhraseStructure.Proofs.Grammar.Classes
import PhraseStructure.Proofs.Grammar.Removal
import PhraseStructure.Proofs.Grammar.Difference
import PhraseStructure.Proofs.Grammar.Alike
import PhraseStructure.Proofs.Grammar.Forms
import PhraseStructure.Proofs.Command.Numbering
import PhraseStructure.Proofs.Position
import PhraseStructure.Proofs.Grammar.Indexing
import PhraseStructure.Proofs.Tree.Positions
import PhraseStructure.Proofs.Store.Standing
import PhraseStructure.Proofs.Store.Traversal
import PhraseStructure.Proofs.Store.Lookup
import PhraseStructure.Proofs.Store.Placing
import PhraseStructure.Proofs.Store.Separation
import PhraseStructure.Proofs.Store.Planting
import PhraseStructure.Proofs.Store.Copying
import PhraseStructure.Proofs.Store.Height
import PhraseStructure.Proofs.Tree.Productions
import PhraseStructure.Proofs.Grammar.Extension
import PhraseStructure.Proofs.Tree.Lines
import PhraseStructure.Proofs.Grammar.Hierarchy
import PhraseStructure.Proofs.Grammar.Lookups
import PhraseStructure.Proofs.Tree.Drawing
import PhraseStructure.Proofs.Treebank.FirstTree
import PhraseStructure.Proofs.Grammar.Unwinding
import PhraseStructure.Proofs.Tree.Escaping
import PhraseStructure.Proofs.Tree.Margins
import PhraseStructure.Proofs.SetAlgebra
import PhraseStructure.Proofs.Fingerprint
import PhraseStructure.Proofs.TextSet
import PhraseStructure.Proofs.Grammar.Statistics
