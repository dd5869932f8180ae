import LayoutSpec.Document.Printer
import LayoutSpec.Form.Suite
import LayoutSpec.Observer
import LayoutSpec.Suite.Catalog
import LayoutSpec.Suite.Pool
import LayoutSpec.Validation.Walk
import LayoutSpec.Proofs.Constraint.WellFormed
import LayoutSpec.Proofs.Token.Written
import LayoutSpec.Proofs.Token.Read
import LayoutSpec.Proofs.Constraint.Read
import LayoutSpec.Proofs.Constraint.Written
import LayoutSpec.Proofs.Document.Printable
import LayoutSpec.Proofs.Document.Line
import LayoutSpec.Proofs.Document.Run
import LayoutSpec.Proofs.Document.Step
import LayoutSpec.Proofs.Document.Written
import LayoutSpec.Proofs.Document.RoundTrip
import LayoutSpec.Proofs.Document.Sound
import LayoutSpec.Proofs.Document.Weight
import LayoutSpec.Proofs.Document.Reread
import LayoutSpec.Proofs.Suite.Interleaving
import LayoutSpec.Proofs.Suite.Pool
import LayoutSpec.Proofs.Suite.Refinement
import LayoutSpec.Proofs.FileTree
import LayoutSpec.Proofs.Validation.Nesting
import LayoutSpec.Proofs.Document.Spelling
import LayoutSpec.Proofs.Validation.Alike
import LayoutSpec.Proofs.Page
import LayoutSpec.Proofs.Validation.Cycle
import LayoutSpec.Proofs.Validation.Silent
import LayoutSpec.Proofs.Constraint.Fault
import LayoutSpec.Proofs.Document.Fault
import LayoutSpec.Proofs.Document.Coherent
import LayoutSpec.Proofs.Document.Imports
import LayoutSpec.Proofs.Validation.Yields
import LayoutSpec.Proofs.Validation.Account
import LayoutSpec.Proofs.Validation.SeenFrom
import LayoutSpec.Proofs.Validation.Told
import LayoutSpec.Proofs.Suite.Verdict
import LayoutSpec.Proofs.Document.Expansion
import LayoutSpec.Proofs.ObjectTable
import LayoutSpec.Proofs.Document.Splice
import LayoutSpec.Proofs.Document.Concatenation
import LayoutSpec.Proofs.Document.ImportFrame
import LayoutSpec.Proofs.Document.ErrorPlace
import LayoutSpec.Proofs.Document.Outline
import LayoutSpec.Proofs.Document.Draft
import LayoutSpec.Proofs.Document.Grammar
import LayoutSpec.Proofs.Path
import LayoutSpec.Proofs.Constraint.Resolved
import LayoutSpec.Proofs.Validation.Ordered
import LayoutSpec.Proofs.Action.Performs
import LayoutSpec.Proofs.Suite.Session
import LayoutSpec.Proofs.Suite.Account
import LayoutSpec.Proofs.Suite.Loss
import LayoutSpec.Proofs.Regex.Lexeme
import LayoutSpec.Proofs.Regex.Extension
import LayoutSpec.Proofs.Regex.Group
import LayoutSpec.Proofs.Regex.Language
import LayoutSpec.Proofs.Regex.Whole
import LayoutSpec.Proofs.Validation.TextPattern
import LayoutSpec.Proofs.Glob
import LayoutSpec.Proofs.Suite.Verified
import LayoutSpec.Proofs.Document.WellFormed
import LayoutSpec.Proofs.Validation.Names
import LayoutSpec.Proofs.Validation.Isolated
import LayoutSpec.Proofs.Validation.Counterparts
import LayoutSpec.Proofs.Validation.MultiObject
import LayoutSpec.Proofs.Validation.Partly
import LayoutSpec.Proofs.Validation.Overlap
import LayoutSpec.Proofs.Validation.Loosened
import LayoutSpec.Proofs.Validation.Demands
import LayoutSpec.Proofs.Validation.Branches
import LayoutSpec.Proofs.Text.Arguments
import LayoutSpec.Proofs.Validation.Declared
import LayoutSpec.Proofs.Validation.Sections
import LayoutSpec.Proofs.Validation.Contained
import LayoutSpec.Proofs.Token.RangeText
import LayoutSpec.Proofs.Action.CheckArguments
import LayoutSpec.Proofs.Text.ArgumentMarks
import LayoutSpec.Proofs.Action.Written
import LayoutSpec.Proofs.Size
import LayoutSpec.Proofs.Text.QuotedPieces
import LayoutSpec.Proofs.Document.Parameterized
import LayoutSpec.Proofs.Validation.Addressed
import LayoutSpec.Proofs.Regex.GlobSource
import LayoutSpec.Proofs.Suite.Selection
import LayoutSpec.Proofs.Declarations
import LayoutSpec.Proofs.Document.ParameterValues
import LayoutSpec.Proofs.Document.Layout
import LayoutSpec.Proofs.Token.Calls
