import KalmanHeader.C.Declaration
import KalmanHeader.C.Expression
import KalmanHeader.C.Identifier
import KalmanHeader.Calculus.Derivative
import KalmanHeader.Calculus.Jacobian
import KalmanHeader.Calculus.Simplify
import KalmanHeader.Constants.Basic
import KalmanHeader.Constants.Substitution
import KalmanHeader.Disk.Basic
import KalmanHeader.Disk.Operation
import KalmanHeader.Disk.Path
import KalmanHeader.Expr.Basic
import KalmanHeader.Expr.Display
import KalmanHeader.Expr.Encoding
import KalmanHeader.Expr.Grammar
import KalmanHeader.Expr.Grid
import KalmanHeader.Expr.MapSymbols
import KalmanHeader.Expr.Parser
import KalmanHeader.Expr.Scalar
import KalmanHeader.Expr.Token
import KalmanHeader.Header.Compose
import KalmanHeader.Header.Error
import KalmanHeader.Header.Layout
import KalmanHeader.Header.Names
import KalmanHeader.Header.Options
import KalmanHeader.Header.Output
import KalmanHeader.Header.Spec
import KalmanHeader.Json.Basic
import KalmanHeader.Json.Codec
import KalmanHeader.Json.Document
import KalmanHeader.Json.Fault
import KalmanHeader.Json.Layout
import KalmanHeader.Json.Numeral
import KalmanHeader.Json.Record
import KalmanHeader.Json.Token
import KalmanHeader.Model.Basic
import KalmanHeader.Model.Encoding
import KalmanHeader.Model.Header
import KalmanHeader.Model.Spec
import KalmanHeader.Number.Binary
import KalmanHeader.Number.Decimal
import KalmanHeader.Number.Layout
import KalmanHeader.Number.Scaling
import KalmanHeader.Number.Shortest
import KalmanHeader.Proofs.C.Identifier
import KalmanHeader.Proofs.C.Reparse
import KalmanHeader.Proofs.C.Text
import KalmanHeader.Proofs.C.Tokens
import KalmanHeader.Proofs.Calculus.Differentiation
import KalmanHeader.Proofs.Calculus.Dual
import KalmanHeader.Proofs.Calculus.Exact
import KalmanHeader.Proofs.Calculus.Simplification
import KalmanHeader.Proofs.Calculus.Stability
import KalmanHeader.Proofs.Calculus.Symbols
import KalmanHeader.Proofs.Constants.Resolution
import KalmanHeader.Proofs.Expr.Derivation
import KalmanHeader.Proofs.Expr.Grid
import KalmanHeader.Proofs.Expr.Parts
import KalmanHeader.Proofs.Expr.Spelling
import KalmanHeader.Proofs.Expr.SymbolSets
import KalmanHeader.Proofs.Header.Declarations
import KalmanHeader.Proofs.Header.Elements
import KalmanHeader.Proofs.Header.Lines
import KalmanHeader.Proofs.Header.Pieces
import KalmanHeader.Proofs.Header.ReadBack
import KalmanHeader.Proofs.Header.Reader
import KalmanHeader.Proofs.Header.References
import KalmanHeader.Proofs.Header.Success
import KalmanHeader.Proofs.Number.Double
import KalmanHeader.Proofs.Number.Numeral
import KalmanHeader.Proofs.Number.Rounding
import KalmanHeader.Proofs.Text.CharacterClass
import KalmanHeader.Text.CharacterClass
import KalmanHeader.Text.NameMap
import KalmanHeader.Text.NameSet
import KalmanHeader.Text.Quoted
import KalmanHeader.Text.Unseen
import KalmanHeader.Proofs.Constants.Meaning
import KalmanHeader.Proofs.Header.Arguments
import KalmanHeader.Proofs.Header.Scope
import KalmanHeader.Proofs.Expr.Language
import KalmanHeader.Proofs.Header.Supplied
import KalmanHeader.Proofs.Calculus.Renaming
import KalmanHeader.Proofs.Constants.Renaming
import KalmanHeader.Proofs.Header.Renaming
import KalmanHeader.Proofs.Header.Copies
import KalmanHeader.Proofs.Header.Substituted
import KalmanHeader.Proofs.Header.Acceptance
import KalmanHeader.Proofs.Disk.Entries
import KalmanHeader.Proofs.Disk.Replacement
import KalmanHeader.Proofs.Header.Output
import KalmanHeader.Proofs.Header.Banner
import KalmanHeader.Proofs.Calculus.Irreducibility
import KalmanHeader.Proofs.Calculus.Jacobian
import KalmanHeader.Proofs.Constants.Union
import KalmanHeader.Proofs.Number.Scaling
import KalmanHeader.Proofs.Json.Codec
import KalmanHeader.Proofs.Json.Finite
import KalmanHeader.Proofs.Json.Invariant
import KalmanHeader.Proofs.Json.Layout
import KalmanHeader.Proofs.Json.Spelling
import KalmanHeader.Proofs.Model.RoundTrip
import KalmanHeader.Proofs.Constants.Usage
import KalmanHeader.Proofs.Header.Flattening
import KalmanHeader.Proofs.Header.SuppliedRows
import KalmanHeader.Proofs.Expr.Writing
import KalmanHeader.Proofs.Expr.Shown
import KalmanHeader.Proofs.C.MinusSign
import KalmanHeader.Proofs.Model.FirstFault
import KalmanHeader.Proofs.Model.ConstantOrder
import KalmanHeader.Proofs.Expr.TokenWalk
import KalmanHeader.Proofs.Expr.ParserUse
import KalmanHeader.Proofs.Expr.Visits
import KalmanHeader.Proofs.Calculus.Growth
import KalmanHeader.Proofs.Header.IncludeGuard
