import ScalarSql.Analysis.Error
import ScalarSql.Analysis.Functions
import ScalarSql.Analysis.Limits
import ScalarSql.Analysis.Walk
import ScalarSql.Catalog.Basic
import ScalarSql.Catalog.Table
import ScalarSql.DataType
import ScalarSql.Decimal.Layout
import ScalarSql.Decimal.Shortest
import ScalarSql.Double
import ScalarSql.Expr.Basic
import ScalarSql.Expr.Build
import ScalarSql.Expr.Debug
import ScalarSql.Expr.Key
import ScalarSql.Expr.Rewrite
import ScalarSql.Expr.Search
import ScalarSql.Expr.Sql
import ScalarSql.Ident
import ScalarSql.Interchange
import ScalarSql.Json.Basic
import ScalarSql.Json.Quoted
import ScalarSql.Json.Reader
import ScalarSql.Literal
import ScalarSql.Operator
import ScalarSql.OrderItem
import ScalarSql.Scope.Basic
import ScalarSql.Scope.Debug
import ScalarSql.Scope.Growth
import ScalarSql.Scope.Names
import ScalarSql.Scope.Pool
import ScalarSql.Text.AsciiCase
import ScalarSql.Text.CaseTables
import ScalarSql.Text.LowerCase
import ScalarSql.Text.Quoted
import ScalarSql.Proofs.Analysis.Agreement
import ScalarSql.Proofs.Analysis.Analyzed
import ScalarSql.Proofs.Analysis.Calls
import ScalarSql.Proofs.Analysis.Congruence
import ScalarSql.Proofs.Analysis.Expansion
import ScalarSql.Proofs.Analysis.Failure
import ScalarSql.Proofs.Analysis.Flip
import ScalarSql.Proofs.Analysis.Materialize
import ScalarSql.Proofs.Analysis.Obtained
import ScalarSql.Proofs.Analysis.Raised
import ScalarSql.Proofs.Analysis.StandIns
import ScalarSql.Proofs.Analysis.Substitute
import ScalarSql.Proofs.Analysis.Success
import ScalarSql.Proofs.Analysis.WellTyped
import ScalarSql.Proofs.Catalog.Runs
import ScalarSql.Proofs.Catalog.Table
import ScalarSql.Proofs.Key.Bytes
import ScalarSql.Proofs.Key.Faithful
import ScalarSql.Proofs.Scope.Conservative
import ScalarSql.Proofs.Scope.Consistent
import ScalarSql.Proofs.Scope.Extension
import ScalarSql.Proofs.Scope.Growth
import ScalarSql.Proofs.Scope.Materialize
import ScalarSql.Proofs.Scope.Numbering
import ScalarSql.Proofs.Scope.Ownership
import ScalarSql.Proofs.Scope.Requests
import ScalarSql.Proofs.Scope.Resolution
import ScalarSql.Proofs.Scope.Runs
import ScalarSql.Proofs.Scope.Unqualified
import ScalarSql.Proofs.Sql.Layout
import ScalarSql.Proofs.Sql.Readable
import ScalarSql.Proofs.Sql.Spelling
import ScalarSql.Proofs.Sql.Unambiguous
import ScalarSql.Proofs.Text.ByteOrder
import ScalarSql.Proofs.Text.Words
import ScalarSql.Proofs.Tree.Binding
import ScalarSql.Proofs.Tree.Built
import ScalarSql.Proofs.Tree.Composition
import ScalarSql.Proofs.Tree.Congruence
import ScalarSql.Proofs.Tree.Equality
import ScalarSql.Proofs.Tree.Exchange
import ScalarSql.Proofs.Tree.Flip
import ScalarSql.Proofs.Tree.Meaning
import ScalarSql.Proofs.Tree.Nodes
import ScalarSql.Proofs.Tree.Outermost
import ScalarSql.Proofs.Tree.Precedence
import ScalarSql.Proofs.Tree.References
import ScalarSql.Proofs.Tree.Renaming
import ScalarSql.Proofs.Tree.Rewriting
import ScalarSql.Proofs.Tree.Searches
import ScalarSql.Proofs.Tree.Visits
import ScalarSql.Proofs.Typing.Classes
import ScalarSql.Proofs.Typing.LeastCommon
import ScalarSql.Proofs.Typing.Rules
import ScalarSql.Proofs.Typing.Widening
