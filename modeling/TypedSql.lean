import TypedSql.Binary64
import TypedSql.Expr.Build
import TypedSql.Expr
import TypedSql.Compile
import TypedSql.Method
import TypedSql.SqlType.Join
import TypedSql.SqlType.Spec
import TypedSql.Document
import TypedSql.Text.CharSet
import TypedSql.Text.Case
import TypedSql.Text.Quoted
import TypedSql.Settings
import TypedSql.Proofs.Construction
import TypedSql.Proofs.Resolution
import TypedSql.Proofs.Regular
import TypedSql.Proofs.Grammar
import TypedSql.Proofs.Nodes
import TypedSql.Proofs.Parsing
import TypedSql.Proofs.Naming
import TypedSql.Proofs.Scanner
import TypedSql.Proofs.Quoting
import TypedSql.Proofs.Promotion
import TypedSql.Proofs.Trees
import TypedSql.Proofs.Failures
import TypedSql.Proofs.Structural
import TypedSql.Proofs.Shapes
import TypedSql.Proofs.ValidTypes
import TypedSql.Proofs.Calls
import TypedSql.Proofs.Families
import TypedSql.Proofs.Aggregates
import TypedSql.Proofs.Chains
import TypedSql.Proofs.FilteredAggregates
import TypedSql.Proofs.Statements
import TypedSql.Proofs.Independence
import TypedSql.Proofs.Specifications
import TypedSql.Proofs.Capacity
import TypedSql.Proofs.Layout
import TypedSql.Proofs.Tables
import TypedSql.Proofs.Names
import TypedSql.Proofs.Loading
