import TypedSql.Dialect
import TypedSql.Expr

namespace TypedSql

structure SelectItem where
  tokens : Tokens
  aliasName : Option String := none
deriving DecidableEq

structure Query where
  select : List SelectItem := []
  source : Option String := none
  /-- Each item and each clause on a line of its own. -/
  pretty : Bool := true
deriving DecidableEq

def SelectItem.withAlias (i : SelectItem) : Tokens :=
  i.tokens ++ i.aliasName.elim [] fun a => [Tokens.space, .keyword .AS, Tokens.space, .ident a]

namespace Query

def star : List SelectItem := [⟨[.symbol .star], none⟩]

/-- What stands before a clause. -/
def clauseGap (pretty : Bool) : Tokens := [.gap (if pretty then .newline else .space)]

/-- What stands before an item. -/
def itemGap (pretty : Bool) : Tokens :=
  clauseGap pretty ++ if pretty then [.gap (.indent 1)] else []

def items (q : Query) : List Tokens := q.select.map fun i => itemGap q.pretty ++ i.withAlias

def fromClause (q : Query) : Tokens :=
  q.source.elim [] fun table =>
    clauseGap q.pretty ++ [.keyword .FROM, Tokens.space, .ident table]

def tokens (q : Query) : Tokens :=
  .keyword .SELECT :: List.intercalate [.symbol .comma] q.items ++ q.fromClause

def sql (q : Query) (d : Dialect) : Except Error String := q.tokens.render d

end Query

namespace Compile

/-- An argument with its tokens, or the reason why it has none. -/
structure Part where
  expr : Expr
  tokens : Except Error Tokens

/-- The argument in one place. -/
def arg (op : Op) (parts : List (Option Part)) (i : Nat) : Except Error Part :=
  match parts[i]? with
  | some (some p) => .ok p
  | _ => .error (.unrenderable (.missingArgument op.name i))

def literal : Literal → Except Error Tokens
  | .null => .ok [.null]
  | .boolean b => .ok [.boolean b]
  | .integer n => .ok [.integer n]
  | .real x => if x.isFinite then .ok [.real x] else .error (.unrenderable (.nonFinite x))
  | .string s => .ok [.string s]

def castTo (d : Dialect) (t : SqlType) (ts : Tokens) : Tokens := .castAs (d.typeName t) ts

/-- Engines round a value to its own family; a cast gives it the family of `type`. -/
def settle (d : Dialect) (type argType : SqlType) (ts : Tokens) : Tokens :=
  if argType.family = type.family then ts else castTo d type ts

/-- The function of the operation with one argument. -/
def call1 (op : Op) (ts : Tokens) : Tokens := .call op.name [ts]

def rounded (d : Dialect) (type : SqlType) (value digits : Part) : Except Error Tokens :=
  if digits.expr.literal? = some Expr.zeroDigits ∧ !d.rules.roundNeedsDigits then do
    return settle d type value.expr.type (.call "round" [← value.tokens])
  else do
    let n ← digits.tokens
    let v ← value.tokens
    if d.rules.digitsNeedDecimal ∧ !value.expr.type.isDecimal then
      return castTo d type (.call "round" [.castAs "NUMERIC" v, n])
    else
      return settle d type value.expr.type (.call "round" [v, n])

/-- An engine without a `FILTER` clause is given nulls for the rows that the filter leaves out. -/
def aggregated (d : Dialect) (value separator : Tokens) : Option Tokens → Tokens
  | none => d.stringAgg value separator
  | some f =>
    let c := d.condition f
    if d.rules.aggregateFilter then d.stringAgg value separator ++ .filterClause c
    else d.stringAgg (.whenTrue c value) separator

/-- Arithmetic inside arithmetic stands in parentheses. -/
def operand (p : Part) : Except Error Tokens := do
  let ts ← p.tokens
  return if p.expr.op.isArithmetic then .parens ts else ts

def operator : Op → Symbol
  | .add => .plus
  | .subtract => .minus
  | .multiply => .times
  | _ => .dividedBy

/-- A division that is to give a fraction must not be one of integers. -/
def needsDouble (d : Dialect) (op : Op) (type : SqlType) (l r : Expr) : Bool :=
  op = .divide && type.isFloating && !l.type.isFloating && !r.type.isFloating
    && d.rules.integerDivision

def arithmetic (d : Dialect) (op : Op) (type : SqlType) (l r : Part) : Except Error Tokens := do
  let x ← operand l
  let y ← operand r
  let x := if needsDouble d op type l.expr r.expr then castTo d (.floating .double) x else x
  return .infixed (operator op) x y

/-- The tokens of the arguments that are given. -/
def given (parts : List (Option Part)) : Except Error (List Tokens) :=
  (parts.filterMap fun p => p).mapM Part.tokens

/-- The tokens of a node, from those of its arguments. -/
def node (d : Dialect) (op : Op) (type : SqlType) (parts : List (Option Part)) :
    Except Error Tokens :=
  match op with
  | .literal v => literal v
  | .column _ n => .ok [.ident n]
  | .aliased _ => do (← arg op parts 0).tokens
  | .cast t => do return castTo d t (← (← arg op parts 0).tokens)
  | .abs | .sign => do return call1 op (← (← arg op parts 0).tokens)
  | .ceil | .floor => do
    let a ← arg op parts 0
    return settle d type a.expr.type (call1 op (← a.tokens))
  | .round => do rounded d type (← arg op parts 0) (← arg op parts 1)
  | .coalesce | .greatest | .least => do return .call op.name (← given parts)
  | .stringAgg => do
    let value ← (← arg op parts 0).tokens
    let separator ← (← arg op parts 1).tokens
    match parts[2]? with
    | some (some f) => return aggregated d value separator (some (← f.tokens))
    | _ => return aggregated d value separator none
  | .add | .subtract | .multiply | .divide => do
    arithmetic d op type (← arg op parts 0) (← arg op parts 1)

end Compile

open Compile

mutual

def Expr.tokens (d : Dialect) : Expr → Except Error Tokens
  | ⟨op, args, type, _⟩ => node d op type (argParts d args)

def argParts (d : Dialect) : List (Option Expr) → List (Option Part)
  | [] => []
  | none :: args => none :: argParts d args
  | some e :: args => some ⟨e, e.tokens d⟩ :: argParts d args

end

/-- An expression as SQL without a `SELECT`. -/
def Expr.sql (d : Dialect) (e : Expr) : Except Error String := do (← e.tokens d).render d

/-- What can be selected. -/
inductive Target
  | table (t : Table)
  | expr (e : Expr)

/-- A column keeps its name; every other expression is given one. -/
def Expr.selectAlias (e : Expr) : Option String :=
  match e.op with
  | .column _ _ => none
  | _ => some e.name

/-- The query of one expression, over the table of its columns. -/
def Expr.query (d : Dialect) (e : Expr) : Except Error Query :=
  match e.tables with
  | t :: u :: ts => .error (.multipleTables ((t :: u :: ts).map Table.name))
  | ts => do
    return { select := [⟨← e.tokens d, e.selectAlias⟩], source := ts.head?.map Table.name }

structure CompileOptions where
  dialect : Dialect := .standard
  pretty : Bool := true
deriving DecidableEq

namespace Target

def query (d : Dialect) : Target → Except Error Query
  | table t => .ok { select := Query.star, source := some t.name }
  | expr e => e.query d

def compile (options : CompileOptions) (target : Target) : Except Error String := do
  let q ← target.query options.dialect
  { q with pretty := options.pretty }.sql options.dialect

/-- SQL in the dialect of this name. -/
def compileFor (name : String) (target : Target) : Except Error String := do
  target.compile { dialect := ← Dialect.ofName name }

end Target

end TypedSql
