import TypedSql.Template.Equality

namespace TypedSql

inductive Draft
  | bound (e : Expr)
  | template (t : Template)
deriving DecidableEq

namespace Draft

/-- Without a template among its arguments the form is built at once. -/
def ofForm (f : Form Operand) : Except Error Draft :=
  if f.isBound then do return bound (← (← f.bindArgs Operand.bind).build)
  else .ok (template (.call f))

def isBound : Draft → Bool
  | bound _ => true
  | template _ => false

def toExpr : Draft → Except Error Expr
  | bound e => .ok e
  | template t => .error (.unresolved t.text)

def toOperand : Draft → Operand
  | bound e => .expr e
  | template t => .template t

def resolve (table : Table) : Draft → Except Error Expr
  | bound e => .ok e
  | template t => t.resolve table

def text : Draft → String
  | bound e => e.text
  | template t => t.text

/-- A function of at least one argument. -/
def variadic (op : Op) (args : List Operand) : Except Error Draft :=
  if args.isEmpty then .error (.missingArguments op.functionName 1)
  else ofForm (.variadic op args)

/-- The first argument that is not null. -/
def coalesce (args : List Operand) : Except Error Draft := variadic .coalesce args

/-- The largest argument. -/
def greatest (args : List Operand) : Except Error Draft := variadic .greatest args

/-- The smallest argument. -/
def least (args : List Operand) : Except Error Draft := variadic .least args

end Draft

/-- The operations on one receiver. An expression, a template and a draft have the same ones. -/
inductive Method (α : Type)
  | abs
  | ceil
  | floor
  | sign
  | round (digits : Option α)
  | fillNull (value : α)
  | coalesce (others : List α)
  | stringAgg (separator filter : Option α)
  | castTo (type : SqlType)
  | add (other : α)
  | subtract (other : α)
  | multiply (other : α)
  | divide (other : α)
  | aliased (name : String)

namespace Method

/-- The form in which the method puts its receiver. -/
def form {α : Type} (receiver : α) : Method α → Form α
  | abs => .unary .abs receiver
  | ceil => .unary .ceil receiver
  | floor => .unary .floor receiver
  | sign => .unary .sign receiver
  | round d => .round receiver d
  | fillNull v => .variadic .coalesce [receiver, v]
  | coalesce as => .variadic .coalesce (receiver :: as)
  | stringAgg s f => .stringAgg receiver s f
  | castTo t => .cast receiver t
  | add a => .binary .add receiver a
  | subtract a => .binary .subtract receiver a
  | multiply a => .binary .multiply receiver a
  | divide a => .binary .divide receiver a
  | aliased n => .aliased receiver n

/-- A cast to the type of a specification. -/
def castToSpec {α : Type} (spec : String) : Except Error (Method α) := do
  return castTo (← SqlType.ofSpec {} spec)

end Method

def Draft.call (d : Draft) (m : Method Operand) : Except Error Draft := ofForm (m.form d.toOperand)

/-- What has no argument is built at once; with arguments, a template among them is a failure. -/
def Expr.call (e : Expr) (m : Method Operand) : Except Error Expr :=
  match m with
  | .abs => unary .abs e
  | .ceil => unary .ceil e
  | .floor => unary .floor e
  | .sign => unary .sign e
  | .castTo t => e.cast t
  | .aliased n => .ok (e.aliased n)
  | m => do (← Draft.ofForm (m.form (.expr e))).toExpr

def Template.record (t : Template) (m : Method Operand) : Template :=
  .call (m.form (.template t))

end TypedSql
