import TypedSql.Expr

namespace TypedSql

/-- The forms in which expressions are built. What stands in the argument places can be an
expression or anything that becomes one. -/
inductive Form (α : Type)
  | unary (op : Op) (arg : α)
  | round (arg : α) (digits : Option α)
  | variadic (op : Op) (args : List α)
  | stringAgg (arg : α) (separator filter : Option α)
  | cast (arg : α) (type : SqlType)
  | binary (op : Op) (left right : α)
  | aliased (arg : α) (name : String)

namespace Form

/-- The arguments given, in their order. -/
def operands {α : Type} : Form α → List α
  | unary _ a => [a]
  | round a d => a :: d.toList
  | variadic _ as => as
  | stringAgg a s f => a :: s.toList ++ f.toList
  | cast a _ => [a]
  | binary _ l r => [l, r]
  | aliased a _ => [a]

def bindOption {α β : Type} (f : α → Except Error β) : Option α → Except Error (Option β)
  | none => .ok none
  | some a => (f a).map some

/-- The form with `f` of each argument, or the first failure of `f` from left to right. -/
def bindArgs {α β : Type} (f : α → Except Error β) : Form α → Except Error (Form β)
  | unary op a => do return unary op (← f a)
  | round a d => do return round (← f a) (← bindOption f d)
  | variadic op as => do return variadic op (← as.mapM f)
  | stringAgg a s p => do return stringAgg (← f a) (← bindOption f s) (← bindOption f p)
  | cast a t => do return cast (← f a) t
  | binary op l r => do return binary op (← f l) (← f r)
  | aliased a n => do return aliased (← f a) n

end Form

namespace Op

/-- The name of the operation as a function. -/
def functionName (op : Op) : String := op.name.toLower

end Op

namespace Expr

/-- Rounding to a whole number gives a 64-bit integer, except that decimals stay what they are. -/
def wholeType (t : SqlType) : SqlType := if t.isDecimal then t else .integer .w64

def unary (op : Op) (a : Expr) : Except Error Expr :=
  let mismatch := .error (.typeMismatch op.name [a.type])
  if !a.type.isNumeric then mismatch
  else
    match op with
    | .abs | .sign => .ok ⟨op, [some a], a.type, a.shape⟩
    | .ceil | .floor => .ok ⟨op, [some a], wholeType a.type, a.shape⟩
    | _ => mismatch

def roundType (arg : SqlType) (digits : Expr) : SqlType :=
  if arg.isDecimal ∨ digits.literal? = some zeroDigits then wholeType arg else .floating .double

/-- Rounds to a whole number unless `digits` are given. -/
def round (a : Expr) (digits : Option Expr) : Except Error Expr :=
  if !a.type.isNumeric then .error (.typeMismatch Op.round.name [a.type])
  else
    let d := digits.getD (.ofLiteral zeroDigits)
    if !d.type.isInteger then .error (.typeMismatch Op.round.name [a.type, d.type])
    else
      .ok ⟨.round, [some a, some d], roundType a.type d, .broadcast [a.shape, d.shape]⟩

def variadic (op : Op) (as : List Expr) : Except Error Expr :=
  if as.isEmpty then .error (.missingArguments op.functionName 1)
  else do
    let type ← SqlType.joinAll op.name (as.map Expr.type)
    return ⟨op, as.map some, type, .broadcast (as.map Expr.shape)⟩

/-- The separator that stands between strings unless another is given. -/
def comma : Literal := .string ","

def stringAgg (a : Expr) (separator filter : Option Expr) : Except Error Expr :=
  let s := separator.getD (.ofLiteral comma)
  if a.family = .string ∧ s.family = .string ∧ ∀ f ∈ filter, f.family = .boolean then
    .ok ⟨.stringAgg, [some a, some s, filter], .string, .scalar⟩
  else
    .error (.typeMismatch Op.stringAgg.name (a.type :: s.type :: (filter.map Expr.type).toList))

/-- A cast to the type that the expression has is the expression. -/
def cast (a : Expr) (type : SqlType) : Except Error Expr := do
  let t ← type.checked
  if t = .null then .error (.typeMismatch (Op.cast t).name [a.type, t])
  else if a.type = t then .ok a
  else .ok ⟨.cast t, [some a], t, a.shape⟩

/-- Division gives a double unless a decimal takes part. -/
def arithmeticType (op : Op) (joined : SqlType) : SqlType :=
  if op = .divide ∧ !joined.isDecimal then .floating .double else joined

def isOperand (t : SqlType) : Bool := t.isNumeric || t = .null

def binary (op : Op) (l r : Expr) : Except Error Expr :=
  let mismatch := .error (.typeMismatch op.name [l.type, r.type])
  if !isOperand l.type || !isOperand r.type then mismatch
  else
    match l.type.join r.type with
    | some t => .ok ⟨op, [some l, some r], arithmeticType op t, .broadcast [l.shape, r.shape]⟩
    | none => mismatch

def aliased (a : Expr) (name : String) : Expr := ⟨.aliased name, [some a], a.type, a.shape⟩

end Expr

/-- The expression of a form. -/
def Form.build : Form Expr → Except Error Expr
  | unary op a => Expr.unary op a
  | round a d => Expr.round a d
  | variadic op as => Expr.variadic op as
  | stringAgg a s f => Expr.stringAgg a s f
  | cast a t => Expr.cast a t
  | binary op l r => Expr.binary op l r
  | aliased a n => .ok (Expr.aliased a n)

end TypedSql
