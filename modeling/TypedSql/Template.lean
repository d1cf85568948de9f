import TypedSql.Expr
import TypedSql.Expr.Build

namespace TypedSql

mutual

/-- An expression written before the table is known. The row of the table to come, whose attributes
are columns, or a form with templates among its arguments. -/
inductive Template
  | row
  | attr (base : Template) (name : String)
  | call (form : Form Operand)

/-- What can stand in the argument place of a form. -/
inductive Operand
  | expr (e : Expr)
  | template (t : Template)
  | literal (v : Literal)

end

namespace Form

/-- The name under which the form is shown. -/
def callName {α : Type} : Form α → String
  | unary op _ | variadic op _ | binary op _ _ => op.functionName
  | round _ _ => "round"
  | stringAgg _ _ _ => "group_concat"
  | cast _ _ => "cast"
  | aliased _ _ => "name"

/-- What the text of the form says after its arguments. -/
def parameterTexts {α : Type} : Form α → List String
  | cast _ t => [t.text]
  | _ => []

end Form

mutual

def Template.text : Template → String
  | .row => "_"
  | .attr base n => base.text ++ "." ++ n
  | .call f => f.callName ++ "(" ++ Error.commas (formTexts f ++ f.parameterTexts) ++ ")"

def Operand.text : Operand → String
  | .expr e => e.text
  | .template t => t.text
  | .literal v => v.text

def formTexts : Form Operand → List String
  | .unary _ a => [a.text]
  | .round a d => a.text :: optionTexts d
  | .variadic _ as => listTexts as
  | .stringAgg a s f => a.text :: optionTexts s ++ optionTexts f
  | .cast a _ => [a.text]
  | .binary _ l r => [l.text, r.text]
  | .aliased a _ => [a.text]

def optionTexts : Option Operand → List String
  | none => []
  | some a => [a.text]

def listTexts : List Operand → List String
  | [] => []
  | a :: as => a.text :: listTexts as

end

mutual

/-- The expression that the template stands for in `t`. -/
def Template.resolve (t : Table) : Template → Except Error Expr
  | .row => .error (.unresolved "the bare placeholder")
  | .attr .row n => t.column n
  | .attr base n => .error (.unresolved ("attribute '" ++ n ++ "' of " ++ base.text))
  | .call f => do (← resolveForm t f).build

def Operand.resolve (t : Table) : Operand → Except Error Expr
  | .expr e => .ok e
  | .template p => p.resolve t
  | .literal v => .ok (.ofLiteral v)

def resolveForm (t : Table) : Form Operand → Except Error (Form Expr)
  | .unary op a => do return .unary op (← a.resolve t)
  | .round a d => do return .round (← a.resolve t) (← resolveOption t d)
  | .variadic op as => do return .variadic op (← resolveList t as)
  | .stringAgg a s f => do
    return .stringAgg (← a.resolve t) (← resolveOption t s) (← resolveOption t f)
  | .cast a type => do return .cast (← a.resolve t) type
  | .binary op l r => do return .binary op (← l.resolve t) (← r.resolve t)
  | .aliased a n => do return .aliased (← a.resolve t) n

def resolveOption (t : Table) : Option Operand → Except Error (Option Expr)
  | none => .ok none
  | some a => (a.resolve t).map some

def resolveList (t : Table) : List Operand → Except Error (List Expr)
  | [] => .ok []
  | a :: as => do return (← a.resolve t) :: (← resolveList t as)

end

theorem resolveOption_eq (t : Table) (a : Option Operand) :
    resolveOption t a = Form.bindOption (Operand.resolve t) a := by
  cases a <;> rfl

theorem resolveList_eq (t : Table) (as : List Operand) :
    resolveList t as = as.mapM (Operand.resolve t) := by
  induction as with
  | nil => rfl
  | cons a as ih => simp only [resolveList, ih, List.mapM_cons]

/-- Resolving a form is resolving its arguments from left to right. -/
theorem resolveForm_eq (t : Table) (f : Form Operand) :
    resolveForm t f = f.bindArgs (Operand.resolve t) := by
  cases f <;> simp only [resolveForm, Form.bindArgs, resolveOption_eq, resolveList_eq]

namespace Template

/-- An attribute of the row. -/
def col (name : String) : Template := attr row name

end Template

namespace Operand

def isTemplate : Operand → Bool
  | template _ => true
  | _ => false

/-- The expression itself; a template has none. -/
def bind : Operand → Except Error Expr
  | expr e => .ok e
  | template t => .error (.unresolved t.text)
  | literal v => .ok (.ofLiteral v)

end Operand

/-- Whether no argument is a template. -/
def Form.isBound (f : Form Operand) : Bool := f.operands.all fun a => !a.isTemplate

end TypedSql
