import TypedSql.SqlType.Join
import TypedSql.Table
import TypedSql.Text.Quoted

namespace TypedSql

inductive Literal
  | null
  | boolean (value : Bool)
  | integer (value : Int64)
  | real (value : Binary64)
  | string (value : String)
deriving DecidableEq

namespace Literal

/-- The narrowest type of the value. -/
def type : Literal → SqlType
  | null => .null
  | boolean _ => .boolean
  | integer n => .ofInteger n.toInt
  | real _ => .floating .double
  | string _ => .string

def text : Literal → String
  | null => "None"
  | boolean b => if b then "true" else "false"
  | integer n => toString n.toInt
  | real x => x.text
  | string s => Text.quoted s

end Literal

/-- One value, or one value for each row. -/
inductive Shape
  | scalar
  | column
deriving DecidableEq

namespace Shape

def text : Shape → String
  | scalar => "Scalar"
  | column => "Column"

/-- The shape of what is computed from values of these shapes row by row. -/
def broadcast (shapes : List Shape) : Shape := if column ∈ shapes then column else scalar

end Shape

/-- What a node computes. The arguments of `round` are a value and a number of digits, those of
`stringAgg` a value, a separator and perhaps a filter. -/
inductive Op
  | literal (value : Literal)
  | column (table : Table) (name : String)
  | cast (type : SqlType)
  | aliased (name : String)
  | abs
  | ceil
  | floor
  | sign
  | round
  | coalesce
  | greatest
  | least
  | stringAgg
  | add
  | subtract
  | multiply
  | divide
deriving DecidableEq

namespace Op

def name : Op → String
  | literal _ => "Literal"
  | column _ _ => "ColumnRef"
  | cast _ => "Cast"
  | aliased _ => "Alias"
  | abs => "Abs"
  | ceil => "Ceil"
  | floor => "Floor"
  | sign => "Sign"
  | round => "Round"
  | coalesce => "Coalesce"
  | greatest => "Greatest"
  | least => "Least"
  | stringAgg => "GroupConcat"
  | add => "Add"
  | subtract => "Subtract"
  | multiply => "Multiply"
  | divide => "Divide"

/-- Whether the operation makes one value out of the values of all rows. -/
def isReduction (op : Op) : Bool := op = stringAgg

def isArithmetic : Op → Bool
  | add | subtract | multiply | divide => true
  | _ => false

end Op

/-- A node, with `none` for an optional argument that is not given. -/
structure Expr where
  op : Op
  args : List (Option Expr)
  type : SqlType
  shape : Shape

namespace Expr

mutual

def decEq : (a b : Expr) → Decidable (a = b)
  | ⟨o, as, t, s⟩, ⟨p, bs, u, r⟩ =>
    if h : o = p ∧ t = u ∧ s = r then
      match decEqArgs as bs with
      | isTrue g => isTrue (by rw [h.1, h.2.1, h.2.2, g])
      | isFalse g => isFalse fun e => g (Expr.mk.inj e).2.1
    else isFalse fun e => h ⟨(Expr.mk.inj e).1, (Expr.mk.inj e).2.2⟩

def decEqArgs : (as bs : List (Option Expr)) → Decidable (as = bs)
  | [], [] => isTrue rfl
  | none :: as, none :: bs =>
    match decEqArgs as bs with
    | isTrue h => isTrue (by rw [h])
    | isFalse h => isFalse fun e => h (List.cons.inj e).2
  | some a :: as, some b :: bs =>
    match decEq a b with
    | isTrue h =>
      match decEqArgs as bs with
      | isTrue g => isTrue (by rw [h, g])
      | isFalse g => isFalse fun e => g (List.cons.inj e).2
    | isFalse h => isFalse fun e => h (Option.some.inj (List.cons.inj e).1)
  | [], _ :: _ => isFalse nofun
  | _ :: _, [] => isFalse nofun
  | none :: _, some _ :: _ => isFalse nofun
  | some _ :: _, none :: _ => isFalse nofun

end

instance : DecidableEq Expr := decEq

def ofLiteral (v : Literal) : Expr := ⟨.literal v, [], v.type, .scalar⟩

/-- The number of digits that means rounding to a whole number. -/
def zeroDigits : Literal := .integer 0

def ofColumn (t : Table) (c : Column) : Expr := ⟨.column t c.name, [], c.type, .column⟩

def family (e : Expr) : Family := e.type.family

/-- Family and shape in one word. -/
def classText (e : Expr) : String := e.family.text ++ e.shape.text

def literal? (e : Expr) : Option Literal :=
  match e.op with
  | .literal v => some v
  | _ => none

mutual

def nodeCount : Expr → Nat
  | ⟨_, args, _, _⟩ => 1 + nodeCounts args

def nodeCounts : List (Option Expr) → Nat
  | [] => 0
  | none :: args => nodeCounts args
  | some e :: args => nodeCount e + nodeCounts args

end

mutual

/-- The table of each column, from the root down and from left to right. -/
def columnTables : Expr → List Table
  | ⟨.column t _, args, _, _⟩ => t :: argTables args
  | ⟨_, args, _, _⟩ => argTables args

def argTables : List (Option Expr) → List Table
  | [] => []
  | none :: args => argTables args
  | some e :: args => columnTables e ++ argTables args

end

/-- The tables of the columns, each once, in the order in which they are first met. -/
def tables (e : Expr) : List Table := e.columnTables.eraseDups

end Expr

namespace Table

/-- The column of this name as an expression. -/
def column (t : Table) (name : String) : Except Error Expr :=
  match t.find? name with
  | some c => .ok (.ofColumn t c)
  | none => .error (.noSuchColumn t.name name)

def columnExprs (t : Table) : List Expr := t.columns.map (.ofColumn t)

end Table

namespace Expr

/-- What the text of an operation says after its arguments. -/
def parameterText : Op → String
  | .cast t => ", " ++ t.text
  | .aliased n => ", " ++ Text.quoted n
  | _ => ""

mutual

def text : Expr → String
  | ⟨.literal v, _, _, _⟩ => v.text
  | ⟨.column _ n, _, _, _⟩ => n
  | ⟨op, args, _, _⟩ => op.name ++ "(" ++ Error.commas (argTexts args) ++ parameterText op ++ ")"

def argTexts : List (Option Expr) → List String
  | [] => []
  | none :: args => argTexts args
  | some e :: args => text e :: argTexts args

end

/-- The alias, the name of the column, or the text of the tree. -/
def name (e : Expr) : String :=
  match e.op with
  | .aliased n => n
  | .column _ n => n
  | _ => e.text

/-- Fails with both texts unless the expressions are the same tree. -/
def requireEqual (a b : Expr) : Except Error Unit :=
  if a = b then .ok () else .error (.notEqual a.text b.text)

end Expr

end TypedSql
