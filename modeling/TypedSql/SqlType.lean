namespace TypedSql

inductive IntWidth
  | w8
  | w16
  | w32
  | w64
deriving DecidableEq

namespace IntWidth

def bits : IntWidth → Nat
  | w8 => 8
  | w16 => 16
  | w32 => 32
  | w64 => 64

/-- Decimal digits of the values that need the most. -/
def digits : IntWidth → Nat
  | w8 => 3
  | w16 => 5
  | w32 => 10
  | w64 => 19

def max (v w : IntWidth) : IntWidth := if w.bits ≤ v.bits then v else w

/-- Two's-complement numbers of this width. -/
def Holds (w : IntWidth) (n : Int) : Prop :=
  -Int.pow 2 (w.bits - 1) ≤ n ∧ n < Int.pow 2 (w.bits - 1)

instance (w : IntWidth) (n : Int) : Decidable (w.Holds n) :=
  inferInstanceAs (Decidable (_ ∧ _))

end IntWidth

inductive FloatWidth
  | single
  | double
deriving DecidableEq

namespace FloatWidth

def bits : FloatWidth → Nat
  | single => 32
  | double => 64

def max : FloatWidth → FloatWidth → FloatWidth
  | single, w => w
  | double, _ => double

end FloatWidth

/-- Types of values; `null` is that of the untyped null literal. A decimal has `precision` digits in
all, `scale` of them after the point. -/
inductive SqlType
  | null
  | boolean
  | integer (width : IntWidth)
  | floating (width : FloatWidth)
  | decimal (precision scale : Nat)
  | string
deriving DecidableEq

/-- Types whose values are of one kind, whatever their width or precision. -/
inductive Family
  | null
  | boolean
  | integer
  | floating
  | decimal
  | string
deriving DecidableEq

def Family.text : Family → String
  | null => "Null"
  | boolean => "Boolean"
  | integer => "Integer"
  | floating => "Floating"
  | decimal => "Decimal"
  | string => "String"

namespace SqlType

def family : SqlType → Family
  | null => .null
  | boolean => .boolean
  | integer _ => .integer
  | floating _ => .floating
  | decimal _ _ => .decimal
  | string => .string

def isInteger (t : SqlType) : Bool := t.family = .integer

def isFloating (t : SqlType) : Bool := t.family = .floating

def isDecimal (t : SqlType) : Bool := t.family = .decimal

def isNumeric (t : SqlType) : Bool := t.isInteger || t.isFloating || t.isDecimal

/-- Bits of the types that have a fixed number of them. -/
def width? : SqlType → Option Nat
  | integer w => some w.bits
  | floating w => some w.bits
  | _ => none

def text : SqlType → String
  | null => "null"
  | boolean => "boolean"
  | integer w => "int" ++ toString w.bits
  | floating w => "float" ++ toString w.bits
  | decimal p s => "decimal(" ++ toString p ++ ", " ++ toString s ++ ")"
  | string => "string"

/-- The most digits that a decimal type may have. -/
def maxPrecision : Nat := 38

/-- Decimals with one to `maxPrecision` digits, of which the scale counts some; any other type. -/
def Valid : SqlType → Prop
  | decimal p s => 1 ≤ p ∧ p ≤ maxPrecision ∧ s ≤ p
  | _ => True

instance (t : SqlType) : Decidable t.Valid := by
  cases t <;> unfold Valid <;> infer_instance

end SqlType

end TypedSql
