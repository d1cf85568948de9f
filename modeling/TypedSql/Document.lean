import TypedSql.SqlType

namespace TypedSql

/-- Of a number with a point, and of a date or time, only the kind is kept. What is written like a
number may have no value, or one that is out of range. -/
inductive Document
  | null
  | boolean (value : Bool)
  | integer (value : Int)
  | real
  | badNumber
  | string (value : String)
  | moment
  | list (items : List Document)
  | table (entries : List (String × Document))
deriving Inhabited

namespace Document

def string? : Document → Option String
  | string s => some s
  | _ => none

def boolean? : Document → Option Bool
  | boolean b => some b
  | _ => none

/-- A number from 0 to 255. -/
def byte? : Document → Option Nat
  | integer n => if 0 ≤ n ∧ n ≤ 255 then some n.toNat else none
  | _ => none

mutual

/-- Whether every number in it has a value. -/
def isReadable : Document → Bool
  | badNumber => false
  | list ds => allReadable ds
  | table es => entriesReadable es
  | _ => true

def allReadable : List Document → Bool
  | [] => true
  | d :: ds => d.isReadable && allReadable ds

def entriesReadable : List (String × Document) → Bool
  | [] => true
  | (_, d) :: es => d.isReadable && entriesReadable es

end

end Document

namespace SqlType

def tags : List (String × SqlType) :=
  [("Null", null), ("Boolean", boolean), ("Int8", integer .w8), ("Int16", integer .w16),
    ("Int32", integer .w32), ("Int64", integer .w64), ("Float32", floating .single),
    ("Float64", floating .double), ("String", string)]

def ofTag? (tag : String) : Option SqlType := tags.lookup tag

def decimalTag : String := "Decimal"

/-- The tag of a type without parameters. -/
def tag? (t : SqlType) : Option String := (tags.find? fun e => e.2 = t).map Prod.fst

def toDocument (t : SqlType) : Document :=
  match t with
  | decimal p s =>
    .table [(decimalTag, .table [("precision", .integer p), ("scale", .integer s)])]
  | t => t.tag?.elim .null .string

/-- The parameters of a decimal, by name; both are needed. -/
def ofParameterDocument? : Document → Option SqlType
  | .table es => do
    return decimal (← (← es.lookup "precision").byte?) (← (← es.lookup "scale").byte?)
  | _ => none

/-- A tag without parameters may also stand as a key with nothing behind it. -/
def ofDocument? : Document → Option SqlType
  | .string tag => ofTag? tag
  | .table [(tag, d)] =>
    if tag = decimalTag then ofParameterDocument? d
    else
      match d with
      | .null => ofTag? tag
      | _ => none
  | _ => none

end SqlType

end TypedSql
