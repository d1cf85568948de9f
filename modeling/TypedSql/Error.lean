import TypedSql.Binary64
import TypedSql.SqlType

namespace TypedSql

/-- What is wrong with a type specification. -/
inductive SpecFault
  | empty
  | unknownName
  | malformedDecimal
  | parameterRange
  | precisionRange
  | scaleAbovePrecision
deriving DecidableEq

def SpecFault.text : SpecFault → String
  | empty => "empty type specification"
  | unknownName => "unknown type name"
  | malformedDecimal => "expected decimal(precision, scale)"
  | parameterRange => "decimal parameter out of range"
  | precisionRange => "decimal precision must be between 1 and 38"
  | scaleAbovePrecision => "decimal scale cannot exceed precision"

/-- Why an expression has no SQL. -/
inductive RenderFault
  | nonFinite (value : Binary64)
  | missingArgument (operation : String) (index : Nat)
deriving DecidableEq

def RenderFault.text : RenderFault → String
  | nonFinite x => "float literal " ++ x.text ++ " has no SQL representation"
  | missingArgument operation i => operation ++ " is missing argument " ++ toString i

inductive Error
  | badSpec (spec : String) (fault : SpecFault)
  | typeMismatch (operation : String) (types : List SqlType)
  | missingArguments (function : String) (missing : Nat)
  | unknownDialect (name : String) (available : List String)
  | noSuchColumn (table column : String)
  | duplicateColumn (table column : String)
  | unresolved (operation : String)
  | multipleTables (tables : List String)
  | unrenderable (fault : RenderFault)
  | notEqual (left right : String)
  | nonFiniteToken (value : Binary64)
deriving DecidableEq

namespace Error

def commas (items : List String) : String := String.intercalate ", " items

/-- The message for a type specification and the reason against it. -/
def specMessage (spec reason : String) : String :=
  "Cannot parse type '" ++ spec ++ "': " ++ reason

def message : Error → String
  | badSpec spec fault => specMessage spec fault.text
  | typeMismatch operation types =>
    operation ++ ": incompatible types " ++ commas (types.map SqlType.text)
  | missingArguments function n =>
    function ++ "() missing " ++ toString n ++ " required positional argument"
      ++ if n = 1 then "" else "s"
  | unknownDialect name available =>
    "Unknown dialect '" ++ name ++ "'. Available: " ++ commas available
  | noSuchColumn table column => "Table '" ++ table ++ "' has no column '" ++ column ++ "'"
  | duplicateColumn table column =>
    "Table '" ++ table ++ "' defines column '" ++ column ++ "' more than once"
  | unresolved operation =>
    operation ++ " cannot be used before it is resolved against a table"
  | multipleTables tables =>
    "Expression references columns from more than one table: " ++ commas tables
  | unrenderable fault => "Cannot render expression to SQL: " ++ fault.text
  | notEqual left right =>
    "Expressions are not structurally equal:\n  left:  " ++ left ++ "\n  right: " ++ right
  | nonFiniteToken x => "Cannot serialize non-finite float " ++ x.text ++ " to SQL"

end Error

end TypedSql
