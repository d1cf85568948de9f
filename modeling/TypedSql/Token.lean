import TypedSql.Binary64

namespace TypedSql

inductive Keyword
  | SELECT
  | FROM
  | WHERE
  | AS
  | CASE
  | WHEN
  | THEN
  | ELSE
  | END
  | CAST
  | FILTER
  | SEPARATOR
deriving DecidableEq

def Keyword.text : Keyword → String
  | SELECT => "SELECT"
  | FROM => "FROM"
  | WHERE => "WHERE"
  | AS => "AS"
  | CASE => "CASE"
  | WHEN => "WHEN"
  | THEN => "THEN"
  | ELSE => "ELSE"
  | END => "END"
  | CAST => "CAST"
  | FILTER => "FILTER"
  | SEPARATOR => "SEPARATOR"

inductive Symbol
  | comma
  | star
  | lparen
  | rparen
  | plus
  | minus
  | times
  | dividedBy
  | equals
deriving DecidableEq

def Symbol.text : Symbol → String
  | comma => ","
  | star => "*"
  | lparen => "("
  | rparen => ")"
  | plus => "+"
  | minus => "-"
  | times => "*"
  | dividedBy => "/"
  | equals => "="

/-- What stands between tokens for the reader alone. -/
inductive Gap
  | space
  | newline
  | indent (levels : Nat)
deriving DecidableEq

def Gap.text : Gap → String
  | space => " "
  | newline => "\n"
  | indent n => String.join (List.replicate n "  ")

/-- Identifiers and strings are held without their quotes, functions under a name that a dialect may
spell differently, types under the name that the dialect gives them. -/
inductive Token
  | keyword (k : Keyword)
  | symbol (s : Symbol)
  | gap (g : Gap)
  | ident (name : String)
  | integer (value : Int64)
  | real (value : Binary64)
  | string (value : String)
  | boolean (value : Bool)
  | null
  | function (name : String)
  | typeName (name : String)
deriving DecidableEq

abbrev Tokens := List Token

namespace Tokens

def space : Token := .gap .space

def parens (ts : Tokens) : Tokens := .symbol .lparen :: ts ++ [.symbol .rparen]

/-- The items with a comma and a space between any two. -/
def list (items : List Tokens) : Tokens := List.intercalate [.symbol .comma, space] items

/-- A call: `name(arg, arg, …)`. -/
def call (name : String) (args : List Tokens) : Tokens := .function name :: parens (list args)

/-- A cast: `CAST(inner AS type)`. -/
def castAs (typeName : String) (inner : Tokens) : Tokens :=
  .keyword .CAST :: parens (inner ++ [space, .keyword .AS, space, .typeName typeName])

/-- The value where the condition holds, else null. -/
def whenTrue (condition value : Tokens) : Tokens :=
  [.keyword .CASE, space, .keyword .WHEN, space] ++ condition ++
    [space, .keyword .THEN, space] ++ value ++
    [space, .keyword .ELSE, space, .null, space, .keyword .END]

/-- The clause behind an aggregate, with a space before it. -/
def filterClause (condition : Tokens) : Tokens :=
  [space, .keyword .FILTER, space] ++ parens (.keyword .WHERE :: space :: condition)

/-- An operator between its operands. -/
def infixed (op : Symbol) (left right : Tokens) : Tokens :=
  left ++ [space, .symbol op, space] ++ right

end Tokens

end TypedSql
