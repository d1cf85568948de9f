import TypedSql.Dialect.TypeNames
import TypedSql.Error
import TypedSql.Text.Case
import TypedSql.Token

namespace TypedSql

/-- The text with `c` written twice. -/
def doubled (c : Char) (s : List Char) : List Char :=
  s.flatMap fun d => if d = c then [d, d] else [d]

inductive IdentQuotes
  | double
  | backtick
  | bracket
deriving DecidableEq

namespace IdentQuotes

def opening : IdentQuotes → Char
  | double => '\x22'
  | backtick => '\x60'
  | bracket => '['

def closing : IdentQuotes → Char
  | double => '\x22'
  | backtick => '\x60'
  | bracket => ']'

/-- The closing delimiter is doubled inside. -/
def quote (q : IdentQuotes) (s : List Char) : List Char :=
  q.opening :: doubled q.closing s ++ [q.closing]

end IdentQuotes

/-- A quote inside a string is doubled, or it is escaped by a backslash as the backslash itself is.
A national string that is not ASCII is marked by an `N`. -/
inductive StringQuotes
  | standard
  | national
  | backslash
deriving DecidableEq

def singleQuote : Char := '\x27'

def escaped (s : List Char) : List Char :=
  s.flatMap fun c => if c = '\\' ∨ c = singleQuote then ['\\', c] else [c]

def isAscii (s : List Char) : Bool := s.all fun c => c.toNat < 128

namespace StringQuotes

def quote (q : StringQuotes) (s : List Char) : List Char :=
  match q with
  | standard => singleQuote :: doubled singleQuote s ++ [singleQuote]
  | national =>
    (if isAscii s then [] else ['N']) ++ singleQuote :: doubled singleQuote s ++ [singleQuote]
  | backslash => singleQuote :: escaped s ++ [singleQuote]

end StringQuotes

inductive Dialect
  | duckdb
  | postgres
  | mssql
  | mysql
  | snowflake
  | bigquery
  | redshift
  | databricks
  | sqlite
  | trino
deriving DecidableEq

/-- How the strings of many rows become one: by a function of value and separator, with the
separator behind a keyword, or by joining an array collected first. -/
inductive AggregateStyle
  | function (name : String)
  | separatorKeyword (name : String)
  | joined (collect : String)
deriving DecidableEq

structure Rules where
  compilerName : String
  aliases : List String := []
  identQuotes : IdentQuotes := .double
  stringQuotes : StringQuotes := .standard
  numericBooleans : Bool := false
  typeNames : TypeNames
  /-- Functions whose name differs, by their name in capitals. -/
  renamed : List (String × String) := []
  /-- Whether `ROUND` must be given a number of digits. -/
  roundNeedsDigits : Bool := false
  /-- Whether `ROUND` takes a number of digits only for a decimal. -/
  digitsNeedDecimal : Bool := false
  /-- Whether `/` between integers drops the fraction. -/
  integerDivision : Bool := true
  aggregate : AggregateStyle := .function "string_agg"
  /-- Whether the string aggregate takes a `FILTER` clause. -/
  aggregateFilter : Bool := false
  /-- Whether a boolean is a condition only in comparison with one. -/
  comparesBooleans : Bool := false

namespace Dialect

def all : List Dialect :=
  [duckdb, postgres, mssql, mysql, snowflake, bigquery, redshift, databricks, sqlite, trino]

def standard : Dialect := duckdb

def rules : Dialect → Rules
  | duckdb =>
    { compilerName := "DuckDBCompiler"
      typeNames := .duckdb
      integerDivision := false
      aggregateFilter := true }
  | postgres =>
    { compilerName := "PostgresCompiler"
      aliases := ["postgresql", "pg"]
      typeNames := .postgres
      digitsNeedDecimal := true
      aggregateFilter := true }
  | mssql =>
    { compilerName := "MsSqlCompiler"
      aliases := ["tsql", "sqlserver"]
      identQuotes := .bracket
      stringQuotes := .national
      numericBooleans := true
      typeNames := .mssql
      renamed := [("CEIL", "CEILING")]
      roundNeedsDigits := true
      comparesBooleans := true }
  | mysql =>
    { compilerName := "MySQLCompiler"
      identQuotes := .backtick
      stringQuotes := .backslash
      numericBooleans := true
      typeNames := .mysql
      integerDivision := false
      aggregate := .separatorKeyword "group_concat" }
  | snowflake =>
    { compilerName := "SnowflakeCompiler"
      typeNames := .snowflake
      integerDivision := false
      aggregate := .function "listagg" }
  | bigquery =>
    { compilerName := "BigQueryCompiler"
      identQuotes := .backtick
      stringQuotes := .backslash
      typeNames := .bigquery
      integerDivision := false }
  | redshift =>
    { compilerName := "RedshiftCompiler"
      typeNames := .redshift
      aggregate := .function "listagg" }
  | databricks =>
    { compilerName := "DatabricksCompiler"
      aliases := ["spark"]
      identQuotes := .backtick
      stringQuotes := .backslash
      typeNames := .databricks
      integerDivision := false
      aggregate := .joined "collect_list" }
  | sqlite =>
    { compilerName := "SQLiteCompiler"
      numericBooleans := true
      typeNames := .sqlite
      renamed := [("GREATEST", "MAX"), ("LEAST", "MIN")]
      aggregate := .function "group_concat"
      aggregateFilter := true }
  | trino =>
    { compilerName := "TrinoCompiler"
      aliases := ["presto"]
      typeNames := .trino
      aggregate := .joined "array_agg" }

def quoteIdent (d : Dialect) (s : String) : String :=
  String.ofList (d.rules.identQuotes.quote s.toList)

def quoteString (d : Dialect) (s : String) : String :=
  String.ofList (d.rules.stringQuotes.quote s.toList)

def booleanText (d : Dialect) (b : Bool) : String :=
  match d.rules.numericBooleans, b with
  | true, true => "1"
  | true, false => "0"
  | false, true => "true"
  | false, false => "false"

def nullText (_ : Dialect) : String := "NULL"

def typeName (d : Dialect) (t : SqlType) : String := d.rules.typeNames.name t

/-- The strings of many rows as one, with `separator` between them. -/
def stringAgg (d : Dialect) (value separator : Tokens) : Tokens :=
  match d.rules.aggregate with
  | .function f => .call f [value, separator]
  | .separatorKeyword f =>
    .function f ::
      Tokens.parens (value ++ [Tokens.space, .keyword .SEPARATOR, Tokens.space] ++ separator)
  | .joined collect => .call "array_join" [.call collect [value], separator]

/-- A boolean value as a condition. -/
def condition (d : Dialect) (value : Tokens) : Tokens :=
  if d.rules.comparesBooleans then .infixed .equals value [.integer 1] else value

open Text

def compilerWord : List Char := "compiler".toList

/-- The text without `compiler` at its end, unless there is nothing else. -/
def stem (s : List Char) : List Char :=
  match compilerWord.reverse.isPrefixOf? s.reverse with
  | some (c :: cs) => (c :: cs).reverse
  | _ => s

/-- The identifier to which a name comes down. -/
def idOf (name : String) : String := String.ofList (stem (lower (trim name.toList)))

def id (d : Dialect) : String := idOf d.rules.compilerName

def ids : List String := all.map id

def answersTo (d : Dialect) (id : String) : Bool := d.id = id || d.rules.aliases.contains id

/-- The dialect of an identifier or an alias, perhaps with `compiler` behind it. Case and blanks
around the name do not count. -/
def ofName (name : String) : Except Error Dialect :=
  match all.find? (answersTo · (idOf name)) with
  | some d => .ok d
  | none => .error (.unknownDialect name ids)

end Dialect

def capitals (s : String) : String := String.ofList (Text.upper s.toList)

namespace Dialect

/-- The other name of a function, whatever the case of the letters of this one. -/
def renamed? (d : Dialect) (function : String) : Option String :=
  d.rules.renamed.lookup (capitals function)

def functionText (d : Dialect) (name : String) : String := capitals ((d.renamed? name).getD name)

end Dialect

/-- Only doubles that are not finite have no text. -/
def Token.render (d : Dialect) : Token → Except Error String
  | keyword k => .ok k.text
  | symbol s => .ok s.text
  | gap g => .ok g.text
  | ident n => .ok (d.quoteIdent n)
  | integer n => .ok (toString n.toInt)
  | real x =>
    match x.sqlText? with
    | some s => .ok s
    | none => .error (.nonFiniteToken x)
  | string s => .ok (d.quoteString s)
  | boolean b => .ok (d.booleanText b)
  | null => .ok d.nullText
  | function n => .ok (d.functionText n)
  | typeName n => .ok n

def Tokens.render (d : Dialect) (ts : Tokens) : Except Error String := do
  return String.join (← ts.mapM (Token.render d))

end TypedSql
