import TypedSql.SqlType

namespace TypedSql

structure TypeNames where
  boolean : String
  int8 : String
  int16 : String
  int32 : String
  int64 : String
  single : String
  double : String
  decimal : Nat → Nat → String
  string : String

namespace TypeNames

/-- An untyped null is cast to a string. -/
def name (n : TypeNames) : SqlType → String
  | .null => n.string
  | .boolean => n.boolean
  | .integer .w8 => n.int8
  | .integer .w16 => n.int16
  | .integer .w32 => n.int32
  | .integer .w64 => n.int64
  | .floating .single => n.single
  | .floating .double => n.double
  | .decimal p s => n.decimal p s
  | .string => n.string

def sized (name : String) (p s : Nat) : String :=
  name ++ "(" ++ toString p ++ ", " ++ toString s ++ ")"

def duckdb : TypeNames where
  boolean := "BOOLEAN"
  int8 := "TINYINT"
  int16 := "SMALLINT"
  int32 := "INTEGER"
  int64 := "BIGINT"
  single := "REAL"
  double := "DOUBLE"
  decimal := sized "DECIMAL"
  string := "VARCHAR"

def postgres : TypeNames where
  boolean := "BOOLEAN"
  int8 := "SMALLINT"
  int16 := "SMALLINT"
  int32 := "INTEGER"
  int64 := "BIGINT"
  single := "REAL"
  double := "DOUBLE PRECISION"
  decimal := sized "NUMERIC"
  string := "TEXT"

/-- Since `TINYINT` has no sign, the smallest integer is a `SMALLINT`. -/
def mssql : TypeNames where
  boolean := "BIT"
  int8 := "SMALLINT"
  int16 := "SMALLINT"
  int32 := "INT"
  int64 := "BIGINT"
  single := "REAL"
  double := "FLOAT"
  decimal := sized "DECIMAL"
  string := "NVARCHAR(MAX)"

/-- Casts know one integer type. -/
def mysql : TypeNames where
  boolean := "SIGNED"
  int8 := "SIGNED"
  int16 := "SIGNED"
  int32 := "SIGNED"
  int64 := "SIGNED"
  single := "FLOAT"
  double := "DOUBLE"
  decimal := sized "DECIMAL"
  string := "CHAR"

def snowflake : TypeNames where
  boolean := "BOOLEAN"
  int8 := "TINYINT"
  int16 := "SMALLINT"
  int32 := "INT"
  int64 := "BIGINT"
  single := "FLOAT"
  double := "DOUBLE"
  decimal := sized "NUMBER"
  string := "VARCHAR"

/-- A `NUMERIC` holds 29 digits before the point and nine after it. -/
def bigquery : TypeNames where
  boolean := "BOOL"
  int8 := "INT64"
  int16 := "INT64"
  int32 := "INT64"
  int64 := "INT64"
  single := "FLOAT64"
  double := "FLOAT64"
  decimal p s := sized (if p - s ≤ 29 ∧ s ≤ 9 then "NUMERIC" else "BIGNUMERIC") p s
  string := "STRING"

def redshift : TypeNames :=
  { postgres with decimal := sized "DECIMAL", string := "VARCHAR(MAX)" }

def databricks : TypeNames where
  boolean := "BOOLEAN"
  int8 := "TINYINT"
  int16 := "SMALLINT"
  int32 := "INT"
  int64 := "BIGINT"
  single := "FLOAT"
  double := "DOUBLE"
  decimal := sized "DECIMAL"
  string := "STRING"

/-- A type name says only how values are stored. -/
def sqlite : TypeNames where
  boolean := "INTEGER"
  int8 := "INTEGER"
  int16 := "INTEGER"
  int32 := "INTEGER"
  int64 := "INTEGER"
  single := "REAL"
  double := "REAL"
  decimal _ _ := "NUMERIC"
  string := "TEXT"

def trino : TypeNames := duckdb

end TypeNames

end TypedSql
