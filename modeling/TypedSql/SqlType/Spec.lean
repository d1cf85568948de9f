import TypedSql.Error
import TypedSql.Text.Case
import TypedSql.Text.CharSet

namespace TypedSql

/-- The decimal that a bare `decimal` means. -/
structure DecimalDefaults where
  precision : Nat := 18
  scale : Nat := 2
deriving DecidableEq

namespace SqlType

open Text

/-- The specifications that are a name alone, except those of the bare decimal. -/
def names : List (String × SqlType) :=
  [("bool", boolean), ("boolean", boolean),
    ("int8", integer .w8), ("tinyint", integer .w8),
    ("int16", integer .w16), ("smallint", integer .w16), ("int2", integer .w16),
    ("int32", integer .w32), ("int", integer .w32), ("integer", integer .w32),
    ("int4", integer .w32),
    ("int64", integer .w64), ("bigint", integer .w64),
    ("float32", floating .single), ("float4", floating .single), ("real", floating .single),
    ("float64", floating .double), ("float8", floating .double), ("double", floating .double),
    ("double precision", floating .double), ("float", floating .double),
    ("string", string), ("text", string), ("varchar", string),
    ("null", null)]

def named? (s : List Char) : Option SqlType :=
  (names.find? fun n => n.1.toList = s).map Prod.snd

/-- What follows one of the two words for a decimal. -/
def afterDecimal? (s : List Char) : Option (List Char) :=
  match "decimal".toList.isPrefixOf? s with
  | some rest => some rest
  | none => "numeric".toList.isPrefixOf? s

def skipBlanks (s : List Char) : List Char := s.dropWhile isBlank

/-- The digits of a parameter, and what follows the blanks after them. -/
def parameter? (s : List Char) : Option (List Char × List Char) :=
  let s := skipBlanks s
  match s.takeWhile isDigit with
  | [] => none
  | ds => some (ds, skipBlanks (s.dropWhile isDigit))

/-- The digits of one or two parameters between parentheses. -/
def parameters? (s : List Char) : Option (List Char × Option (List Char)) :=
  match skipBlanks s with
  | '(' :: s =>
    match parameter? s with
    | some (ds, [')']) => some (ds, none)
    | some (ds, ',' :: s) =>
      match parameter? s with
      | some (es, [')']) => some (ds, some es)
      | _ => none
    | _ => none
  | _ => none

/-- Parameters are at most 255, in the digits `0` to `9`. -/
def parameterValue? (ds : List Char) : Option Nat := (numeral? 0 ds).filter (· ≤ 255)

def checkDecimal (p s : Nat) : Except SpecFault SqlType :=
  if p = 0 ∨ maxPrecision < p then .error .precisionRange
  else if p < s then .error .scaleAbovePrecision
  else .ok (decimal p s)

def ofParameters (ds : List Char) (es : Option (List Char)) : Except SpecFault SqlType :=
  match parameterValue? ds, es.elim (some 0) parameterValue? with
  | some p, some s => checkDecimal p s
  | _, _ => .error .parameterRange

/-- The type of a specification without blanks around it and in lower case. -/
def ofTrimmed (defaults : DecimalDefaults) (s : List Char) : Except SpecFault SqlType :=
  match afterDecimal? s with
  | some [] => checkDecimal defaults.precision defaults.scale
  | some rest =>
    match parameters? rest with
    | some (ds, es) => ofParameters ds es
    | none => .error .malformedDecimal
  | none =>
    match named? s with
    | some t => .ok t
    | none => .error (if s.isEmpty then .empty else .unknownName)

/-- The type of a specification. Case and blanks around it do not count. -/
def ofSpec (defaults : DecimalDefaults) (spec : String) : Except Error SqlType :=
  (ofTrimmed defaults (lower (trim spec.toList))).mapError (.badSpec spec)

/-- The type itself, unless it is a decimal that cannot be. -/
def checked (t : SqlType) : Except Error SqlType :=
  match t with
  | decimal p s => (checkDecimal p s).mapError (.badSpec t.text)
  | t => .ok t

end SqlType

end TypedSql
