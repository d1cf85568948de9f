import TypedSql.Proofs.Parsing

namespace TypedSql

open Compile

/-- What a cast is to: a type of the program, or decimals without a number of digits. Its name does
not always tell, since a dialect may have one name for several types. -/
inductive CastTarget
  | type (t : SqlType)
  | anyDecimal
deriving DecidableEq

/-- The name of a type in the casts of the dialect. A null is cast to a string. -/
def castName (d : Dialect) : SqlType → String
  | .boolean =>
    match d with
    | .mssql => "BIT"
    | .mysql => "SIGNED"
    | .bigquery => "BOOL"
    | .sqlite => "INTEGER"
    | _ => "BOOLEAN"
  | .integer w =>
    match d, w with
    | .mysql, _ => "SIGNED"
    | .bigquery, _ => "INT64"
    | .sqlite, _ => "INTEGER"
    | .postgres, .w8 | .redshift, .w8 | .mssql, .w8 => "SMALLINT"
    | _, .w8 => "TINYINT"
    | _, .w16 => "SMALLINT"
    | .mssql, .w32 | .snowflake, .w32 | .databricks, .w32 => "INT"
    | _, .w32 => "INTEGER"
    | _, .w64 => "BIGINT"
  | .floating w =>
    match d, w with
    | .bigquery, _ => "FLOAT64"
    | .sqlite, _ => "REAL"
    | .mysql, .single | .snowflake, .single | .databricks, .single => "FLOAT"
    | _, .single => "REAL"
    | .postgres, .double | .redshift, .double => "DOUBLE PRECISION"
    | .mssql, .double => "FLOAT"
    | _, .double => "DOUBLE"
  | .decimal p s =>
    let sized (name : String) := name ++ "(" ++ toString p ++ ", " ++ toString s ++ ")"
    match d with
    | .postgres => sized "NUMERIC"
    | .snowflake => sized "NUMBER"
    | .bigquery => sized (if p - s ≤ 29 ∧ s ≤ 9 then "NUMERIC" else "BIGNUMERIC")
    | .sqlite => "NUMERIC"
    | _ => sized "DECIMAL"
  | .string | .null =>
    match d with
    | .postgres | .sqlite => "TEXT"
    | .mssql => "NVARCHAR(MAX)"
    | .mysql => "CHAR"
    | .bigquery | .databricks => "STRING"
    | .redshift => "VARCHAR(MAX)"
    | _ => "VARCHAR"

namespace CastTarget

def name (d : Dialect) : CastTarget → String
  | type t => castName d t
  | anyDecimal => "NUMERIC"

def family : CastTarget → Family
  | type t => t.family
  | anyDecimal => .decimal

theorem name_anyDecimal (d : Dialect) : anyDecimal.name d = "NUMERIC" := rfl

/-- Casts are written with these names. -/
theorem name_type (d : Dialect) (t : SqlType) : (type t).name d = d.typeName t := by
  cases t with
  | integer w | floating w => cases w <;> cases d <;> rfl
  | _ => cases d <;> rfl

end CastTarget

/-- A tree of SQL with the targets of its casts. -/
inductive TypedTree
  | ident (name : String)
  | literal (value : Literal)
  | call (function : String) (args : List TypedTree)
  | separated (function : String) (value separator : TypedTree)
  | filtered (call condition : TypedTree)
  | cast (inner : TypedTree) (target : CastTarget)
  | choice (condition value otherwise : TypedTree)
  | infixed (op : Symbol) (left right : TypedTree)

namespace TypedTree

mutual

/-- The tree with the name that the dialect has for each target. -/
def plain (d : Dialect) : TypedTree → SqlTree
  | ident n => .ident n
  | literal v => .literal v
  | call f args => .call f (plainAll d args)
  | separated f v s => .separated f (v.plain d) (s.plain d)
  | filtered u c => .filtered (u.plain d) (c.plain d)
  | cast u t => .cast (u.plain d) (t.name d)
  | choice c v e => .choice (c.plain d) (v.plain d) (e.plain d)
  | infixed op l r => .infixed op (l.plain d) (r.plain d)

def plainAll (d : Dialect) : List TypedTree → List SqlTree
  | [] => []
  | u :: us => u.plain d :: plainAll d us

end

theorem plainAll_eq (d : Dialect) (us : List TypedTree) : plainAll d us = us.map (plain d) := by
  induction us with
  | nil => rfl
  | cons u us ih => rw [plainAll, ih, List.map_cons]

/-- The strings of many rows as one, in the way of the dialect. -/
def joined (d : Dialect) (value separator : TypedTree) : TypedTree :=
  match d with
  | .duckdb | .postgres | .mssql | .bigquery => call "string_agg" [value, separator]
  | .snowflake | .redshift => call "listagg" [value, separator]
  | .sqlite => call "group_concat" [value, separator]
  | .mysql => separated "group_concat" value separator
  | .databricks => call "array_join" [call "collect_list" [value], separator]
  | .trino => call "array_join" [call "array_agg" [value], separator]

/-- A boolean where the dialect wants a condition. In T-SQL a bit is none until it is compared. -/
def condition (d : Dialect) (c : TypedTree) : TypedTree :=
  if d = .mssql then infixed .equals c (literal (.integer 1)) else c

/-- A filter is a clause, or what it leaves out is null. -/
def aggregated (d : Dialect) (value separator : TypedTree) : Option TypedTree → TypedTree
  | none => joined d value separator
  | some f =>
    if d.hasFilter then filtered (joined d value separator) (condition d f)
    else joined d (choice (condition d f) value (literal .null)) separator

/-- A cast to the type if the value has another family. -/
def settled (type argType : SqlType) (u : TypedTree) : TypedTree :=
  if argType.family = type.family then u else cast u (.type type)

theorem joined_plain (d : Dialect) (v s : TypedTree) :
    (joined d v s).plain d = .joined d (v.plain d) (s.plain d) := by
  cases d <;> rfl

theorem condition_plain (d : Dialect) (c : TypedTree) :
    (condition d c).plain d = .condition d (c.plain d) := by
  unfold condition SqlTree.condition
  split <;> rfl

theorem aggregated_plain (d : Dialect) (v s : TypedTree) (f : Option TypedTree) :
    (aggregated d v s f).plain d =
      .aggregated d (v.plain d) (s.plain d) (f.map (plain d)) := by
  cases f with
  | none => exact joined_plain d v s
  | some f =>
    simp only [aggregated, SqlTree.aggregated, Option.map_some]
    split
    · rw [plain, joined_plain, condition_plain]
    · rw [joined_plain, plain, condition_plain]
      rfl

theorem settled_plain (d : Dialect) (t u : SqlType) (v : TypedTree) :
    (settled t u v).plain d = .settled d t u (v.plain d) := by
  unfold settled SqlTree.settled
  split
  · rfl
  · rw [plain, CastTarget.name_type]

end TypedTree

/-- An operation of this type with the casts that the dialect needs, each with its target. -/
def Op.typedTree (d : Dialect) (op : Op) (t : SqlType) (args : List (Option (Expr × TypedTree))) :
    TypedTree :=
  let trees := args.filterMap (Option.map Prod.snd)
  match op, args with
  | literal v, _ => .literal v
  | column _ n, _ => .ident n
  | aliased _, [some a] => a.2
  | cast u, [some a] => .cast a.2 (.type u)
  | abs, _ => .call "Abs" trees
  | sign, _ => .call "Sign" trees
  | ceil, [some a] => .settled t a.1.type (.call "Ceil" [a.2])
  | floor, [some a] => .settled t a.1.type (.call "Floor" [a.2])
  | round, [some a, some n] =>
    if dropsDigits d n.1 then .settled t a.1.type (.call "round" [a.2])
    else if d.rules.digitsNeedDecimal ∧ !a.1.type.isDecimal then
      .cast (.call "round" [.cast a.2 .anyDecimal, n.2]) (.type t)
    else .settled t a.1.type (.call "round" [a.2, n.2])
  | coalesce, _ => .call "Coalesce" trees
  | greatest, _ => .call "Greatest" trees
  | least, _ => .call "Least" trees
  | stringAgg, [some a, some s, f] => .aggregated d a.2 s.2 (f.map Prod.snd)
  | add, [some l, some r] => .infixed .plus l.2 r.2
  | subtract, [some l, some r] => .infixed .minus l.2 r.2
  | multiply, [some l, some r] => .infixed .times l.2 r.2
  | divide, [some l, some r] =>
    .infixed .dividedBy
      (if needsDouble d op t l.1 r.1 then .cast l.2 (.type (.floating .double)) else l.2) r.2
  -- No node that can be built has other arguments.
  | _, _ => .literal .null

namespace Expr

/-- The tree that the dialect is given, with the targets of its casts. -/
def typedTree (d : Dialect) : Expr → TypedTree := fold (Op.typedTree d)

theorem typedTree_mk (d : Dialect) (op : Op) (args : List (Option Expr)) (t : SqlType)
    (s : Shape) : typedTree d ⟨op, args, t, s⟩ =
      op.typedTree d t (args.map (Option.map fun e => (e, e.typedTree d))) := by
  rw [typedTree, fold, foldArgs_eq]

end Expr

variable {d : Dialect} {op : Op} {t : SqlType} {s : Shape} {a l r n : Expr}

theorem typedTree_unary (hop : op.isUnary) : Expr.typedTree d ⟨op, [some a], t, s⟩ =
    if settles op then .settled t a.type (.call op.name [a.typedTree d])
    else .call op.name [a.typedTree d] := by
  rw [Expr.typedTree_mk]
  cases op with
  | abs | ceil | floor | sign => rfl
  | _ => cases hop

theorem typedTree_variadic {as : List Expr} (hop : op.isVariadic) :
    Expr.typedTree d ⟨op, as.map some, t, s⟩ = .call op.name (as.map (Expr.typedTree d)) := by
  rw [Expr.typedTree_mk]
  cases op with
  | coalesce | greatest | least =>
    simp [Op.typedTree, Op.name, List.filterMap_map, Function.comp_def]
  | _ => cases hop

theorem typedTree_binary (hop : op.isArithmetic) :
    Expr.typedTree d ⟨op, [some l, some r], t, s⟩ =
      .infixed (operator op)
        (if needsDouble d op t l r then .cast (l.typedTree d) (.type (.floating .double))
        else l.typedTree d) (r.typedTree d) := by
  rw [Expr.typedTree_mk]
  cases op with
  | add | subtract | multiply | divide => rfl
  | _ => cases hop

/-- With the names of their targets, the casts are those that the dialect is given. -/
theorem typedTree_plain (d : Dialect) {e : Expr} (h : e.Regular) :
    (e.typedTree d).plain d = e.castTree d := by
  induction h with
  | literal v t s | column b n t s => rfl
  | @cast a ha u t s ih =>
    rw [Expr.typedTree_mk, Expr.castTree_mk]
    simp only [List.map_cons, List.map_nil, Option.map_some, Op.typedTree, Op.castTree,
      TypedTree.plain, CastTarget.name_type, ih]
  | @aliased a ha n t s ih =>
    rw [Expr.typedTree_mk, Expr.castTree_mk]
    exact ih
  | @unary op a hop ha t s ih =>
    have hcall : (TypedTree.call op.name [a.typedTree d]).plain d =
        .call op.name [a.castTree d] := congrArg (fun u => SqlTree.call op.name [u]) ih
    rw [typedTree_unary hop, Expr.castTree_mk]
    simp only [List.map_cons, List.map_nil, Option.map_some, castTree_unary d hop]
    split
    · rw [TypedTree.settled_plain, hcall]
    · exact hcall
  | @round a n ha hn t s iha ihn =>
    rw [Expr.typedTree_mk, Expr.castTree_mk]
    simp only [List.map_cons, List.map_nil, Option.map_some, Op.typedTree, Op.castTree, Op.tree]
    by_cases hd : dropsDigits d n
    · simp [hd, TypedTree.settled_plain, TypedTree.plain, TypedTree.plainAll, iha]
    · simp only [hd, if_false, not_false_eq_true, true_and]
      split
      · simp [TypedTree.plain, TypedTree.plainAll, CastTarget.name_type,
          CastTarget.name_anyDecimal, iha, ihn]
      · simp [TypedTree.settled_plain, TypedTree.plain, TypedTree.plainAll, iha, ihn]
  | @variadic op as hop hne ha t s ih =>
    have hargs : (as.map (Expr.typedTree d)).map (TypedTree.plain d) =
        as.map (Expr.castTree d) := by
      rw [List.map_map]
      exact List.map_congr_left ih
    rw [typedTree_variadic hop, Expr.castTree_mk, castTree_variadic d hop, TypedTree.plain,
      TypedTree.plainAll_eq, hargs]
    simp [List.filterMap_map, Function.comp_def]
  | @stringAgg a p f ha hp hf t s iha ihp ihf =>
    rw [Expr.typedTree_mk, Expr.castTree_mk]
    simp only [List.map_cons, List.map_nil, Option.map_some, Op.typedTree, Op.castTree, Op.tree,
      TypedTree.aggregated_plain, iha, ihp]
    cases f with
    | none => rfl
    | some f => simp [ihf f rfl]
  | @binary op l r hop hl hr t s ihl ihr =>
    rw [typedTree_binary hop, Expr.castTree_mk]
    simp only [List.map_cons, List.map_nil, Option.map_some, castTree_binary d hop,
      TypedTree.plain, ihr]
    split
    · rw [TypedTree.plain, CastTarget.name_type, ihl]
    · rw [ihl]

end TypedSql
