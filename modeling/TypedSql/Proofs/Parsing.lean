import TypedSql.Proofs.Grammar
import TypedSql.Proofs.Nodes
import TypedSql.Proofs.Trees

namespace TypedSql

open Compile

/-- Whether the engine has a `FILTER` clause for string aggregates. -/
def Dialect.hasFilter : Dialect → Bool
  | duckdb | postgres | sqlite => true
  | _ => false

namespace SqlTree

mutual

/-- The tree with what each cast was applied to in its place. -/
def withoutCasts : SqlTree → SqlTree
  | ident n => ident n
  | literal v => literal v
  | call f args => call f (withoutCastsAll args)
  | separated f v s => separated f v.withoutCasts s.withoutCasts
  | filtered u c => filtered u.withoutCasts c.withoutCasts
  | cast u _ => u.withoutCasts
  | choice c v e => choice c.withoutCasts v.withoutCasts e.withoutCasts
  | infixed op l r => infixed op l.withoutCasts r.withoutCasts

def withoutCastsAll : List SqlTree → List SqlTree
  | [] => []
  | u :: us => u.withoutCasts :: withoutCastsAll us

end

theorem withoutCastsAll_eq (us : List SqlTree) : withoutCastsAll us = us.map withoutCasts := by
  induction us with
  | nil => rfl
  | cons u us ih => rw [withoutCastsAll, ih, List.map_cons]

/-- The strings of many rows as one, in the way of the dialect. -/
def joined (d : Dialect) (value separator : SqlTree) : SqlTree :=
  match d with
  | .duckdb | .postgres | .mssql | .bigquery => call "string_agg" [value, separator]
  | .snowflake | .redshift => call "listagg" [value, separator]
  | .sqlite => call "group_concat" [value, separator]
  | .mysql => separated "group_concat" value separator
  | .databricks => call "array_join" [call "collect_list" [value], separator]
  | .trino => call "array_join" [call "array_agg" [value], separator]

/-- A boolean where the dialect wants a condition. In T-SQL a bit is none until it is compared. -/
def condition (d : Dialect) (c : SqlTree) : SqlTree :=
  if d = .mssql then infixed .equals c (literal (.integer 1)) else c

/-- A filter is a clause, or what it leaves out is null. -/
def aggregated (d : Dialect) (value separator : SqlTree) : Option SqlTree → SqlTree
  | none => joined d value separator
  | some f =>
    if d.hasFilter then filtered (joined d value separator) (condition d f)
    else joined d (choice (condition d f) value (literal .null)) separator

end SqlTree

theorem aggregateFilter_eq (d : Dialect) : d.rules.aggregateFilter = d.hasFilter := by
  cases d <;> rfl

theorem comparesBooleans_iff {d : Dialect} : d.rules.comparesBooleans ↔ d = .mssql := by
  cases d <;> decide

/-- An operation over the trees of its arguments. A cast and a name are their argument. -/
def Op.tree (d : Dialect) (op : Op) (args : List (Option (Expr × SqlTree))) : SqlTree :=
  let trees := args.filterMap (Option.map Prod.snd)
  match op, args with
  | literal v, _ => .literal v
  | column _ n, _ => .ident n
  | cast _, [some a] | aliased _, [some a] => a.2
  | abs, _ => .call "Abs" trees
  | ceil, _ => .call "Ceil" trees
  | floor, _ => .call "Floor" trees
  | sign, _ => .call "Sign" trees
  | round, [some a, some n] => .call "round" (if dropsDigits d n.1 then [a.2] else [a.2, n.2])
  | coalesce, _ => .call "Coalesce" trees
  | greatest, _ => .call "Greatest" trees
  | least, _ => .call "Least" trees
  | stringAgg, [some a, some s, f] => .aggregated d a.2 s.2 (f.map Prod.snd)
  | add, [some l, some r] => .infixed .plus l.2 r.2
  | subtract, [some l, some r] => .infixed .minus l.2 r.2
  | multiply, [some l, some r] => .infixed .times l.2 r.2
  | divide, [some l, some r] => .infixed .dividedBy l.2 r.2
  -- No node that can be built has other arguments.
  | _, _ => .literal .null

/-- A cast to the type if the value has another family. -/
def SqlTree.settled (d : Dialect) (type argType : SqlType) (u : SqlTree) : SqlTree :=
  if argType.family = type.family then u else .cast u (d.typeName type)

/-- An operation of this type with the casts that the dialect needs. -/
def Op.castTree (d : Dialect) (op : Op) (t : SqlType) (args : List (Option (Expr × SqlTree))) :
    SqlTree :=
  match op, args with
  | cast u, [some a] => .cast a.2 (d.typeName u)
  | ceil, [some a] | floor, [some a] => .settled d t a.1.type (op.tree d args)
  | round, [some a, some n] =>
    if ¬dropsDigits d n.1 ∧ d.rules.digitsNeedDecimal ∧ !a.1.type.isDecimal then
      .cast (.call "round" [.cast a.2 "NUMERIC", n.2]) (d.typeName t)
    else .settled d t a.1.type (op.tree d args)
  | divide, [some l, some r] =>
    .infixed .dividedBy
      (if needsDouble d op t l.1 r.1 then .cast l.2 (d.typeName (.floating .double)) else l.2) r.2
  | op, args => op.tree d args

def Op.isAlias : Op → Bool
  | aliased _ => true
  | _ => false

namespace Expr

/-- The tree of the operations, without casts and names. -/
def operationTree (d : Dialect) : Expr → SqlTree := fold fun op _ args => op.tree d args

/-- The tree that the dialect is given. -/
def castTree (d : Dialect) : Expr → SqlTree := fold (Op.castTree d)

/-- No node is an alias. -/
def aliasFree : Expr → Bool :=
  fold fun op _ args => !op.isAlias && args.all fun a => a.all Prod.snd

theorem operationTree_mk (d : Dialect) (op : Op) (args : List (Option Expr)) (t : SqlType)
    (s : Shape) : operationTree d ⟨op, args, t, s⟩ =
      op.tree d (args.map (Option.map fun e => (e, e.operationTree d))) := by
  rw [operationTree, fold, foldArgs_eq]

theorem castTree_mk (d : Dialect) (op : Op) (args : List (Option Expr)) (t : SqlType)
    (s : Shape) : castTree d ⟨op, args, t, s⟩ =
      op.castTree d t (args.map (Option.map fun e => (e, e.castTree d))) := by
  rw [castTree, fold, foldArgs_eq]

theorem aliasFree_iff {e : Expr} :
    e.aliasFree ↔ e.op.isAlias = false ∧ ∀ a, some a ∈ e.args → a.aliasFree := by
  obtain ⟨op, args, t, s⟩ := e
  rw [aliasFree, fold, foldArgs_eq]
  simp only [Bool.and_eq_true, Bool.not_eq_true', List.all_eq_true, List.mem_map]
  refine and_congr_right fun _ => ⟨fun h a ha => h _ ⟨some a, ha, rfl⟩, fun h => ?_⟩
  rintro _ ⟨a, ha, rfl⟩
  cases a with
  | none => rfl
  | some a => exact h a ha

end Expr

namespace SqlTree

theorem settled_withoutCasts (d : Dialect) (t u : SqlType) (v : SqlTree) :
    (settled d t u v).withoutCasts = v.withoutCasts := by
  unfold settled
  split <;> rfl

theorem joined_withoutCasts (d : Dialect) (v s : SqlTree) :
    (joined d v s).withoutCasts = joined d v.withoutCasts s.withoutCasts := by
  cases d <;> rfl

theorem condition_withoutCasts (d : Dialect) (c : SqlTree) :
    (condition d c).withoutCasts = condition d c.withoutCasts := by
  unfold condition
  split <;> rfl

theorem aggregated_withoutCasts (d : Dialect) (v s : SqlTree) (f : Option SqlTree) :
    (aggregated d v s f).withoutCasts =
      aggregated d v.withoutCasts s.withoutCasts (f.map withoutCasts) := by
  cases f with
  | none => exact joined_withoutCasts d v s
  | some f =>
    simp only [aggregated, Option.map_some]
    split
    · simp only [withoutCasts, joined_withoutCasts, condition_withoutCasts]
    · simp only [withoutCasts, joined_withoutCasts, condition_withoutCasts]

end SqlTree

theorem tree_unary (d : Dialect) {op : Op} (hop : op.isUnary) (a : Expr × SqlTree) :
    op.tree d [some a] = .call op.name [a.2] := by
  cases op with
  | abs | ceil | floor | sign => rfl
  | _ => cases hop

theorem tree_variadic (d : Dialect) {op : Op} (hop : op.isVariadic)
    (as : List (Option (Expr × SqlTree))) :
    op.tree d as = .call op.name (as.filterMap (Option.map Prod.snd)) := by
  cases op with
  | coalesce | greatest | least => rfl
  | _ => cases hop

theorem tree_binary (d : Dialect) {op : Op} (hop : op.isArithmetic) (l r : Expr × SqlTree) :
    op.tree d [some l, some r] = .infixed (operator op) l.2 r.2 := by
  cases op with
  | add | subtract | multiply | divide => rfl
  | _ => cases hop

theorem castTree_unary (d : Dialect) {op : Op} (hop : op.isUnary) (t : SqlType)
    (a : Expr × SqlTree) : op.castTree d t [some a] =
      if settles op then .settled d t a.1.type (.call op.name [a.2]) else .call op.name [a.2] := by
  cases op with
  | abs | ceil | floor | sign => rfl
  | _ => cases hop

theorem castTree_variadic (d : Dialect) {op : Op} (hop : op.isVariadic) (t : SqlType)
    (as : List (Option (Expr × SqlTree))) :
    op.castTree d t as = .call op.name (as.filterMap (Option.map Prod.snd)) := by
  cases op with
  | coalesce | greatest | least => rfl
  | _ => cases hop

theorem castTree_binary (d : Dialect) {op : Op} (hop : op.isArithmetic) (t : SqlType)
    (l r : Expr × SqlTree) : op.castTree d t [some l, some r] =
      .infixed (operator op)
        (if needsDouble d op t l.1 r.1 then .cast l.2 (d.typeName (.floating .double)) else l.2)
        r.2 := by
  cases op with
  | add | subtract | multiply | divide => rfl
  | _ => cases hop

/-- Without its casts, what the dialect is given is the tree of the operations. -/
theorem castTree_withoutCasts (d : Dialect) {e : Expr} (h : e.Regular) :
    (e.castTree d).withoutCasts = e.operationTree d := by
  induction h with
  | literal v t s | column b n t s => rfl
  | cast ha u t s ih =>
    simpa [Expr.castTree_mk, Expr.operationTree_mk, Op.castTree, Op.tree,
      SqlTree.withoutCasts] using ih
  | aliased ha n t s ih =>
    simpa [Expr.castTree_mk, Expr.operationTree_mk, Op.castTree, Op.tree] using ih
  | @unary op a hop ha t s ih =>
    simp only [Expr.castTree_mk, Expr.operationTree_mk, List.map_cons, List.map_nil,
      Option.map_some, castTree_unary d hop, tree_unary d hop]
    split
    · rw [SqlTree.settled_withoutCasts]
      simp [SqlTree.withoutCasts, SqlTree.withoutCastsAll, ih]
    · simp [SqlTree.withoutCasts, SqlTree.withoutCastsAll, ih]
  | @round a n ha hn t s iha ihn =>
    simp only [Expr.castTree_mk, Expr.operationTree_mk, List.map_cons, List.map_nil,
      Option.map_some, Op.castTree, Op.tree]
    split
    · rename_i h
      simp [SqlTree.withoutCasts, SqlTree.withoutCastsAll, iha, ihn, h.1]
    · rw [SqlTree.settled_withoutCasts]
      split <;> simp [SqlTree.withoutCasts, SqlTree.withoutCastsAll, iha, ihn]
  | @variadic op as hop hne ha t s ih =>
    have hm : as.map (fun a => (a.castTree d).withoutCasts) = as.map (Expr.operationTree d) :=
      List.map_congr_left ih
    simpa [Expr.castTree_mk, Expr.operationTree_mk, castTree_variadic d hop, tree_variadic d hop,
      SqlTree.withoutCasts, SqlTree.withoutCastsAll_eq, List.filterMap_map,
      Function.comp_def] using hm
  | @stringAgg a p f ha hp hf t s iha ihp ihf =>
    simp only [Expr.castTree_mk, Expr.operationTree_mk, List.map_cons, List.map_nil,
      Option.map_some, Op.castTree, Op.tree, SqlTree.aggregated_withoutCasts, iha, ihp]
    cases f with
    | none => rfl
    | some f => simp [ihf f rfl]
  | @binary op l r hop hl hr t s ihl ihr =>
    simp only [Expr.castTree_mk, Expr.operationTree_mk, List.map_cons, List.map_nil,
      Option.map_some, castTree_binary d hop, tree_binary d hop, SqlTree.withoutCasts, ihr]
    split <;> simp [SqlTree.withoutCasts, ihl]

namespace Tokens

/-- The tokens without the spaces between them. -/
def solid (ts : Tokens) : Tokens := ts.filter (· ≠ space)

theorem solid_append (ts ss : Tokens) : solid (ts ++ ss) = solid ts ++ solid ss :=
  List.filter_append ts ss

theorem solid_parens (ts : Tokens) : solid (parens ts) = parens (solid ts) := by
  simp [solid, parens, space]

theorem solid_castAs (n : String) (ts : Tokens) :
    solid (castAs n ts) =
      .keyword .CAST :: parens (solid ts ++ [.keyword .AS, .typeName n]) := by
  simp [solid, castAs, parens, space]

theorem solid_whenTrue (cs vs : Tokens) :
    solid (whenTrue cs vs) = .keyword .CASE :: .keyword .WHEN :: (solid cs ++
      .keyword .THEN :: (solid vs ++ .keyword .ELSE :: ([.null] ++ [.keyword .END]))) := by
  simp [solid, whenTrue, space]

theorem solid_filterClause (cs : Tokens) :
    solid (filterClause cs) = .keyword .FILTER :: parens (.keyword .WHERE :: solid cs) := by
  simp [solid, filterClause, parens, space]

theorem solid_infixed (op : Symbol) (ls rs : Tokens) :
    solid (infixed op ls rs) = solid ls ++ .symbol op :: solid rs := by
  simp [solid, infixed, space]

theorem solid_call (f : String) (items : List Tokens) :
    solid (call f items) = .function f :: parens (solid (list items)) := by
  simp [solid, call, parens, space]

theorem list_cons (ts ss : Tokens) (items : List Tokens) :
    list (ts :: ss :: items) = ts ++ ([.symbol .comma, space] ++ list (ss :: items)) := by
  simp [list, List.intercalate]

end Tokens

open Tokens (solid)

/-- The level at which a node of the operation is derived. -/
def Op.level : Op → Nat
  | add | subtract => 1
  | multiply | divide => 2
  | _ => atomLevel

theorem operator_precedence {op : Op} (hop : op.isArithmetic) :
    (operator op).precedence? = some op.level := by
  cases op with
  | add | subtract | multiply | divide => rfl
  | _ => cases hop

theorem level_le (op : Op) : op.level ≤ atomLevel := by
  cases op <;> simp [Op.level, atomLevel]

theorem Derives.whole {op : Op} {u : SqlTree} {ts : Tokens}
    (h : Derives (.expr op.level u) ts) : Derives (.expr 0 u) ts :=
  h.loosen (Nat.zero_le _) (level_le op)

theorem level_of_not_arithmetic {op : Op} (hop : op.isArithmetic = false) :
    op.level = atomLevel := by
  cases op <;> first | rfl | cases hop

theorem derives_args {us : List SqlTree} {items : List Tokens}
    (h : List.Forall₂ (fun u ts => Derives (.expr 0 u) (solid ts)) us items) (hne : us ≠ []) :
    Derives (.args us) (solid (Tokens.list items)) := by
  induction h with
  | nil => exact absurd rfl hne
  | @cons u ts us items hu hus ih =>
    cases hus with
    | nil => simpa [Tokens.list, List.intercalate] using Derives.one hu
    | @cons v ss vs items hv hvs =>
      have hs := Derives.more hu (ih (by simp))
      rw [Tokens.list_cons, Tokens.solid_append, Tokens.solid_append]
      simpa [solid, Tokens.space] using hs

theorem derives_call (f : String) {us : List SqlTree} {items : List Tokens}
    (h : List.Forall₂ (fun u ts => Derives (.expr 0 u) (solid ts)) us items) (hne : us ≠ []) :
    Derives (.application (.call f us)) (solid (Tokens.call f items)) := by
  rw [Tokens.solid_call]
  exact .call f (derives_args h hne)

theorem derives_castTo (d : Dialect) (t : SqlType) {u : SqlTree} {ts : Tokens}
    (h : Derives (.expr 0 u) (solid ts)) :
    Derives (.expr atomLevel (.cast u (d.typeName t))) (solid (castTo d t ts)) := by
  rw [castTo, Tokens.solid_castAs]
  exact .cast _ h

theorem derives_settle (d : Dialect) (t a : SqlType) {u : SqlTree} {ts : Tokens}
    (h : Derives (.expr atomLevel u) (solid ts)) :
    Derives (.expr atomLevel (.settled d t a u)) (solid (settle d t a ts)) := by
  unfold SqlTree.settled settle
  split
  · exact h
  · exact derives_castTo d t h.atom

theorem derives_stringAgg (d : Dialect) {v s : SqlTree} {vs ss : Tokens}
    (hv : Derives (.expr 0 v) (solid vs)) (hs : Derives (.expr 0 s) (solid ss)) :
    Derives (.application (.joined d v s)) (solid (d.stringAgg vs ss)) := by
  cases d with
  | mysql =>
    have h := Derives.separated "group_concat" hv hs
    simpa [SqlTree.joined, Dialect.stringAgg, Dialect.rules, solid, Tokens.parens,
      Tokens.space] using h
  | databricks | trino =>
    have hc (f : String) := derives_call f (.cons hv .nil) (by simp)
    exact derives_call _ (.cons (Derives.application (hc _)).atom (.cons hs .nil)) (by simp)
  | _ => exact derives_call _ (.cons hv (.cons hs .nil)) (by simp)

theorem derives_condition (d : Dialect) {c : SqlTree} {cs : Tokens}
    (h : Derives (.expr 0 c) (solid cs)) :
    Derives (.expr 0 (.condition d c)) (solid (d.condition cs)) := by
  unfold SqlTree.condition Dialect.condition
  simp only [comparesBooleans_iff]
  split
  · rw [Tokens.solid_infixed]
    have hone : Derives (.expr atomLevel (.literal (.integer 1))) [.integer 1] := .literal rfl
    exact .infixed rfl h (hone.loosen (by decide) (Nat.le_refl _))
  · exact h

theorem derives_aggregated (d : Dialect) {v s : SqlTree} {vs ss : Tokens}
    {f : Option SqlTree} {fs : Option Tokens} (hv : Derives (.expr 0 v) (solid vs))
    (hs : Derives (.expr 0 s) (solid ss))
    (hf : Option.Rel (fun u ts => Derives (.expr 0 u) (solid ts)) f fs) :
    Derives (.expr atomLevel (.aggregated d v s f)) (solid (aggregated d vs ss fs)) := by
  cases hf with
  | none => exact .application (derives_stringAgg d hv hs)
  | @some c cs hc =>
    have hc := derives_condition d hc
    simp only [SqlTree.aggregated, aggregated, aggregateFilter_eq]
    split
    · rw [Tokens.solid_append, Tokens.solid_filterClause]
      exact .filtered (derives_stringAgg d hv hs) hc
    · have hnull : Derives (.expr atomLevel (.literal .null)) [.null] := .literal rfl
      have hchoice := Derives.choice hc hv hnull.atom
      rw [← Tokens.solid_whenTrue] at hchoice
      exact .application (derives_stringAgg d hchoice.atom hs)

theorem derives_literal {v : Literal} {ts : Tokens} (h : literal v = .ok ts) :
    Derives (.expr atomLevel (.literal v)) (solid ts) := by
  cases v with
  | real x =>
    simp only [literal] at h
    split at h
    · cases h
      exact .literal rfl
    · cases h
  | _ =>
    cases h
    exact .literal rfl

theorem derives_operand {d : Dialect} {e : Expr} {u : SqlTree} {ts : Tokens}
    (he : ∀ ts, e.tokens d = .ok ts → Derives (.expr e.op.level u) (solid ts))
    (h : operand ⟨e, e.tokens d⟩ = .ok ts) : Derives (.expr atomLevel u) (solid ts) := by
  obtain ⟨xs, hxs, h⟩ := bind_eq_ok.mp h
  have hx := he xs hxs
  cases hop : e.op.isArithmetic with
  | false =>
    rw [level_of_not_arithmetic hop] at hx
    simp only [hop, Bool.false_eq_true, if_false, except_pure, Except.ok.injEq] at h
    exact h ▸ hx
  | true =>
    simp only [hop, if_true, except_pure, Except.ok.injEq] at h
    rw [← h, Tokens.solid_parens]
    exact .parens (hx.whole)

theorem derives_rounded {d : Dialect} {a n : Expr} {u w : SqlTree} {t : SqlType} {ts : Tokens}
    (ha : ∀ vs, a.tokens d = .ok vs → Derives (.expr 0 u) (solid vs))
    (hn : ∀ ns, n.tokens d = .ok ns → Derives (.expr 0 w) (solid ns))
    (h : rounded d t ⟨a, a.tokens d⟩ ⟨n, n.tokens d⟩ = .ok ts) :
    Derives (.expr atomLevel (Op.round.castTree d t [some (a, u), some (n, w)])) (solid ts) := by
  simp only [Op.castTree, Op.tree]
  by_cases hd : dropsDigits d n
  · rw [rounded_drop hd] at h
    obtain ⟨vs, hv, h⟩ := bind_eq_ok.mp h
    cases h
    have hcall := derives_call "round" (.cons (ha vs hv) .nil) (by simp)
    simp only [hd, not_true, false_and, if_false, if_true]
    exact derives_settle d t a.type (.application hcall)
  · rw [rounded_keep hd] at h
    obtain ⟨ns, hns, h⟩ := bind_eq_ok.mp h
    obtain ⟨vs, hv, h⟩ := bind_eq_ok.mp h
    cases h
    simp only [hd, not_false_eq_true, true_and, if_false]
    split
    · have hcast :
          Derives (.expr atomLevel (.cast u "NUMERIC")) (solid (.castAs "NUMERIC" vs)) := by
        rw [Tokens.solid_castAs]
        exact .cast _ (ha vs hv)
      have hcall := derives_call "round" (.cons hcast.atom (.cons (hn ns hns) .nil)) (by simp)
      exact derives_castTo d t (Derives.application hcall).atom
    · have hcall := derives_call "round" (.cons (ha vs hv) (.cons (hn ns hns) .nil)) (by simp)
      exact derives_settle d t a.type (.application hcall)

theorem derives_unary {d : Dialect} {op : Op} {a : Expr} {u : SqlTree} {t : SqlType}
    {ts : Tokens} (hop : op.isUnary) (ha : Derives (.expr 0 u) (solid ts)) :
    Derives (.expr op.level (op.castTree d t [some (a, u)]))
      (solid (if settles op then settle d t a.type (call1 op ts) else call1 op ts)) := by
  have hcall : Derives (.expr atomLevel (.call op.name [u])) (solid (call1 op ts)) :=
    .application (derives_call _ (.cons ha .nil) (by simp))
  have hl : op.level = atomLevel := by cases op <;> first | rfl | cases hop
  rw [hl, castTree_unary d hop]
  split
  · exact derives_settle d t a.type hcall
  · exact hcall

theorem derives_arithmetic {d : Dialect} {op : Op} {l r : Expr} {u w : SqlTree} {t : SqlType}
    {ts : Tokens} (hop : op.isArithmetic)
    (hl : ∀ xs, l.tokens d = .ok xs → Derives (.expr l.op.level u) (solid xs))
    (hr : ∀ ys, r.tokens d = .ok ys → Derives (.expr r.op.level w) (solid ys))
    (h : arithmetic d op t ⟨l, l.tokens d⟩ ⟨r, r.tokens d⟩ = .ok ts) :
    Derives (.expr op.level (op.castTree d t [some (l, u), some (r, w)])) (solid ts) := by
  obtain ⟨xs, hxs, h⟩ := bind_eq_ok.mp h
  obtain ⟨ys, hys, h⟩ := bind_eq_ok.mp h
  cases h
  have hx := derives_operand hl hxs
  have hy := derives_operand hr hys
  have hlt := Symbol.precedence_lt (operator_precedence hop)
  rw [castTree_binary d hop, Tokens.solid_infixed]
  refine .infixed (operator_precedence hop) ?_ (hy.loosen hlt (Nat.le_refl _))
  split
  · exact (derives_castTo d _ hx.atom).loosen (level_le _) (Nat.le_refl _)
  · exact hx.loosen (level_le _) (Nat.le_refl _)

/-- An expression without aliases is given to the dialect as its tree. -/
theorem derives_tokens {d : Dialect} {e : Expr} {ts : Tokens} (hr : e.Regular)
    (ha : e.aliasFree) (h : e.tokens d = .ok ts) :
    Derives (.expr e.op.level (e.castTree d)) (solid ts) := by
  induction hr generalizing ts with
  | literal v t s =>
    rw [tokens_literal] at h
    exact derives_literal h
  | column b n t s =>
    rw [tokens_column] at h
    cases h
    exact .ident n
  | @cast a hr u t s ih =>
    rw [tokens_cast, bind_eq_ok] at h
    obtain ⟨xs, hxs, h⟩ := h
    cases h
    have hx := ih ((Expr.aliasFree_iff.mp ha).2 a (by simp)) hxs
    exact derives_castTo d u (hx.whole)
  | aliased hr n t s => cases (Expr.aliasFree_iff.mp ha).1
  | @unary op a hop hr t s ih =>
    rw [tokens_unary hop, bind_eq_ok] at h
    obtain ⟨xs, hxs, h⟩ := h
    cases h
    have hx := ih ((Expr.aliasFree_iff.mp ha).2 a (by simp)) hxs
    rw [Expr.castTree_mk]
    exact derives_unary hop hx.whole
  | @round a n hra hrn t s iha ihn =>
    have hfree := (Expr.aliasFree_iff.mp ha).2
    rw [tokens_round] at h
    rw [Expr.castTree_mk]
    exact derives_rounded (fun vs hv => (iha (hfree a (by simp)) hv).whole)
      (fun ns hn => (ihn (hfree n (by simp)) hn).whole) h
  | @variadic op as hop hne hr t s ih =>
    have hfree := (Expr.aliasFree_iff.mp ha).2
    rw [tokens_variadic hop, bind_eq_ok] at h
    obtain ⟨items, hitems, h⟩ := h
    cases h
    have hl : op.level = atomLevel := by cases op <;> first | rfl | cases hop
    have hargs : List.Forall₂ (fun u ts => Derives (.expr 0 u) (solid ts))
        (as.map (Expr.castTree d)) items := by
      have hm : ∀ a ∈ as, some a ∈ as.map some := fun a h => List.mem_map_of_mem h
      rw [List.forall₂_map_left_iff]
      exact ((List.forall₂_and_left _ _).mpr ⟨fun a h => h, mapM_eq_ok.mp hitems⟩).imp
        fun a ts hat => (ih a hat.1 (hfree a (hm a hat.1)) hat.2).whole
    have hcall := derives_call op.name hargs (by simpa using hne)
    simp only [hl, Expr.castTree_mk, castTree_variadic d hop]
    simpa [List.filterMap_map, Function.comp_def] using Derives.application hcall
  | @stringAgg a p f hra hrp hrf t s iha ihp ihf =>
    have hfree := (Expr.aliasFree_iff.mp ha).2
    rw [tokens_stringAgg] at h
    simp only [bind_eq_ok] at h
    obtain ⟨vs, hv, ss, hs, fs, hf, h⟩ := h
    cases h
    have hdv := (iha (hfree a (by simp)) hv).whole
    have hds := (ihp (hfree p (by simp)) hs).whole
    rw [Expr.castTree_mk]
    refine derives_aggregated d hdv hds ?_
    cases f with
    | none =>
      cases hf
      exact .none
    | some f =>
      obtain ⟨cs, hc, rfl⟩ := map_eq_ok.mp hf
      exact .some (ihf f rfl (hfree f (by simp)) hc).whole
  | @binary op l r hop hrl hrr t s ihl ihr =>
    have hfree := (Expr.aliasFree_iff.mp ha).2
    rw [tokens_binary hop] at h
    rw [Expr.castTree_mk]
    exact derives_arithmetic hop (fun _ => ihl (hfree l (by simp)))
      (fun _ => ihr (hfree r (by simp))) h

theorem regular_alias {e : Expr} (hr : e.Regular) (h : e.op.isAlias) :
    ∃ a n t s, e = ⟨.aliased n, [some a], t, s⟩ ∧ a.Regular := by
  cases hr with
  | aliased hr n t s => exact ⟨_, n, t, s, rfl, hr⟩
  | @unary op _ hop | @variadic op _ hop | @binary op _ _ hop =>
    cases op with
    | aliased => cases hop
    | _ => cases h
  | _ => cases h

/-- With no alias below its root, an expression has exactly one tree in the dialect. -/
theorem tokens_derive_castTree {d : Dialect} {e : Expr} {ts : Tokens} (hr : e.Regular)
    (ha : ∀ a, some a ∈ e.args → a.aliasFree) (h : e.tokens d = .ok ts) (u : SqlTree) :
    Derives (.expr 0 u) (solid ts) ↔ u = e.castTree d := by
  have hd : Derives (.expr 0 (e.castTree d)) (solid ts) := by
    cases hop : e.op.isAlias with
    | false => exact (derives_tokens hr (Expr.aliasFree_iff.mpr ⟨hop, ha⟩) h).whole
    | true =>
      obtain ⟨a, n, t, s, rfl, hra⟩ := regular_alias hr hop
      rw [tokens_aliased] at h
      rw [Expr.castTree_mk]
      exact (derives_tokens hra (ha a (by simp)) h).whole
  exact ⟨fun hu => hu.unique hd, fun hu => hu ▸ hd⟩

/-- The tokens of an expression parse, in one way only, to the tree of its operations. -/
theorem tokens_parse_to_operations (d : Dialect) {e : Expr} {ts : Tokens} (he : e.Built)
    (ha : ∀ a, some a ∈ e.args → a.aliasFree) (h : e.tokens d = .ok ts) :
    ∃ u : SqlTree, (∀ v, Derives (.expr 0 v) (solid ts) ↔ v = u) ∧
      u.withoutCasts = e.operationTree d :=
  ⟨e.castTree d, tokens_derive_castTree he.regular ha h, castTree_withoutCasts d he.regular⟩

/-- Half of the age in a year. -/
def halfNextAge : Expr :=
  ⟨.divide, [some nextAge, some (.ofLiteral (.integer 2))], .floating .double, .column⟩

theorem halfNextAge_built : halfNextAge.Built :=
  Expr.built_binary .divide rfl nextAge_built (.literal (.integer 2)) rfl

theorem halfNextAge_parses :
    ∃ u : SqlTree, (∀ v, Derives (.expr 0 v) [.keyword .CAST, .symbol .lparen, .symbol .lparen,
      .ident "age", .symbol .plus, .integer 1, .symbol .rparen, .keyword .AS, .typeName "REAL",
      .symbol .rparen, .symbol .dividedBy, .integer 2] ↔ v = u) ∧
    u.withoutCasts = .infixed .dividedBy
      (.infixed .plus (.ident "age") (.literal (.integer 1))) (.literal (.integer 2)) :=
  have hfree : halfNextAge.aliasFree := rfl
  tokens_parse_to_operations .sqlite halfNextAge_built (Expr.aliasFree_iff.mp hfree).2 rfl

end TypedSql
