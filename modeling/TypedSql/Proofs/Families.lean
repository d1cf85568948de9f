import TypedSql.Proofs.Failures
import TypedSql.Proofs.TypedTrees

namespace TypedSql

open Compile

namespace Family

/-- How far numbers of the family reach. -/
def rank? : Family → Option Nat
  | integer => some 0
  | decimal => some 1
  | floating => some 2
  | _ => none

/-- The family that takes in both, if there is one. -/
def join (f g : Family) : Option Family :=
  if f = null then some g
  else if g = null ∨ f = g then some f
  else
    match f.rank?, g.rank? with
    | some m, some n => some (if m ≤ n then g else f)
    | _, _ => none

def joinFrom (f : Family) : List (Option Family) → Option Family
  | [] => some f
  | none :: _ => none
  | some g :: gs => (f.join g).bind fun h => joinFrom h gs

variable {t u v : SqlType} {ts : List SqlType}

/-- Types that widen to one have families that do. -/
theorem join_of_types (h : t.join u = some v) : t.family.join u.family = some v.family := by
  cases t with
  | null =>
    cases h
    rfl
  | boolean | string => cases u <;> cases h <;> rfl
  | integer w | floating w => cases u <;> cases h <;> rfl
  | decimal p s =>
    cases u with
    | decimal q r =>
      simp only [SqlType.join, Option.some.injEq] at h
      rw [← h]
      split <;> rfl
    | _ => cases h <;> rfl

theorem joinFrom_of_types (h : SqlType.joinFrom t ts = some v) :
    joinFrom t.family (ts.map fun u => some u.family) = some v.family := by
  induction ts generalizing t with
  | nil =>
    cases h
    rfl
  | cons u ts ih =>
    obtain ⟨w, hw, h⟩ := Option.bind_eq_some_iff.mp h
    rw [List.map_cons, joinFrom, join_of_types hw]
    exact ih h

end Family

/-- How the family of a call follows from those of its arguments. -/
inductive CallRule
  | first
  | joined
  | string
deriving DecidableEq

namespace CallRule

def family? : CallRule → List (Option Family) → Option Family
  | first, fs => fs.head?.bind fun f => f
  | joined, fs => Family.joinFrom .null fs
  | string, _ => some .string

/-- The rule for the function that is called by this name in the dialect. -/
def find? (d : Dialect) (name : String) : Option CallRule :=
  if name ∈ ["ABS", "SIGN", "CEIL", "CEILING", "FLOOR", "ROUND"] then some first
  else if name ∈ ["COALESCE", "GREATEST", "LEAST"] then some joined
  else if d = .sqlite ∧ name ∈ ["MAX", "MIN"] then some joined
  else if name ∈ ["STRING_AGG", "LISTAGG", "GROUP_CONCAT", "ARRAY_JOIN"] then some string
  else none

end CallRule

/-- The family of a quotient. Integers are divided in the way of the dialect. -/
def Family.quotient (d : Dialect) (f g : Family) : Option Family :=
  if f = floating ∨ f = decimal ∨ g = floating ∨ g = decimal then f.join g
  else some (if d.rules.integerDivision then integer else floating)

def Family.infixed (d : Dialect) : Symbol → Family → Family → Option Family
  | .plus, f, g | .minus, f, g | .times, f, g => f.join g
  | .dividedBy, f, g => quotient d f g
  | .equals, _, _ => some boolean
  | _, _, _ => none

namespace TypedTree

mutual

/-- The family that the rules of engines give a tree over the columns of a table. -/
def family? (d : Dialect) (b : Option Table) : TypedTree → Option Family
  | ident n => (b.bind fun t => t.find? n).map fun c => c.type.family
  | literal v => some v.type.family
  | call f args => (CallRule.find? d (d.functionText f)).bind fun r => r.family? (families d b args)
  | separated f v s =>
    (CallRule.find? d (d.functionText f)).bind fun r => r.family? [v.family? d b, s.family? d b]
  | filtered u _ => u.family? d b
  | cast _ t => some t.family
  | choice _ v e => (v.family? d b).bind fun f => (e.family? d b).bind fun g => f.join g
  | infixed op l r =>
    (l.family? d b).bind fun f => (r.family? d b).bind fun g => Family.infixed d op f g

def families (d : Dialect) (b : Option Table) : List TypedTree → List (Option Family)
  | [] => []
  | u :: us => u.family? d b :: families d b us

end

theorem families_eq (d : Dialect) (b : Option Table) (us : List TypedTree) :
    families d b us = us.map (family? d b) := by
  induction us with
  | nil => rfl
  | cons u us ih => rw [families, ih, List.map_cons]

variable {d : Dialect} {b : Option Table} {u : TypedTree} {us : List TypedTree} {t a : SqlType}
  {f : String}

/-- The functions that expressions are compiled to, in capitals and with their rules. -/
def functionRules : List (String × String × CallRule) :=
  [("Abs", "ABS", .first), ("Ceil", "CEIL", .first), ("Floor", "FLOOR", .first),
    ("Sign", "SIGN", .first), ("round", "ROUND", .first), ("Coalesce", "COALESCE", .joined),
    ("Greatest", "GREATEST", .joined), ("Least", "LEAST", .joined),
    ("string_agg", "STRING_AGG", .string), ("group_concat", "GROUP_CONCAT", .string),
    ("listagg", "LISTAGG", .string), ("array_join", "ARRAY_JOIN", .string)]

/-- Another name of a function falls under the same rule. -/
theorem rule_of_function (d : Dialect) {c : String} {r : CallRule}
    (h : (f, c, r) ∈ functionRules) : CallRule.find? d (d.functionText f) = some r := by
  have hcapitals : ∀ p ∈ functionRules, capitals p.1 = p.2.1 := by decide +kernel
  have hrules : ∀ p ∈ functionRules, CallRule.find? d
      (((d.rules.renamed.lookup p.2.1).map capitals).getD p.2.1) = some p.2.2 := by
    cases d <;> decide +kernel
  have hc : capitals f = c := hcapitals (f, c, r) h
  have htext : d.functionText f = ((d.rules.renamed.lookup c).map capitals).getD c := by
    rw [Dialect.functionText, Dialect.renamed?, hc]
    cases d.rules.renamed.lookup c with
    | none => rw [Option.getD_none, Option.map_none, Option.getD_none, hc]
    | some n => rw [Option.getD_some, Option.map_some, Option.getD_some]
  rw [htext]
  exact hrules (f, c, r) h

theorem family_first {c : String} (hf : (f, c, .first) ∈ functionRules) :
    (call f (u :: us)).family? d b = u.family? d b := by
  rw [family?, rule_of_function d hf]
  rfl

/-- A cast, or what needs none. -/
theorem family_settled (h : u.family? d b = some a.family) :
    (settled t a u).family? d b = some t.family := by
  unfold settled
  split
  · rename_i hfamily
    rw [h, hfamily]
  · rfl

theorem string_rule (d : Dialect)
    (hf : f ∈ ["string_agg", "group_concat", "listagg", "array_join"]) :
    CallRule.find? d (d.functionText f) = some .string := by
  have hrules : ∀ f ∈ ["string_agg", "group_concat", "listagg", "array_join"],
      ∃ p ∈ functionRules, p.1 = f ∧ p.2.2 = .string := by decide
  obtain ⟨⟨g, c, r⟩, hp, rfl, rfl⟩ := hrules f hf
  exact rule_of_function d hp

/-- String aggregates are strings whatever they are given. -/
theorem family_joined (d : Dialect) (b : Option Table) (v s : TypedTree) :
    (joined d v s).family? d b = some .string := by
  have hcall (f : String) (us : List TypedTree)
      (hf : f ∈ ["string_agg", "group_concat", "listagg", "array_join"]) :
      (call f us).family? d b = some .string := by
    rw [family?, string_rule d hf]
    rfl
  have hseparated : (separated "group_concat" v s).family? d b = some .string := by
    rw [family?, string_rule d (by decide)]
    rfl
  cases d with
  | mysql => exact hseparated
  | _ => exact hcall _ _ (by decide)

theorem family_aggregated (d : Dialect) (b : Option Table) (v s : TypedTree)
    (f : Option TypedTree) : (aggregated d v s f).family? d b = some .string := by
  cases f with
  | none => exact family_joined d b v s
  | some f =>
    simp only [aggregated]
    split
    · rw [family?]
      exact family_joined d b v s
    · exact family_joined d b _ s

end TypedTree

/-- With its left side cast where integers would be divided for a fraction, a quotient has the
family that its type has. -/
theorem quotient_family {f g h : Family} (d : Dialect) (hf : f ≠ .boolean ∧ f ≠ .string)
    (hg : g ≠ .boolean ∧ g ≠ .string) (hj : f.join g = some h) :
    Family.quotient d
      (if h ≠ .decimal ∧ f ≠ .floating ∧ g ≠ .floating ∧ d.rules.integerDivision then .floating
      else f) g = some (if h = .decimal then .decimal else .floating) := by
  cases f with
  | boolean => exact absurd rfl hf.1
  | string => exact absurd rfl hf.2
  | null | integer | floating | decimal =>
    cases g with
    | boolean => exact absurd rfl hg.1
    | string => exact absurd rfl hg.2
    | null | integer | floating | decimal =>
      cases hj
      cases hd : d.rules.integerDivision <;>
        simp [Family.quotient, Family.join, Family.rank?, hd]

theorem family_of_operand {t : SqlType} (h : Expr.isOperand t) :
    t.family ≠ .boolean ∧ t.family ≠ .string := by
  cases t with
  | boolean | string => cases h
  | _ => exact ⟨nofun, nofun⟩

theorem family_of_quotient (t : SqlType) :
    (Expr.arithmeticType .divide t).family =
      if t.family = .decimal then .decimal else .floating := by
  cases t <;> rfl

theorem needsDouble_iff {d : Dialect} {t : SqlType} {l r : Expr} :
    needsDouble d .divide (Expr.arithmeticType .divide t) l r ↔
      t.family ≠ .decimal ∧ l.family ≠ .floating ∧ r.family ≠ .floating ∧
        d.rules.integerDivision := by
  have hfloating : (Expr.arithmeticType .divide t).family = .floating ↔ t.family ≠ .decimal := by
    rw [family_of_quotient]
    split <;> simp [*]
  simp [needsDouble, hfloating, SqlType.isFloating, Expr.family, and_assoc]

/-- Arithmetic on families is that on types. -/
theorem infixed_family {op : Op} {l r : Expr} {t : SqlType} (d : Dialect) (hop : op.isArithmetic)
    (hl : Expr.isOperand l.type) (hr : Expr.isOperand r.type)
    (hj : l.type.join r.type = some t) :
    Family.infixed d (operator op)
      (if needsDouble d op (Expr.arithmeticType op t) l r then .floating else l.family) r.family =
      some (Expr.arithmeticType op t).family := by
  have hfamily : l.family.join r.family = some t.family := Family.join_of_types hj
  have htype : op ≠ .divide → Expr.arithmeticType op t = t := fun hne => if_neg fun h => hne h.1
  have hcast : op ≠ .divide → needsDouble d op t l r = false := by
    intro hne
    simp [needsDouble, hne]
  cases op with
  | add | subtract | multiply =>
    rw [htype (by simp), hcast (by simp)]
    exact hfamily
  | divide =>
    simp only [needsDouble_iff, family_of_quotient]
    exact quotient_family d (family_of_operand hl) (family_of_operand hr) hfamily
  | _ => cases hop

/-- The columns of the expression are of the table, if it has any. -/
def Expr.Over (b : Option Table) (e : Expr) : Prop :=
  ∀ n ∈ e.nodes, ∀ t, n.table? = some t → b = some t

theorem Expr.Over.arg {b : Option Table} {e a : Expr} (h : e.Over b) (ha : some a ∈ e.args) :
    a.Over b := by
  obtain ⟨op, args, t, s⟩ := e
  exact fun n hn => h n (mem_nodes.mpr (.inr ⟨a, ha, hn⟩))

open TypedTree

variable {d : Dialect} {b : Option Table} {e : Expr}

theorem unary_rule {op : Op} (hop : op.isUnary) :
    ∃ c, (op.name, c, .first) ∈ functionRules := by
  cases op with
  | abs => exact ⟨"ABS", by decide⟩
  | ceil => exact ⟨"CEIL", by decide⟩
  | floor => exact ⟨"FLOOR", by decide⟩
  | sign => exact ⟨"SIGN", by decide⟩
  | _ => cases hop

theorem variadic_rule {op : Op} (hop : op.isVariadic) :
    ∃ c, (op.name, c, .joined) ∈ functionRules := by
  cases op with
  | coalesce => exact ⟨"COALESCE", by decide⟩
  | greatest => exact ⟨"GREATEST", by decide⟩
  | least => exact ⟨"LEAST", by decide⟩
  | _ => cases hop

theorem family_unary {op : Op} {a : Expr} (hop : op.isUnary)
    (ha : (a.typedTree d).family? d b = some a.family) (s : Shape) :
    (Expr.typedTree d ⟨op, [some a], op.unaryType a.type, s⟩).family? d b =
      some (op.unaryType a.type).family := by
  obtain ⟨c, hc⟩ := unary_rule hop
  have hcall : (call op.name [a.typedTree d]).family? d b = some a.family :=
    (family_first hc).trans ha
  rw [typedTree_unary hop]
  cases op with
  | abs | sign => exact hcall
  | ceil | floor => exact family_settled hcall
  | _ => cases hop

/-- Whatever its digits are, a rounding has the family of its type. -/
theorem family_round {a : Expr} (ha : (a.typedTree d).family? d b = some a.family) (n : Expr)
    (t : SqlType) (s : Shape) :
    (Expr.typedTree d ⟨.round, [some a, some n], t, s⟩).family? d b = some t.family := by
  have hround : ("round", "ROUND", .first) ∈ functionRules := by decide
  have hcall (us : List TypedTree) :
      (call "round" (a.typedTree d :: us)).family? d b = some a.family :=
    (family_first hround).trans ha
  rw [Expr.typedTree_mk]
  simp only [List.map_cons, List.map_nil, Option.map_some, Op.typedTree]
  split
  · exact family_settled (hcall [])
  · split
    · rfl
    · exact family_settled (hcall [n.typedTree d])

theorem family_variadic {op : Op} {as : List Expr} {t : SqlType} (hop : op.isVariadic)
    (ha : ∀ a ∈ as, (a.typedTree d).family? d b = some a.family)
    (ht : SqlType.joinAll op.name (as.map Expr.type) = .ok t) (s : Shape) :
    (Expr.typedTree d ⟨op, as.map some, t, s⟩).family? d b = some t.family := by
  obtain ⟨c, hc⟩ := variadic_rule hop
  have hargs : families d b (as.map (Expr.typedTree d)) =
      (as.map Expr.type).map fun u => some u.family := by
    rw [families_eq, List.map_map, List.map_map]
    exact List.map_congr_left ha
  rw [typedTree_variadic hop, family?, rule_of_function d hc, hargs]
  exact Family.joinFrom_of_types (SqlType.joinAll_eq_ok.mp ht)

theorem family_stringAgg (d : Dialect) (b : Option Table) (a p : Expr) (f : Option Expr)
    (s : Shape) :
    (Expr.typedTree d ⟨.stringAgg, [some a, some p, f], .string, s⟩).family? d b =
      some .string := by
  rw [Expr.typedTree_mk]
  exact family_aggregated d b _ _ _

theorem family_binary {op : Op} {l r : Expr} {t : SqlType} (hop : op.isArithmetic)
    (hl : (l.typedTree d).family? d b = some l.family)
    (hr : (r.typedTree d).family? d b = some r.family) (hol : Expr.isOperand l.type)
    (hor : Expr.isOperand r.type) (hj : l.type.join r.type = some t) (s : Shape) :
    (Expr.typedTree d ⟨op, [some l, some r], Expr.arithmeticType op t, s⟩).family? d b =
      some (Expr.arithmeticType op t).family := by
  have hleft : TypedTree.family? d b
      (if needsDouble d op (Expr.arithmeticType op t) l r then
        .cast (l.typedTree d) (.type (.floating .double)) else l.typedTree d) =
      some (if needsDouble d op (Expr.arithmeticType op t) l r then .floating else l.family) := by
    split
    · rfl
    · exact hl
  rw [typedTree_binary hop, family?, hleft, hr]
  exact infixed_family d hop hol hor hj

/-- The value that an engine computes is of the family that the expression has. -/
theorem family_of_built (he : e.Built) (hb : e.Over b) :
    (e.typedTree d).family? d b = some e.family := by
  -- The induction is on how the expression was built: a cast to its own type leaves no node.
  induction he with
  | literal v =>
    rw [Expr.ofLiteral, Expr.typedTree_mk]
    rfl
  | @column t n e h =>
    obtain ⟨c, hc, hn, rfl⟩ := Expr.column_eq_ok.mp h
    have htable : b = some t := hb _ (Expr.mem_nodes.mpr (.inl rfl)) t rfl
    rw [Expr.ofColumn, Expr.typedTree_mk]
    simp [Op.typedTree, family?, htable, hn, hc, Expr.family]
  | @form f e hp ha h ih =>
    cases f with
    | unary op a =>
      obtain ⟨-, hop, rfl⟩ := Expr.unary_eq_ok.mp h
      exact family_unary hop (ih a (by simp [Form.operands]) (hb.arg (by simp))) _
    | round a n =>
      obtain ⟨-, -, rfl⟩ := Expr.round_eq_ok.mp h
      exact family_round (ih a (by simp [Form.operands]) (hb.arg (by simp))) _ _ _
    | variadic op as =>
      obtain ⟨-, t, ht, rfl⟩ := Expr.variadic_eq_ok.mp h
      exact family_variadic hp (fun a ha => ih a ha (hb.arg (List.mem_map_of_mem ha))) ht _
    | stringAgg a s c =>
      obtain ⟨-, rfl⟩ := Expr.stringAgg_eq_ok.mp h
      exact family_stringAgg d b _ _ _ _
    | cast a t =>
      obtain ⟨-, -, rfl⟩ := Expr.cast_eq_ok.mp h
      by_cases ht : a.type = t
      · rw [if_pos ht] at hb ⊢
        exact ih a (by simp [Form.operands]) hb
      · rw [if_neg ht, Expr.typedTree_mk]
        rfl
    | binary op l r =>
      obtain ⟨hol, hor, t, ht, rfl⟩ := Expr.binary_eq_ok.mp h
      have hl := ih l (by simp [Form.operands]) (hb.arg (by simp))
      have hr := ih r (by simp [Form.operands]) (hb.arg (by simp))
      exact family_binary hp hl hr hol hor ht _
    | aliased a n =>
      cases h
      rw [Expr.aliased, Expr.typedTree_mk]
      exact ih a (by simp [Form.operands]) (hb.arg (by simp [Expr.aliased]))

theorem over_of_one (h : ¬e.MixesTables) : e.Over e.tables.head? := by
  intro n hn t ht
  have hmem : t ∈ e.tables := Expr.mem_tables.mpr ⟨n, hn, ht⟩
  cases htables : e.tables with
  | nil =>
    rw [htables] at hmem
    cases hmem
  | cons u us =>
    by_cases heq : u = t
    · rw [heq]
      rfl
    · exact absurd (Expr.mixesTables_iff.mpr ⟨u, by simp [htables], t, hmem, heq⟩) h

/-- What an expression compiles to parses, in one way only, to a tree of which the rules of engines
say that it has the family of the expression. -/
theorem compiled_family {o : CompileOptions} {sql : String} (he : e.Built)
    (ha : ∀ a, some a ∈ e.args → a.aliasFree) (h : (Target.expr e).compile o = .ok sql) :
    ∃ q ts, e.query o.dialect = .ok q ∧ q.select = [⟨ts, e.selectAlias⟩] ∧
      { q with pretty := o.pretty }.sql o.dialect = .ok sql ∧
      (∀ v, Derives (.expr 0 v) (Tokens.solid ts) ↔
        v = (e.typedTree o.dialect).plain o.dialect) ∧
      (e.typedTree o.dialect).family? o.dialect e.tables.head? = some e.family := by
  obtain ⟨q, hq, hsql⟩ := bind_eq_ok.mp h
  obtain ⟨hm, ts, hts, hselect⟩ := Expr.query_eq_ok hq
  refine ⟨q, ts, hq, hselect, hsql, fun v => ?_, family_of_built he (over_of_one hm)⟩
  rw [typedTree_plain o.dialect he.regular]
  exact tokens_derive_castTree he.regular ha hts v

theorem halfNextAge_floating :
    ∃ sql, (Target.expr halfNextAge).compile { dialect := .sqlite } = .ok sql ∧
      (halfNextAge.typedTree .sqlite).family? .sqlite (some people) = some .floating := by
  have hfree : halfNextAge.aliasFree := rfl
  obtain ⟨q, hq⟩ : ∃ q, halfNextAge.query .sqlite = .ok q := ⟨_, rfl⟩
  obtain ⟨sql, hsql⟩ := sql_of_query hq .sqlite true
  have hcompile : (Target.expr halfNextAge).compile { dialect := .sqlite } = .ok sql :=
    bind_eq_ok.mpr ⟨q, hq, hsql⟩
  obtain ⟨-, -, -, -, -, -, hfamily⟩ :=
    compiled_family halfNextAge_built (Expr.aliasFree_iff.mp hfree).2 hcompile
  exact ⟨sql, hcompile, hfamily⟩

end TypedSql
