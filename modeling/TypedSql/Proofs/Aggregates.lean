import TypedSql.Proofs.Calls
import TypedSql.Proofs.Shapes

namespace TypedSql

open Compile

def stringAggregates : List String := ["STRING_AGG", "LISTAGG", "GROUP_CONCAT"]

def arrayAggregates : List String := ["ARRAY_AGG", "COLLECT_LIST"]

/-- Functions that make one value out of those of all rows. -/
def aggregateNames : List String := stringAggregates ++ arrayAggregates

namespace Dialect

/-- Whether the engine takes a call with so many arguments for an aggregate. SQLite compares the
arguments of `MAX` and `MIN` only if there are several of them. -/
def Aggregates (d : Dialect) (call : String × Nat) : Prop :=
  d.functionText call.1 ∈ aggregateNames ∨
    d = sqlite ∧ d.functionText call.1 ∈ ["MAX", "MIN"] ∧ call.2 = 1

instance (d : Dialect) (call : String × Nat) : Decidable (d.Aggregates call) :=
  inferInstanceAs (Decidable (_ ∨ _ ∧ _ ∧ _))

/-- The functions of one row under every name. -/
def rowNames : List String := ["Abs", "Ceil", "Floor", "Sign", "round", "Coalesce"]

variable {f : String} {n : Nat}

theorem not_aggregates_row (d : Dialect) (hf : f ∈ rowNames) : ¬d.Aggregates (f, n) := by
  have hnames : ∀ f ∈ rowNames, d.functionText f ∉ aggregateNames ++ ["MAX", "MIN"] := by
    cases d <;> decide +kernel
  have hname := hnames f hf
  rw [List.mem_append, not_or] at hname
  rintro (h | ⟨-, h, -⟩)
  · exact hname.1 h
  · exact hname.2 h

/-- The largest or the smallest of one argument is that of all rows. -/
theorem aggregates_extreme (d : Dialect) (hf : f ∈ ["Greatest", "Least"]) :
    d.Aggregates (f, n) ↔ d = sqlite ∧ n = 1 := by
  have hnames : ∀ f ∈ ["Greatest", "Least"], d.functionText f ∉ aggregateNames ∧
      (d = sqlite → d.functionText f ∈ ["MAX", "MIN"]) := by
    cases d <;> decide +kernel
  obtain ⟨hname, hextreme⟩ := hnames f hf
  constructor
  · rintro (h | ⟨hd, -, hn⟩)
    · exact absurd h hname
    · exact ⟨hd, hn⟩
  · rintro ⟨hd, hn⟩
    exact .inr ⟨hd, hextreme hd, hn⟩

end Dialect

namespace Tokens

/-- Among the calls is one that the engine takes for an aggregate. -/
def CallsAggregate (d : Dialect) (ts : Tokens) : Prop := ∃ c ∈ ts.calls, d.Aggregates c

instance (d : Dialect) (ts : Tokens) : Decidable (ts.CallsAggregate d) :=
  inferInstanceAs (Decidable (∃ c ∈ ts.calls, d.Aggregates c))

end Tokens

namespace Expr

open Tokens

variable {d : Dialect} {e a : Expr} {op : Op} {args : List (Option Expr)} {t u : SqlType}
  {s : Shape} {ts : Tokens}

/-- The call that a node is compiled to, with the number of its arguments. -/
def call? (d : Dialect) (n : Expr) : Option (String × Nat) :=
  match n.op, n.args with
  | .round, [_, some digits] => some ("round", if dropsDigits d digits then 1 else 2)
  | op, args => if op.isUnary || op.isVariadic then some (op.name, args.length) else none

/-- The calls that the nodes are compiled to, each before those of its arguments. -/
def nodeCalls (d : Dialect) (e : Expr) : List (String × Nat) := e.nodes.filterMap (call? d)

theorem nodeCalls_mk (as : List Expr) :
    nodeCalls d ⟨op, as.map some, t, s⟩ =
      (call? d ⟨op, as.map some, t, s⟩).toList ++ as.flatMap (nodeCalls d) := by
  have hargs : (argNodes (as.map some)).filterMap (call? d) = as.flatMap (nodeCalls d) := by
    rw [argNodes_eq, List.flatMap_map, List.filterMap_flatMap]
    rfl
  rw [nodeCalls, nodes, ← hargs, List.filterMap_cons]
  cases call? d ⟨op, as.map some, t, s⟩ <;> rfl

/-- A node that is no call has the calls of its arguments. -/
theorem nodeCalls_none (as : List Expr) (h : call? d ⟨op, as.map some, t, s⟩ = none) :
    nodeCalls d ⟨op, as.map some, t, s⟩ = as.flatMap (nodeCalls d) := by
  rw [nodeCalls_mk, h]
  rfl

theorem nodeCalls_some (as : List Expr) {c : String × Nat}
    (h : call? d ⟨op, as.map some, t, s⟩ = some c) :
    nodeCalls d ⟨op, as.map some, t, s⟩ = c :: as.flatMap (nodeCalls d) := by
  rw [nodeCalls_mk, h]
  rfl

theorem call?_unary (hop : op.isUnary) :
    call? d ⟨op, args, t, s⟩ = some (op.name, args.length) := by
  cases op with
  | abs | ceil | floor | sign => rfl
  | _ => cases hop

theorem call?_variadic (hop : op.isVariadic) :
    call? d ⟨op, args, t, s⟩ = some (op.name, args.length) := by
  cases op with
  | coalesce | greatest | least => rfl
  | _ => cases hop

theorem call?_arithmetic (hop : op.isArithmetic) : call? d ⟨op, args, t, s⟩ = none := by
  cases op with
  | add | subtract | multiply | divide => rfl
  | _ => cases hop

theorem enclosed_tokens (h : e.tokens d = .ok ts) : Enclosed ts := (enclosed_inherited d).tokens h

theorem calls_settle (h : Enclosed ts) : calls (settle d t u ts) = calls ts := by
  unfold settle
  split
  · rfl
  · exact calls_castAs _ h

theorem calls_unary (h : Enclosed ts) :
    calls (if settles op then settle d t u (call1 op ts) else call1 op ts) =
      (op.name, 1) :: calls ts := by
  have hitems : ∀ ss ∈ [ts], Enclosed ss := by simp [h]
  have hcall : calls (call1 op ts) = (op.name, 1) :: calls ts := by
    rw [call1, calls_call _ hitems]
    simp
  split
  · exact (calls_settle (enclosed_call _ hitems)).trans hcall
  · exact hcall

theorem calls_rounded {n : Expr}
    (ha : ∀ vs, a.tokens d = .ok vs → calls vs = a.nodeCalls d)
    (hn : ∀ ns, n.tokens d = .ok ns → calls ns = n.nodeCalls d)
    (h : rounded d t ⟨a, a.tokens d⟩ ⟨n, n.tokens d⟩ = .ok ts) :
    calls ts = ("round", if dropsDigits d n then 1 else 2) ::
      (a.nodeCalls d ++ n.nodeCalls d) := by
  by_cases hdrop : dropsDigits d n
  · rw [rounded_drop hdrop] at h
    obtain ⟨vs, hv, h⟩ := bind_eq_ok.mp h
    cases h
    have hitems : ∀ ts ∈ [vs], Enclosed ts := by simp [enclosed_tokens hv]
    have hzero : n.nodeCalls d = [] := (hn _ (tokens_of_zeroDigits hdrop.1 d)).symm
    rw [calls_settle (enclosed_call _ hitems), calls_call _ hitems, if_pos hdrop, hzero]
    simp [ha vs hv]
  · rw [rounded_keep hdrop] at h
    obtain ⟨ns, hns, h⟩ := bind_eq_ok.mp h
    obtain ⟨vs, hv, h⟩ := bind_eq_ok.mp h
    cases h
    have hvs := enclosed_tokens hv
    rw [if_neg hdrop]
    split
    · have hitems : ∀ ts ∈ [castAs "NUMERIC" vs, ns], Enclosed ts := by
        simp [enclosed_castAs _ hvs, enclosed_tokens hns]
      rw [castTo, calls_castAs _ (enclosed_call _ hitems), calls_call _ hitems]
      simp [calls_castAs _ hvs, ha vs hv, hn ns hns]
    · have hitems : ∀ ts ∈ [vs, ns], Enclosed ts := by simp [hvs, enclosed_tokens hns]
      rw [calls_settle (enclosed_call _ hitems), calls_call _ hitems]
      simp [ha vs hv, hn ns hns]

theorem calls_mapM {as : List Expr} {items : List Tokens} (h : as.mapM (Expr.tokens d) = .ok items)
    (ha : ∀ a ∈ as, ∀ ts, a.tokens d = .ok ts → calls ts = a.nodeCalls d) :
    items.flatMap calls = as.flatMap (nodeCalls d) := by
  induction mapM_eq_ok.mp h with
  | nil => rfl
  | @cons a ts as items hts hrest ih =>
    obtain ⟨ha, has⟩ := List.forall_mem_cons.mp ha
    rw [List.flatMap_cons, List.flatMap_cons, ha ts hts, ih (mapM_eq_ok.mpr hrest) has]

theorem calls_operand (h : operand ⟨a, a.tokens d⟩ = .ok ts) :
    Enclosed ts ∧ ∃ xs, a.tokens d = .ok xs ∧ calls ts = calls xs := by
  obtain ⟨xs, hxs, h⟩ := bind_eq_ok.mp h
  cases h
  have hx := enclosed_tokens hxs
  split
  · exact ⟨enclosed_parens hx, xs, hxs, calls_parens hx⟩
  · exact ⟨hx, xs, hxs, rfl⟩

theorem calls_arithmetic {l r : Expr}
    (hl : ∀ xs, l.tokens d = .ok xs → calls xs = l.nodeCalls d)
    (hr : ∀ ys, r.tokens d = .ok ys → calls ys = r.nodeCalls d)
    (h : arithmetic d op t ⟨l, l.tokens d⟩ ⟨r, r.tokens d⟩ = .ok ts) :
    calls ts = l.nodeCalls d ++ r.nodeCalls d := by
  obtain ⟨xs, hx, h⟩ := bind_eq_ok.mp h
  obtain ⟨ys, hy, h⟩ := bind_eq_ok.mp h
  cases h
  obtain ⟨hxs, us, hu, hxu⟩ := calls_operand hx
  obtain ⟨-, ws, hw, hyw⟩ := calls_operand hy
  rw [← hl us hu, ← hr ws hw, ← hxu, ← hyw]
  split
  · rw [castTo, calls_infixed _ (enclosed_castAs _ hxs), calls_castAs _ hxs]
  · exact calls_infixed _ hxs

/-- Tokens call what the nodes call. -/
theorem calls_tokens (hr : e.Regular) (hrow : ∀ n ∈ e.nodes, n.op ≠ .stringAgg)
    (h : e.tokens d = .ok ts) : calls ts = e.nodeCalls d := by
  have hargs {op args t s} (hrow : ∀ n ∈ nodes ⟨op, args, t, s⟩, n.op ≠ .stringAgg) {a : Expr}
      (ha : some a ∈ args) : ∀ n ∈ a.nodes, n.op ≠ .stringAgg :=
    fun n hn => hrow n (mem_nodes.mpr (.inr ⟨a, ha, hn⟩))
  induction hr generalizing ts with
  | literal v t s =>
    rw [tokens_literal] at h
    exact (calls_plain (literal_plain h).2).trans (nodeCalls_none [] rfl).symm
  | column b n t s =>
    rw [tokens_column] at h
    cases h
    exact (nodeCalls_none [] rfl).symm
  | @cast a ha u t s ih =>
    rw [tokens_cast, bind_eq_ok] at h
    obtain ⟨xs, hxs, h⟩ := h
    cases h
    rw [castTo, calls_castAs _ (enclosed_tokens hxs), ih (hargs hrow (by simp)) hxs]
    simpa using (nodeCalls_none [a] rfl).symm
  | @aliased a ha n t s ih =>
    rw [tokens_aliased] at h
    rw [ih (hargs hrow (by simp)) h]
    simpa using (nodeCalls_none [a] rfl).symm
  | @unary op a hop ha t s ih =>
    rw [tokens_unary hop, bind_eq_ok] at h
    obtain ⟨xs, hxs, h⟩ := h
    cases h
    rw [calls_unary (enclosed_tokens hxs), ih (hargs hrow (by simp)) hxs]
    simpa using (nodeCalls_some [a] (call?_unary hop)).symm
  | @round a n ha hn t s iha ihn =>
    rw [tokens_round] at h
    rw [calls_rounded (fun _ => iha (hargs hrow (by simp))) (fun _ => ihn (hargs hrow (by simp))) h]
    simpa using (nodeCalls_some [a, n] rfl).symm
  | @variadic op as hop hne ha t s ih =>
    rw [tokens_variadic hop, bind_eq_ok] at h
    obtain ⟨items, hitems, h⟩ := h
    cases h
    have hE : ∀ ss ∈ items, Enclosed ss := by
      intro ss hs
      obtain ⟨a, -, ha⟩ := mem_of_mapM hitems ss hs
      exact enclosed_tokens ha
    have hall := calls_mapM hitems fun a ha _ => ih a ha (hargs hrow (List.mem_map_of_mem ha))
    rw [calls_call _ hE, nodeCalls_some as (call?_variadic hop), List.length_map, hall,
      (mapM_eq_ok.mp hitems).length_eq]
  | @stringAgg a p f ha hp hf t s iha ihp ihf =>
    exact absurd rfl (hrow _ (mem_nodes.mpr (.inl rfl)))
  | @binary op l r hop hl hr t s ihl ihr =>
    rw [tokens_binary hop] at h
    rw [calls_arithmetic (fun _ => ihl (hargs hrow (by simp)))
      (fun _ => ihr (hargs hrow (by simp))) h]
    simpa using (nodeCalls_none [l, r] (call?_arithmetic hop)).symm

/-- The largest or the smallest of a single argument. -/
def PicksOfOne (n : Expr) : Prop := (n.op = .greatest ∨ n.op = .least) ∧ n.args.length = 1

instance (n : Expr) : Decidable n.PicksOfOne := inferInstanceAs (Decidable (_ ∧ _))

theorem call?_of_picks {n : Expr} (h : n.op = .greatest ∨ n.op = .least) :
    call? d n = some (n.op.name, n.args.length) := by
  obtain ⟨op, args, t, s⟩ := n
  rcases h with rfl | rfl <;> rfl

/-- Every other call has the name of a function of one row. -/
theorem call?_mem_rowNames {n : Expr} {c : String × Nat} (h : call? d n = some c)
    (hpick : ¬(n.op = .greatest ∨ n.op = .least)) : c.1 ∈ Dialect.rowNames := by
  obtain ⟨op, args, t, s⟩ := n
  unfold call? at h
  split at h
  · cases h
    simp [Dialect.rowNames]
  · split at h
    · cases h
      cases op with
      | abs | ceil | floor | sign | coalesce => simp [Op.name, Dialect.rowNames]
      | greatest | least => simp at hpick
      | _ => simp_all [Op.isUnary, Op.isVariadic]
    · cases h

theorem aggregates_call? {n : Expr} {c : String × Nat} (h : call? d n = some c) :
    d.Aggregates c ↔ d = .sqlite ∧ n.PicksOfOne := by
  by_cases hpick : n.op = .greatest ∨ n.op = .least
  · rw [call?_of_picks hpick, Option.some.injEq] at h
    subst h
    have hname : n.op.name ∈ ["Greatest", "Least"] := by
      rcases hpick with hop | hop <;> simp [hop, Op.name]
    simp [Dialect.aggregates_extreme d hname, PicksOfOne, hpick]
  · have hrow := Dialect.not_aggregates_row d (n := c.2) (call?_mem_rowNames h hpick)
    exact iff_of_false hrow fun hp => hpick hp.2.1

theorem callsAggregate_iff (hr : e.Regular) (hrow : ∀ n ∈ e.nodes, n.op ≠ .stringAgg)
    (h : e.tokens d = .ok ts) :
    ts.CallsAggregate d ↔ d = .sqlite ∧ ∃ n ∈ e.nodes, n.PicksOfOne := by
  rw [CallsAggregate, calls_tokens hr hrow h, nodeCalls]
  constructor
  · rintro ⟨c, hc, ha⟩
    obtain ⟨n, hn, hcall⟩ := List.mem_filterMap.mp hc
    obtain ⟨hd, hp⟩ := (aggregates_call? hcall).mp ha
    exact ⟨hd, n, hn, hp⟩
  · rintro ⟨hd, n, hn, hp⟩
    have hcall := call?_of_picks (d := d) hp.1
    exact ⟨_, List.mem_filterMap.mpr ⟨n, hn, hcall⟩, (aggregates_call? hcall).mpr ⟨hd, hp⟩⟩

end Expr

namespace Query

open Tokens

/-- How many rows an engine gives for a table of so many: one for an aggregate, and one without a
table. -/
def rowCount (d : Dialect) (q : Query) (rows : Nat) : Nat :=
  if q.source = none ∨ q.tokens.CallsAggregate d then 1 else rows

variable {q : Query} {i : SelectItem}

/-- Of a table every row is kept, unless there is an aggregate. -/
theorem rowCount_eq_iff {d : Dialect} (hsource : q.source ≠ none) :
    (∀ rows, q.rowCount d rows = rows) ↔ ¬q.tokens.CallsAggregate d := by
  constructor
  · intro hrows hagg
    have htwo := hrows 2
    rw [rowCount, if_pos (.inr hagg)] at htwo
    cases htwo
  · intro hagg rows
    exact if_neg (not_or.mpr ⟨hsource, hagg⟩)

/-- A name behind an item calls nothing. -/
theorem exists_withAlias (i : SelectItem) :
    ∃ as : Tokens, (∀ t ∈ as, t.isPlain) ∧ i.withAlias = i.tokens ++ as := by
  refine ⟨_, ?_, rfl⟩
  cases i.aliasName <;> simp [Token.isPlain, space]

/-- A query of one expression calls what the expression does. -/
theorem calls_tokens_single (hq : q.select = [i]) (h : Enclosed i.tokens) :
    calls q.tokens = calls i.tokens := by
  have hgap : ∀ t ∈ itemGap q.pretty, t.isPlain := by
    unfold itemGap clauseGap
    cases q.pretty <;> simp [Token.isPlain]
  have hfrom : ∀ t ∈ q.fromClause, t.isPlain := by
    unfold fromClause clauseGap
    cases q.source <;> cases q.pretty <;> simp [Token.isPlain, space]
  obtain ⟨as, has, hi⟩ := exists_withAlias i
  have htokens : q.tokens =
      .keyword .SELECT :: (itemGap q.pretty ++ (i.tokens ++ (as ++ q.fromClause))) := by
    simp [tokens, items, hq, hi]
  rw [htokens, calls_cons rfl, calls_plain_append hgap, h.calls, calls_plain_append has,
    calls_plain hfrom, List.append_nil]

end Query

namespace Expr

open Tokens

variable {d : Dialect} {e : Expr} {ts : Tokens}

theorem source_of_varies {q : Query} (hv : e.Varies) (h : e.query d = .ok q) : q.source ≠ none := by
  obtain ⟨m, hm, b, hb⟩ := hv.exists_column
  have hmem : b ∈ e.tables := mem_tables.mpr ⟨m, hm, hb⟩
  rw [query_of_one (query_eq_ok h).1] at h
  obtain ⟨ts, -, h⟩ := bind_eq_ok.mp h
  cases h
  cases ht : e.tables with
  | nil =>
    rw [ht] at hmem
    cases hmem
  | cons u us => simp

/-- A query of the expression aggregates when the expression does. -/
theorem callsAggregate_query {q : Query} (hq : e.query d = .ok q) (h : e.tokens d = .ok ts)
    (pretty : Bool) :
    { q with pretty := pretty }.tokens.CallsAggregate d ↔ ts.CallsAggregate d := by
  obtain ⟨-, us, hus, hselect⟩ := query_eq_ok hq
  rw [h] at hus
  cases hus
  have hsingle := Query.calls_tokens_single (q := { q with pretty := pretty }) hselect
    (enclosed_tokens h)
  rw [CallsAggregate, hsingle, CallsAggregate]

/-- An expression without string aggregates compiles to an aggregate where SQLite is given the
largest or the smallest of a single argument, and nowhere else. Wherever it does not, a column gives
a value for each row. -/
theorem aggregates_iff_picksOfOne (d : Dialect) (he : e.Built)
    (hrow : ∀ n ∈ e.nodes, n.op ≠ .stringAgg) (h : e.tokens d = .ok ts) :
    (ts.CallsAggregate d ↔ d = .sqlite ∧ ∃ n ∈ e.nodes, n.PicksOfOne) ∧
      ∀ q pretty, e.query d = .ok q →
        ({ q with pretty := pretty }.tokens.CallsAggregate d ↔
          d = .sqlite ∧ ∃ n ∈ e.nodes, n.PicksOfOne) ∧
        (e.shape = .column → ((∀ rows, { q with pretty := pretty }.rowCount d rows = rows) ↔
          ¬(d = .sqlite ∧ ∃ n ∈ e.nodes, n.PicksOfOne))) := by
  have hcalls := callsAggregate_iff he.regular hrow h
  refine ⟨hcalls, fun q pretty hq => ?_⟩
  have hquery := (callsAggregate_query hq h pretty).trans hcalls
  refine ⟨hquery, fun hcolumn => ?_⟩
  have hsource := source_of_varies (he.shape_eq_column.mp hcolumn) hq
  rw [← hquery]
  exact Query.rowCount_eq_iff (q := { q with pretty := pretty }) hsource

end Expr

/-- The age, but no less than eighteen. -/
def adultAge : Expr :=
  ⟨.greatest, [some age, some (.ofLiteral (.integer 18))], .integer .w32, .column⟩

theorem adultAge_built : adultAge.Built :=
  .form (f := .variadic .greatest [age, .ofLiteral (.integer 18)]) rfl
    (by simp [Form.operands, age_built, Expr.MadeBy.literal]) rfl

/-- With two arguments the largest is no aggregate, not even in SQLite. -/
theorem adultAge_keeps_rows :
    ∃ ts q, adultAge.tokens .sqlite = .ok ts ∧ ¬ts.CallsAggregate .sqlite ∧
      adultAge.query .sqlite = .ok q ∧ ∀ rows, q.rowCount .sqlite rows = rows := by
  have hrow : ∀ n ∈ adultAge.nodes, n.op ≠ .stringAgg := by decide
  have hpick : ¬∃ n ∈ adultAge.nodes, n.PicksOfOne := by decide
  obtain ⟨hagg, hrows⟩ := Expr.aggregates_iff_picksOfOne .sqlite adultAge_built hrow rfl
  exact ⟨_, _, rfl, fun h => hpick (hagg.mp h).2, rfl,
    ((hrows _ true rfl).2 rfl).mpr fun h => hpick h.2⟩

/-- The age as the largest of one. -/
def ageAlone : Expr := ⟨.greatest, [some age], .integer .w32, .column⟩

/-- With one argument it is: however many people there are, SQLite gives one row. -/
theorem largest_of_one_aggregates :
    Draft.greatest [.expr age] = .ok (.bound ageAlone) ∧ ageAlone.Built ∧
      (∀ n ∈ ageAlone.nodes, n.op ≠ .stringAgg) ∧ ageAlone.shape = .column ∧
      ∃ q, ageAlone.query .sqlite = .ok q ∧ q.tokens.CallsAggregate .sqlite ∧
        q.rowCount .sqlite 2 = 1 := by
  have hbuilt : ageAlone.Built :=
    .form (f := .variadic .greatest [age]) rfl (by simp [Form.operands, age_built]) rfl
  refine ⟨rfl, hbuilt, by decide, rfl, _, rfl, ?_, ?_⟩
  · decide +kernel
  · decide +kernel

end TypedSql
