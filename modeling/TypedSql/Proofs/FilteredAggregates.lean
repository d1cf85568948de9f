import TypedSql.Proofs.Aggregates
import TypedSql.Proofs.Chains

namespace TypedSql

open Compile
open Tokens (solid)

namespace Literal

/-- What T-SQL says of an equality. Of a null nothing is known, and a bit is the number one when it
is true and zero when it is false. -/
def equals : Literal → Literal → Literal
  | null, _ | _, null => null
  | boolean b, integer n | integer n, boolean b => boolean (n = if b then 1 else 0)
  | v, w => boolean (v = w)

/-- The strings among values, without the nulls. Other values cannot be joined. -/
def strings : List Literal → Option (List String)
  | [] => some []
  | null :: vs => strings vs
  | string s :: vs => (strings vs).map (s :: ·)
  | _ :: _ => none

end Literal

namespace SqlTree

variable {ρ : Type} (d : Dialect) (given : SqlTree → ρ → Literal)

/-- Whether the engine takes the tree for a condition. T-SQL has bits in the place of truth values:
to it a comparison is a condition, and a bit is none. -/
def isCondition : SqlTree → Bool
  | infixed .equals _ _ => true
  | _ => d ≠ .mssql

/-- The value in a row. Of an engine it is laid down what `CASE` does, and of T-SQL what it makes of
an equality; what columns, calls, casts and arithmetic come to is its own affair and `given`. -/
def value : SqlTree → ρ → Literal
  | literal v, _ => v
  | choice c v e, r =>
    if c.isCondition d ∧ value c r = .boolean true then value v r else value e r
  | infixed .equals u v, r =>
    if d = .mssql then (value u r).equals (value v r) else given (infixed .equals u v) r
  | u, r => given u r

/-- Whether the row meets the condition. What is not known, or is no condition, does not hold. -/
def holds (c : SqlTree) (r : ρ) : Bool := c.isCondition d && c.value d given r = .boolean true

/-- The function that is called and its first argument. -/
def applied? : SqlTree → Option (String × SqlTree)
  | call f (v :: _) | separated f v _ => some (f, v)
  | _ => none

/-- The call of a function that has one of these names in the dialect. -/
def IsCallOf (names : List String) (u : SqlTree) : Prop :=
  ∃ f v, u.applied? = some (f, v) ∧ d.functionText f ∈ names

/-- The values that the call of an aggregate is given. -/
def gatheredBy (names : List String) (u : SqlTree) (rows : List ρ) : Option (List Literal) :=
  match u.applied? with
  | some (f, v) => if d.functionText f ∈ names then some (rows.map (v.value d given)) else none
  | none => none

/-- The values that an aggregate is given. A filter behind its call keeps the rows for which it
holds. -/
def gathered (names : List String) : SqlTree → List ρ → Option (List Literal)
  | filtered u c, rows => u.gatheredBy d given names (rows.filter (c.holds d given))
  | u, rows => u.gatheredBy d given names rows

/-- The array whose elements are joined. -/
def array? : SqlTree → Option SqlTree
  | call f [w, _] => if d.functionText f = "ARRAY_JOIN" then some w else none
  | _ => none

/-- The strings that an aggregate joins for the rows, in their order. -/
def strings (u : SqlTree) (rows : List ρ) : Option (List String) :=
  match u.array? d with
  | some w => (w.gathered d given arrayAggregates rows).bind Literal.strings
  | none => (u.gathered d given stringAggregates rows).bind Literal.strings

variable {d} {given} {f : String} {u v w c : SqlTree} {rows : List ρ} {names : List String}

theorem gatheredBy_of_call (hu : u.applied? = some (f, v)) (hf : d.functionText f ∈ names) :
    u.gatheredBy d given names rows = some (rows.map (v.value d given)) := by
  unfold gatheredBy
  rw [hu]
  exact if_pos hf

theorem array?_of_aggregate (hf : d.functionText f ∈ stringAggregates) :
    (call f [v, w]).array? d = none := by
  refine if_neg fun h => ?_
  rw [h] at hf
  exact absurd hf (by decide)

end SqlTree

theorem arrayJoin_text (d : Dialect) : d.functionText "array_join" = "ARRAY_JOIN" := by
  cases d <;> decide +kernel

namespace SqlTree

variable {ρ : Type} {d : Dialect} {given : SqlTree → ρ → Literal} {v s c : SqlTree} {rows : List ρ}

/-- Every dialect joins strings by one of the known functions, and only one that needs no more than
a call has filters. -/
theorem joined_cases (d : Dialect) (v s : SqlTree) :
    (∃ f, joined d v s = call f [v, s] ∧ d.functionText f ∈ stringAggregates) ∨
      d.hasFilter = false ∧
        ((∃ f, joined d v s = separated f v s ∧ d.functionText f ∈ stringAggregates) ∨
          ∃ f, joined d v s = call "array_join" [call f [v], s] ∧
            d.functionText f ∈ arrayAggregates) := by
  cases d with
  | mysql => exact .inr ⟨rfl, .inl ⟨_, rfl, by decide +kernel⟩⟩
  | databricks | trino => exact .inr ⟨rfl, .inr ⟨_, rfl, by decide +kernel⟩⟩
  | _ => exact .inl ⟨_, rfl, by decide +kernel⟩

theorem strings_joined :
    (joined d v s).strings d given rows = Literal.strings (rows.map (v.value d given)) := by
  unfold strings
  rcases joined_cases d v s with ⟨f, hd, hf⟩ | ⟨-, ⟨f, hd, hf⟩ | ⟨f, hd, hf⟩⟩
  · have hu : (call f [v, s]).applied? = some (f, v) := rfl
    simp only [hd, array?_of_aggregate hf, gathered, gatheredBy_of_call hu hf, Option.bind_some]
  · have hu : (separated f v s).applied? = some (f, v) := rfl
    simp only [hd, array?, gathered, gatheredBy_of_call hu hf, Option.bind_some]
  · have hu : (call f [v]).applied? = some (f, v) := rfl
    simp only [hd, array?, arrayJoin_text, if_true, gathered, gatheredBy_of_call hu hf,
      Option.bind_some]

/-- In a dialect with filters the strings are joined by a call of the value. -/
theorem applied?_joined (hd : d.hasFilter) :
    ∃ f, (joined d v s).applied? = some (f, v) ∧ d.functionText f ∈ stringAggregates := by
  rcases joined_cases d v s with ⟨f, hf, hname⟩ | ⟨hfilter, -⟩
  · rw [hf]
    exact ⟨f, rfl, hname⟩
  · rw [hfilter] at hd
    cases hd

/-- A filter clause stands behind the call of an aggregate itself. -/
theorem isCallOf_of_filtered {w k : SqlTree} (h : aggregated d v s (some c) = filtered w k) :
    w.IsCallOf d stringAggregates := by
  simp only [aggregated] at h
  split at h
  · rename_i hd
    cases h
    obtain ⟨f, hcall, hf⟩ := applied?_joined (v := v) (s := s) hd
    exact ⟨f, v, hcall, hf⟩
  · cases d <;> cases h

theorem strings_filtered (hd : d.hasFilter) :
    (filtered (joined d v s) c).strings d given rows =
      Literal.strings ((rows.filter (c.holds d given)).map (v.value d given)) := by
  obtain ⟨f, hcall, hf⟩ := applied?_joined (v := v) (s := s) hd
  simp only [strings, array?, gathered, gatheredBy_of_call hcall hf, Option.bind_some]

/-- As a condition a truth value holds where it is true, and nowhere else. -/
theorem holds_condition {r : ρ} {b : Option Bool} (h : c.value d given r = b.elim .null .boolean) :
    (condition d c).holds d given r ↔ b = some true := by
  have hself : b.elim .null .boolean = Literal.boolean true ↔ b = some true := by
    cases b <;> simp
  unfold condition holds
  split
  · rename_i hd
    have hbit : Literal.equals (b.elim .null .boolean) (.integer 1) = .boolean true ↔
        b = some true := by
      cases b with
      | none => simp [Literal.equals]
      | some b => cases b <;> simp [Literal.equals]
    simp only [isCondition, value, if_pos hd, h, Bool.true_and, decide_eq_true_eq, hbit]
  · rename_i hd
    have hcondition : c.isCondition d = true := by
      unfold isCondition
      split
      · rfl
      · exact decide_eq_true hd
    rw [hcondition, h, Bool.true_and, decide_eq_true_eq, hself]

/-- Nulls are given for what a filter leaves out. -/
theorem value_choice {r : ρ} {b : Option Bool} {x : Option String}
    (hc : c.value d given r = b.elim .null .boolean)
    (hv : v.value d given r = x.elim .null .string) :
    (choice (condition d c) v (literal .null)).value d given r =
      (if b = some true then x else none).elim .null .string := by
  have hholds : (condition d c).isCondition d ∧
      (condition d c).value d given r = .boolean true ↔ b = some true := by
    rw [← holds_condition hc, holds, Bool.and_eq_true, decide_eq_true_eq]
  rw [value]
  by_cases hb : b = some true
  · rw [if_pos (hholds.mpr hb), if_pos hb, hv]
  · rw [if_neg fun h => hb (hholds.mp h), if_neg hb, value]
    rfl

end SqlTree

theorem strings_texts {ρ : Type} (text : ρ → Option String) (rows : List ρ) :
    Literal.strings (rows.map fun r => (text r).elim .null .string) =
      some (rows.filterMap text) := by
  induction rows with
  | nil => rfl
  | cons r rows ih =>
    rw [List.map_cons]
    cases hr : text r with
    | none => rw [List.filterMap_cons_none hr, ← ih, Option.elim_none, Literal.strings]
    | some x =>
      rw [List.filterMap_cons_some hr, Option.elim_some, Literal.strings, ih, Option.map_some]

namespace SqlTree

variable {ρ : Type} {d : Dialect} {given : SqlTree → ρ → Literal} {v s c : SqlTree} {rows : List ρ}
  {truth : ρ → Option Bool} {text : ρ → Option String}

/-- Either way the strings of the rows are joined for which the filter is true. -/
theorem strings_aggregated
    (h : ∀ r ∈ rows, c.value d given r = (truth r).elim .null .boolean ∧
      v.value d given r = (text r).elim .null .string) :
    (aggregated d v s (some c)).strings d given rows =
      some ((rows.filter fun r => truth r = some true).filterMap text) := by
  simp only [aggregated]
  split
  · rename_i hd
    have hrows : rows.filter ((condition d c).holds d given) =
        rows.filter fun r => truth r = some true :=
      List.filter_congr fun r hr => by
        rw [Bool.eq_iff_iff, decide_eq_true_eq, holds_condition (h r hr).1]
    have hvalues : (rows.filter fun r => truth r = some true).map (v.value d given) =
        (rows.filter fun r => truth r = some true).map fun r => (text r).elim .null .string :=
      List.map_congr_left fun r hr => (h r (List.mem_of_mem_filter hr)).2
    rw [strings_filtered hd, hrows, hvalues, strings_texts]
  · have hvalues : rows.map ((choice (condition d c) v (literal .null)).value d given) =
        rows.map fun r => (if truth r = some true then text r else none).elim .null .string :=
      List.map_congr_left fun r hr => value_choice (h r hr).1 (h r hr).2
    rw [strings_joined, hvalues, strings_texts, List.filterMap_filter]
    simp only [decide_eq_true_eq]

end SqlTree

theorem tokens_of_filter {d : Dialect} {e a f : Expr} {ts : Tokens} (hop : e.op = .stringAgg)
    (ha : e.args[0]? = some (some a)) (hf : e.args[2]? = some (some f))
    (h : e.tokens d = .ok ts) :
    ∃ p vs ss cs, a.tokens d = .ok vs ∧ Expr.tokens d p = .ok ss ∧ f.tokens d = .ok cs ∧
      ts = aggregated d vs ss (some cs) := by
  obtain ⟨op, args, t, s⟩ := e
  subst hop
  rw [Expr.tokens] at h
  obtain ⟨b, p, vs, ss, g, hb, -, hv, hs, hg, rfl⟩ := node_stringAgg_eq_ok h
  rw [ha] at hb
  cases hb
  rw [hf] at hg
  obtain ⟨cs, hc, rfl⟩ := map_eq_ok.mp hg
  exact ⟨p, vs, ss, cs, hv, hs, hc, rfl⟩

/-- However a dialect filters a string aggregate, it joins the strings of the rows for which the
filter is true. A filter clause stands behind the call of an aggregate. -/
theorem filtered_aggregate_strings (d : Dialect) {e a f : Expr} {ts : Tokens}
    (hop : e.op = .stringAgg) (ha : e.args[0]? = some (some a)) (hf : e.args[2]? = some (some f))
    (h : e.tokens d = .ok ts) :
    ∃ u v c : SqlTree, e.ReadsAs d u ∧ a.ReadsAs d v ∧ f.ReadsAs d c ∧
      (∀ w k, u = .filtered w k → w.IsCallOf d stringAggregates) ∧
      ∀ {ρ : Type} (given : SqlTree → ρ → Literal) (rows : List ρ) (truth : ρ → Option Bool)
        (text : ρ → Option String),
        (∀ r ∈ rows, c.value d given r = (truth r).elim .null .boolean ∧
          v.value d given r = (text r).elim .null .string) →
        u.strings d given rows =
          some ((rows.filter fun r => truth r = some true).filterMap text) := by
  obtain ⟨p, vs, ss, cs, hvs, hss, hcs, rfl⟩ := tokens_of_filter hop ha hf h
  obtain ⟨v, hv⟩ := exists_derives hvs
  obtain ⟨s, hs⟩ := exists_derives hss
  obtain ⟨c, hc⟩ := exists_derives hcs
  have hu := (derives_aggregated d hv hs (.some hc)).atom
  exact ⟨_, v, c, readsAs_of_derives h hu, readsAs_of_derives hvs hv, readsAs_of_derives hcs hc,
    fun _ _ => SqlTree.isCallOf_of_filtered,
    fun given rows truth text hrows => SqlTree.strings_aggregated hrows⟩

def members : Table where
  name := "members"
  columns := [⟨"name", .string⟩, ⟨"active", .boolean⟩]
  distinct := by decide

/-- The names of the active members. -/
def activeNames : Expr :=
  ⟨.stringAgg, [some (.ofColumn members ⟨"name", .string⟩), some (.ofLiteral (.string ",")),
    some (.ofColumn members ⟨"active", .boolean⟩)], .string, .scalar⟩

/-- The columns of a member that may lack both. -/
def memberValue : SqlTree → Option Bool × Option String → Literal
  | .ident "active", r => r.1.elim .null .boolean
  | .ident "name", r => r.2.elim .null .string
  | _, _ => .null

theorem activeNames_strings :
    let rows := [(some true, some "a"), (none, some "b"), (some true, none),
      (some false, some "c"), (some true, some "d")]
    (∃ u, activeNames.ReadsAs .mssql u ∧ u.strings .mssql memberValue rows = some ["a", "d"]) ∧
      ∃ u, activeNames.ReadsAs .postgres u ∧
        u.strings .postgres memberValue rows = some ["a", "d"] := by
  intro rows
  have hjoined {d : Dialect} {ts : Tokens} (h : activeNames.tokens d = .ok ts) :
      ∃ u, activeNames.ReadsAs d u ∧ u.strings d memberValue rows = some ["a", "d"] := by
    obtain ⟨u, v, c, hu, hv, hc, -, hrows⟩ := filtered_aggregate_strings d rfl rfl rfl h
    obtain rfl := hv.unique (readsAs_of_derives rfl (Derives.ident "name").atom)
    obtain rfl := hc.unique (readsAs_of_derives rfl (Derives.ident "active").atom)
    exact ⟨u, hu, hrows memberValue rows Prod.fst Prod.snd fun _ _ => ⟨rfl, rfl⟩⟩
  exact ⟨hjoined rfl, hjoined rfl⟩

end TypedSql
