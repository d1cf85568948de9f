import TypedSql.Proofs.Specifications
import TypedSql.Proofs.Structural
import TypedSql.Proofs.Tables

namespace TypedSql

namespace SqlType

variable {t : SqlType}

/-- A specification is never read as a decimal that cannot be, and neither is a bare one, whatever
it is to mean. -/
theorem ofSpec_valid {defaults : DecimalDefaults} {spec : String}
    (h : ofSpec defaults spec = .ok t) : t.Valid :=
  (ofSpec_eq_ok.mp h).valid

theorem ofInteger_valid (n : Int) : (ofInteger n).Valid := trivial

end SqlType

namespace Table

/-- A table that specifications gave, whatever bare decimals were to mean in them. -/
def Defined (t : Table) : Prop :=
  ∃ (defaults : DecimalDefaults) (name : String) (specs : List (String × String)),
    define defaults name specs = .ok t

variable {t : Table}

theorem Defined.column_valid (ht : t.Defined) : ∀ c ∈ t.columns, c.type.Valid := by
  obtain ⟨defaults, name, specs, h⟩ := ht
  obtain ⟨-, hlists⟩ := define_eq_ok.mp h
  intro c hc
  obtain ⟨spec, -, hspec⟩ := mem_of_mapM (lists_iff.mpr hlists) c hc
  exact SqlType.ofSpec_valid (columnOfSpec_eq_ok.mp hspec).2

theorem exists_defined : ∃ t : Table, t.Defined := ⟨_, {}, "", [], rfl⟩

end Table

namespace Expr

/-- The types of all nodes can be. -/
def WellTyped (e : Expr) : Prop := ∀ n ∈ e.nodes, n.type.Valid

variable {op : Op} {args : List (Option Expr)} {t : SqlType} {s : Shape} {a e : Expr}

theorem wellTyped_mk :
    WellTyped ⟨op, args, t, s⟩ ↔ t.Valid ∧ ∀ a, some a ∈ args → a.WellTyped := by
  constructor
  · intro h
    exact ⟨h _ (mem_nodes.mpr (.inl rfl)), fun a ha n hn => h n (mem_nodes.mpr (.inr ⟨a, ha, hn⟩))⟩
  · rintro ⟨ht, ha⟩ n hn
    rcases mem_nodes.mp hn with rfl | ⟨a, hm, hn⟩
    · exact ht
    · exact ha a hm n hn

theorem WellTyped.type_valid (h : e.WellTyped) : e.type.Valid := by
  obtain ⟨op, args, t, s⟩ := e
  exact (wellTyped_mk.mp h).1

theorem wellTyped_literal (v : Literal) : (ofLiteral v).WellTyped := by
  have hv : v.type.Valid := by
    cases v with
    | integer n => exact SqlType.ofInteger_valid n.toInt
    | _ => trivial
  exact wellTyped_mk.mpr ⟨hv, nofun⟩

theorem wellTyped_column {b : Table} {n : String} (hb : b.Defined) (h : b.column n = .ok e) :
    e.WellTyped := by
  obtain ⟨c, hc, -, rfl⟩ := column_eq_ok.mp h
  exact wellTyped_mk.mpr ⟨hb.column_valid c (List.mem_of_find?_eq_some hc), nofun⟩

theorem wholeType_valid (h : t.Valid) : (wholeType t).Valid := by
  unfold wholeType
  split
  · exact h
  · trivial

theorem roundType_valid (h : t.Valid) (d : Expr) : (roundType t d).Valid := by
  unfold roundType
  split
  · exact wholeType_valid h
  · trivial

theorem arithmeticType_valid (h : t.Valid) (op : Op) : (arithmeticType op t).Valid := by
  unfold arithmeticType
  split
  · trivial
  · exact h

end Expr

namespace Form

open TypedSql.Expr

variable {f : Form Expr} {e : Expr}

theorem Pools.type_valid (h : f.Pools e) (ha : ∀ a, some a ∈ e.args → a.WellTyped) :
    e.type.Valid := by
  obtain ⟨as, has, ht, -⟩ := h.pooled
  refine SqlType.joinFrom_valid (t := .null) trivial ?_ ht
  intro u hu
  obtain ⟨a, hm, rfl⟩ := List.mem_map.mp hu
  exact (ha a (has ▸ List.mem_map_of_mem hm)).type_valid

theorem Decides.type_valid (h : f.Decides e) (ha : ∀ a, some a ∈ e.args → a.WellTyped) :
    e.type.Valid := by
  cases h with
  | ceil _ | floor _ => exact wholeType_valid (ha _ List.mem_cons_self).type_valid
  | round _ _ _ => exact roundType_valid (ha _ List.mem_cons_self).type_valid _
  | stringAgg _ _ _ _ => trivial
  | cast hv _ _ => exact hv
  | divide _ _ hj =>
    have hl := (ha _ List.mem_cons_self).type_valid
    have hr := (ha _ (List.mem_cons_of_mem _ List.mem_cons_self)).type_valid
    exact arithmeticType_valid (SqlType.join_valid hl hr hj) .divide

/-- A form of any operation leads from types that can be to one that can be. -/
theorem build_wellTyped (ha : ∀ a ∈ f.operands, a.WellTyped) (h : f.build = .ok e) :
    e.WellTyped := by
  have hnew : f.Pools e ∨ f.Decides e → e.WellTyped := by
    intro hk
    have hargs : ∀ a, some a ∈ e.args → a.WellTyped := by
      intro a hm
      rcases (args_of_kinds hk).2 a hm with hm | ⟨v, rfl⟩
      · exact ha a hm
      · exact wellTyped_literal v
    have ht : e.type.Valid := hk.elim (·.type_valid hargs) (·.type_valid hargs)
    obtain ⟨op, args, t, s⟩ := e
    exact wellTyped_mk.mpr ⟨ht, hargs⟩
  rcases build_kinds h with hk | hk | rfl
  · exact hnew (.inl hk)
  · exact hnew (.inr hk)
  · exact ha e (by simp [operands])

end Form

/-- What the calls of the library give from constants and from the columns of defined tables. A
template may be recorded with any operation in any form. -/
inductive Reachable : Operand → Prop
  | literal (v : Literal) : Reachable (.literal v)
  | constant (v : Literal) : Reachable (.expr (.ofLiteral v))
  | column {t : Table} {n : String} {e : Expr} (ht : t.Defined) (h : t.column n = .ok e) :
      Reachable (.expr e)
  | row : Reachable (.template .row)
  | attr {p : Template} (h : Reachable (.template p)) (n : String) :
      Reachable (.template (.attr p n))
  | form {f : Form Operand} (ha : ∀ a ∈ f.operands, Reachable a) : Reachable (.template (.call f))
  | method {e e' : Expr} {m : Method Operand} (he : Reachable (.expr e))
      (hm : ∀ a ∈ m.args, Reachable a) (h : e.call m = .ok e') : Reachable (.expr e')
  | record {p : Template} {m : Method Operand} (hp : Reachable (.template p))
      (hm : ∀ a ∈ m.args, Reachable a) : Reachable (.template (p.record m))
  | draft {d d' : Draft} {m : Method Operand} (hd : Reachable d.toOperand)
      (hm : ∀ a ∈ m.args, Reachable a) (h : d.call m = .ok d') : Reachable d'.toOperand
  | function {fn : List Operand → Except Error Draft} {as : List Operand} {d : Draft}
      (hf : fn ∈ Draft.functions) (ha : ∀ a ∈ as, Reachable a) (h : fn as = .ok d) :
      Reachable d.toOperand
  | resolve {a : Operand} {t : Table} {e : Expr} (ht : t.Defined) (ha : Reachable a)
      (h : a.resolve t = .ok e) : Reachable (.expr e)

/-- Against a defined table, the operand resolves to nothing but well-typed expressions. -/
def Operand.YieldsWellTyped (a : Operand) : Prop :=
  ∀ (t : Table) (e : Expr), t.Defined → a.resolve t = .ok e → e.WellTyped

theorem form_wellTyped {f : Form Operand} {t : Table} {e : Expr} (ht : t.Defined)
    (ha : ∀ a ∈ f.operands, a.YieldsWellTyped)
    (h : (do (← f.bindArgs (Operand.resolve t)).build) = .ok e) : e.WellTyped := by
  obtain ⟨q, hq, he⟩ := bind_eq_ok.mp h
  refine Form.build_wellTyped (fun y hy => ?_) he
  obtain ⟨x, hx, hxy⟩ := (Form.bindArgs_eq_ok hq).2 y hy
  exact ha x hx t y ht hxy

theorem call_yields {f : Form Operand} (ha : ∀ a ∈ f.operands, a.YieldsWellTyped) :
    (Operand.template (.call f)).YieldsWellTyped := by
  intro t e ht he
  rw [Operand.resolve, Template.resolve, resolveForm_eq] at he
  exact form_wellTyped ht ha he

theorem ofForm_yields {f : Form Operand} {d : Draft} (ha : ∀ a ∈ f.operands, a.YieldsWellTyped)
    (h : Draft.ofForm f = .ok d) : d.toOperand.YieldsWellTyped := by
  intro t e ht he
  refine form_wellTyped ht ha ?_
  rw [← ofForm_resolve, h, except_ok_bind, ← resolve_toOperand]
  exact he

theorem method_yields {a : Operand} {m : Method Operand} (ha : a.YieldsWellTyped)
    (hm : ∀ b ∈ m.args, b.YieldsWellTyped) : ∀ b ∈ (m.form a).operands, b.YieldsWellTyped := by
  rw [Method.operands_form]
  exact List.forall_mem_cons.mpr ⟨ha, hm⟩

theorem draft_of_call {e e' : Expr} {m : Method Operand} (h : e.call m = .ok e') :
    Draft.call (.bound e) m = .ok (.bound e') := by
  rw [call_eq_draft_call, bind_eq_ok] at h
  obtain ⟨d, hd, h⟩ := h
  cases d with
  | bound e =>
    cases h
    exact hd
  | template p => cases h

theorem Reachable.yields {a : Operand} (h : Reachable a) : a.YieldsWellTyped := by
  induction h with
  | literal v | constant v =>
    intro t e _ he
    simp only [Operand.resolve, Except.ok.injEq] at he
    exact he ▸ Expr.wellTyped_literal v
  | column hb h =>
    intro t e _ he
    simp only [Operand.resolve, Except.ok.injEq] at he
    exact he ▸ Expr.wellTyped_column hb h
  | row =>
    intro t e _ he
    simp [Operand.resolve, Template.resolve] at he
  | attr _ n =>
    intro t e ht he
    rw [Operand.resolve, resolve_attr_eq_ok] at he
    exact Expr.wellTyped_column ht he.2
  | form _ ih => exact call_yields ih
  | method _ _ h ihe ihm => exact ofForm_yields (method_yields ihe ihm) (draft_of_call h)
  | record _ _ ihp ihm => exact call_yields (method_yields ihp ihm)
  | draft _ _ h ihd ihm => exact ofForm_yields (method_yields ihd ihm) h
  | function hf _ h ih =>
    obtain ⟨op, -, h⟩ := ofForm_of_function hf h
    exact ofForm_yields (f := .variadic op _) ih h
  | resolve hb _ h ih =>
    intro t e _ he
    simp only [Operand.resolve, Except.ok.injEq] at he
    exact he ▸ ih _ _ hb h

/-- No expression has a type that cannot be, at any of its nodes: the types pass their own check,
and decimals have from one to 38 digits, of which the scale counts some. -/
theorem reachable_types_valid {e : Expr} (h : Reachable (.expr e)) :
    ∀ n ∈ e.nodes, n.type.checked = .ok n.type ∧
      ∀ p s, n.type = .decimal p s → 1 ≤ p ∧ p ≤ 38 ∧ s ≤ p := by
  obtain ⟨t, ht⟩ := Table.exists_defined
  have hresolve : (Operand.expr e).resolve t = .ok e := by rw [Operand.resolve]
  have hvalid : e.WellTyped := h.yields t e ht hresolve
  intro n hn
  refine ⟨Expr.checked_eq_ok.mpr ⟨hvalid n hn, rfl⟩, fun p s htype => ?_⟩
  have hdecimal := hvalid n hn
  rw [htype] at hdecimal
  exact hdecimal

/-- Numbers with as many digits as a decimal can have, all of them behind the point. -/
def ratios : Table where
  name := "ratios"
  columns := [⟨"ratio", .decimal 38 38⟩, ⟨"times", .integer .w64⟩]
  distinct := by decide

theorem ratios_defined : ratios.Defined :=
  ⟨⟨38, 38⟩, "ratios", [("ratio", "numeric"), ("times", "int64")], rfl⟩

/-- A rounding recorded in the form of a list, so that its type is what its arguments widen to. -/
def ratioRound : Template :=
  .call (.variadic .round [.template (.col "ratio"), .template (.col "times")])

theorem ratioRound_reachable : Reachable (.template ratioRound) := by
  have hcol (n : String) : Reachable (.template (.col n)) := .attr .row n
  exact .form (by simp [Form.operands, hcol])

/-- Widened by the digits of an integer, the decimal has no more digits than it can have. -/
theorem ratioRound_valid :
    ∃ e, ratioRound.resolve ratios = .ok e ∧ Reachable (.expr e) ∧ e.type = .decimal 38 38 ∧
      ∀ n ∈ e.nodes, n.type.checked = .ok n.type ∧
        ∀ p s, n.type = .decimal p s → 1 ≤ p ∧ p ≤ 38 ∧ s ≤ p := by
  obtain ⟨e, he, htype⟩ :
      ∃ e, ratioRound.resolve ratios = .ok e ∧ e.type = .decimal 38 38 := ⟨_, rfl, rfl⟩
  have hreach : Reachable (.expr e) :=
    .resolve ratios_defined ratioRound_reachable (by rw [Operand.resolve, he])
  exact ⟨e, he, hreach, htype, reachable_types_valid hreach⟩

end TypedSql
