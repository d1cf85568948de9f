import TypedSql.Proofs.Resolution

namespace TypedSql

/-- What stands in an argument place when every expression in it is built and every recorded form
is proper. -/
inductive Operand.Proper : Operand → Prop
  | expr {e : Expr} (h : e.Built) : Proper (.expr e)
  | literal (v : Literal) : Proper (.literal v)
  | row : Proper (.template .row)
  | attr {b : Template} (h : Proper (.template b)) (n : String) : Proper (.template (.attr b n))
  | call {f : Form Operand} (hf : f.Proper) (ha : ∀ a ∈ f.operands, Proper a) :
      Proper (.template (.call f))

theorem resolve_attr_eq_ok {t : Table} {b : Template} {n : String} {e : Expr} :
    (Template.attr b n).resolve t = .ok e ↔ b = .row ∧ t.column n = .ok e := by
  cases b <;> simp [Template.resolve]

theorem Form.build_built {α : Type} {p : Form α} {f : α → Except Error Expr} {q : Form Expr}
    {e : Expr} (hp : p.Proper) (hf : ∀ a ∈ p.operands, ∀ b, f a = .ok b → b.Built)
    (hq : p.bindArgs f = .ok q) (he : q.build = .ok e) : e.Built := by
  obtain ⟨hproper, hargs⟩ := Form.bindArgs_eq_ok hq
  refine .form (hproper.mpr hp) (fun b hb => ?_) he
  obtain ⟨a, ha, h⟩ := hargs b hb
  exact hf a ha b h

/-- A proper template resolves to nothing but a built expression. -/
theorem Operand.Proper.resolve {t : Table} {a : Operand} {e : Expr} (ha : a.Proper)
    (h : a.resolve t = .ok e) : e.Built := by
  induction ha generalizing e with
  | expr hb =>
    simp only [Operand.resolve, Except.ok.injEq] at h
    exact h ▸ hb
  | literal v =>
    simp only [Operand.resolve, Except.ok.injEq] at h
    exact h ▸ .literal v
  | row => simp [Operand.resolve, Template.resolve] at h
  | attr hb n =>
    rw [Operand.resolve, resolve_attr_eq_ok] at h
    exact .column h.2
  | call hf ha ih =>
    simp only [Operand.resolve, Template.resolve, resolveForm_eq, bind_eq_ok] at h
    obtain ⟨q, hq, he⟩ := h
    exact Form.build_built hf (fun a ha b hb => ih a ha hb) hq he

theorem Operand.Proper.bind {a : Operand} {e : Expr} (ha : a.Proper) (h : a.bind = .ok e) :
    e.Built := by
  cases ha with
  | expr hb =>
    cases h
    exact hb
  | literal v =>
    cases h
    exact .literal v
  | row | attr | call => cases h

theorem ofForm_proper {f : Form Operand} {d : Draft} (hf : f.Proper)
    (ha : ∀ a ∈ f.operands, a.Proper) (h : Draft.ofForm f = .ok d) : d.toOperand.Proper := by
  unfold Draft.ofForm at h
  split at h
  · obtain ⟨q, hq, h⟩ := bind_eq_ok.mp h
    obtain ⟨e, he, h⟩ := bind_eq_ok.mp h
    cases h
    exact .expr (Form.build_built hf (fun a hm b hb => (ha a hm).bind hb) hq he)
  · cases h
    exact .call hf ha

theorem Method.form_operands {a : Operand} {m : Method Operand} (ha : a.Proper)
    (hm : ∀ b ∈ m.args, b.Proper) : ∀ b ∈ (m.form a).operands, b.Proper := by
  rw [Method.operands_form]
  intro b hb
  rcases List.mem_cons.mp hb with rfl | hb
  · exact ha
  · exact hm b hb

theorem record_proper {p : Template} {m : Method Operand} (hp : (Operand.template p).Proper)
    (hm : ∀ a ∈ m.args, a.Proper) : (Operand.template (p.record m)).Proper :=
  .call (Method.form_proper _ m) (Method.form_operands hp hm)

theorem draft_call_proper {d d' : Draft} {m : Method Operand} (hd : d.toOperand.Proper)
    (hm : ∀ a ∈ m.args, a.Proper) (h : d.call m = .ok d') : d'.toOperand.Proper :=
  ofForm_proper (Method.form_proper _ m) (Method.form_operands hd hm) h

/-- A function of many arguments is a form of its operation. -/
theorem ofForm_of_function {fn : List Operand → Except Error Draft} {as : List Operand}
    {d : Draft} (hf : fn ∈ Draft.functions) (h : fn as = .ok d) :
    ∃ op : Op, op.isVariadic ∧ Draft.ofForm (.variadic op as) = .ok d := by
  have hv : ∀ op : Op, Draft.variadic op as = .ok d → Draft.ofForm (.variadic op as) = .ok d := by
    intro op h
    unfold Draft.variadic at h
    split at h
    · cases h
    · exact h
  simp only [Draft.functions, List.mem_cons, List.not_mem_nil, or_false] at hf
  rcases hf with rfl | rfl | rfl
  · exact ⟨.coalesce, rfl, hv .coalesce h⟩
  · exact ⟨.greatest, rfl, hv .greatest h⟩
  · exact ⟨.least, rfl, hv .least h⟩

theorem function_proper {fn : List Operand → Except Error Draft} {as : List Operand} {d : Draft}
    (hf : fn ∈ Draft.functions) (ha : ∀ a ∈ as, a.Proper) (h : fn as = .ok d) :
    d.toOperand.Proper := by
  obtain ⟨op, hop, h⟩ := ofForm_of_function hf h
  exact ofForm_proper (f := .variadic op as) hop ha h

theorem call_built {e e' : Expr} {m : Method Operand} (he : e.Built)
    (hm : ∀ a ∈ m.args, a.Proper) (h : e.call m = .ok e') : e'.Built := by
  rw [call_eq_draft_call, bind_eq_ok] at h
  obtain ⟨d, hd, h⟩ := h
  have hp := draft_call_proper (d := .bound e) (.expr he) hm hd
  cases d with
  | bound e =>
    cases h
    cases hp with
    | expr hb => exact hb
  | template p => cases h

namespace Expr

/-- Trees whose nodes have the arguments that their operations take. -/
inductive Regular : Expr → Prop
  | literal (v : Literal) (t : SqlType) (s : Shape) : Regular ⟨.literal v, [], t, s⟩
  | column (b : Table) (n : String) (t : SqlType) (s : Shape) : Regular ⟨.column b n, [], t, s⟩
  | cast {a : Expr} (ha : Regular a) (u t : SqlType) (s : Shape) : Regular ⟨.cast u, [some a], t, s⟩
  | aliased {a : Expr} (ha : Regular a) (n : String) (t : SqlType) (s : Shape) :
      Regular ⟨.aliased n, [some a], t, s⟩
  | unary {op : Op} {a : Expr} (hop : op.isUnary) (ha : Regular a) (t : SqlType) (s : Shape) :
      Regular ⟨op, [some a], t, s⟩
  | round {a d : Expr} (ha : Regular a) (hd : Regular d) (t : SqlType) (s : Shape) :
      Regular ⟨.round, [some a, some d], t, s⟩
  | variadic {op : Op} {as : List Expr} (hop : op.isVariadic) (hne : as ≠ [])
      (ha : ∀ a ∈ as, Regular a) (t : SqlType) (s : Shape) : Regular ⟨op, as.map some, t, s⟩
  | stringAgg {a p : Expr} {f : Option Expr} (ha : Regular a) (hp : Regular p)
      (hf : ∀ g ∈ f, Regular g) (t : SqlType) (s : Shape) :
      Regular ⟨.stringAgg, [some a, some p, f], t, s⟩
  | binary {op : Op} {l r : Expr} (hop : op.isArithmetic) (hl : Regular l) (hr : Regular r)
      (t : SqlType) (s : Shape) : Regular ⟨op, [some l, some r], t, s⟩

theorem regular_getD {v : Literal} {d : Option Expr} (h : ∀ e ∈ d, e.Regular) :
    (d.getD (.ofLiteral v)).Regular := by
  cases d with
  | none => exact .literal v _ _
  | some e => exact h e rfl

theorem regular_build {f : Form Expr} {e : Expr} (hf : f.Proper)
    (ha : ∀ a ∈ f.operands, a.Regular) (h : f.build = .ok e) : e.Regular := by
  cases f with
  | unary op a =>
    obtain ⟨-, hop, rfl⟩ := unary_eq_ok.mp h
    exact .unary hop (ha a (by simp [Form.operands])) _ _
  | round a d =>
    obtain ⟨-, -, rfl⟩ := round_eq_ok.mp h
    exact .round (ha a (by simp [Form.operands]))
      (regular_getD fun x hx => ha x (by simp_all [Form.operands])) _ _
  | variadic op as =>
    obtain ⟨hne, t, -, rfl⟩ := variadic_eq_ok.mp h
    exact .variadic hf hne ha _ _
  | stringAgg a p c =>
    obtain ⟨-, rfl⟩ := stringAgg_eq_ok.mp h
    exact .stringAgg (ha a (by simp [Form.operands]))
      (regular_getD fun x hx => ha x (by simp_all [Form.operands]))
      (fun x hx => ha x (by simp_all [Form.operands])) _ _
  | cast a t =>
    obtain ⟨-, -, rfl⟩ := cast_eq_ok.mp h
    have hr := ha a (by simp [Form.operands])
    split
    · exact hr
    · exact .cast hr t t _
  | binary op l r =>
    obtain ⟨-, -, t, -, rfl⟩ := binary_eq_ok.mp h
    exact .binary hf (ha l (by simp [Form.operands])) (ha r (by simp [Form.operands])) _ _
  | aliased a n =>
    cases h
    exact .aliased (ha a (by simp [Form.operands])) n _ _

theorem Built.regular {e : Expr} (h : e.Built) : e.Regular := by
  induction h with
  | literal v => exact .literal v _ _
  | @column t n e h =>
    unfold Table.column at h
    split at h
    · cases h
      exact .column t _ _ _
    · cases h
  | form hp _ h ih => exact regular_build hp ih h

end Expr

end TypedSql
