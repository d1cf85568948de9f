import TypedSql.Proofs.Construction

namespace TypedSql

namespace Form

variable {α β γ : Type}

def map (f : α → β) : Form α → Form β
  | unary op a => unary op (f a)
  | round a d => round (f a) (d.map f)
  | variadic op as => variadic op (as.map f)
  | stringAgg a s p => stringAgg (f a) (s.map f) (p.map f)
  | cast a t => cast (f a) t
  | binary op l r => binary op (f l) (f r)
  | aliased a n => aliased (f a) n

theorem operands_map (f : α → β) (p : Form α) : (p.map f).operands = p.operands.map f := by
  cases p with
  | round a d => cases d <;> rfl
  | stringAgg a s c => cases s <;> cases c <;> rfl
  | _ => rfl

theorem bindOption_map (f : α → β) (g : β → Except Error γ) (a : Option α) :
    bindOption g (a.map f) = bindOption (fun x => g (f x)) a := by
  cases a <;> rfl

theorem bindArgs_map (f : α → β) (g : β → Except Error γ) (p : Form α) :
    (p.map f).bindArgs g = p.bindArgs fun x => g (f x) := by
  cases p with
  | round a d => simp only [map, bindArgs, bindOption_map]
  | variadic op as => simp only [map, bindArgs, List.mapM_map]; rfl
  | stringAgg a s c => simp only [map, bindArgs, bindOption_map]
  | _ => rfl

theorem bindOption_ok (a : Option α) : bindOption (.ok : α → Except Error α) a = .ok a := by
  cases a <;> rfl

theorem bindArgs_ok (p : Form α) : p.bindArgs (.ok : α → Except Error α) = .ok p := by
  cases p <;> simp [bindArgs, bindOption_ok, mapM_ok]

theorem bindOption_congr {f g : α → Except Error β} {a : Option α} (h : ∀ x ∈ a, f x = g x) :
    bindOption f a = bindOption g a := by
  cases a with
  | none => rfl
  | some x => simp only [bindOption, h x rfl]

theorem bindArgs_congr {f g : α → Except Error β} {p : Form α} (h : ∀ x ∈ p.operands, f x = g x) :
    p.bindArgs f = p.bindArgs g := by
  cases p with
  | unary op a | cast a t | aliased a n => simp [bindArgs, h a (by simp [operands])]
  | round a d =>
    have ha := h a (by simp [operands])
    have hd := bindOption_congr (a := d) fun x hx => h x (by simp_all [operands])
    simp only [bindArgs, ha, hd]
  | variadic op as =>
    have hm : as.mapM f = as.mapM g := mapM_congr h
    simp only [bindArgs, hm]
  | stringAgg a s c =>
    have ha := h a (by simp [operands])
    have hs := bindOption_congr (a := s) fun x hx => h x (by simp_all [operands])
    have hc := bindOption_congr (a := c) fun x hx => h x (by simp_all [operands])
    simp only [bindArgs, ha, hs, hc]
  | binary op l r =>
    simp only [bindArgs, h l (by simp [operands]), h r (by simp [operands])]

end Form

namespace Method

variable {α β : Type}

/-- The arguments given, in their order. -/
def args : Method α → List α
  | round d => d.toList
  | fillNull v => [v]
  | coalesce as => as
  | stringAgg s f => s.toList ++ f.toList
  | add a | subtract a | multiply a | divide a => [a]
  | _ => []

def map (f : α → β) : Method α → Method β
  | abs => abs
  | ceil => ceil
  | floor => floor
  | sign => sign
  | round d => round (d.map f)
  | fillNull v => fillNull (f v)
  | coalesce as => coalesce (as.map f)
  | stringAgg s p => stringAgg (s.map f) (p.map f)
  | castTo t => castTo t
  | add a => add (f a)
  | subtract a => subtract (f a)
  | multiply a => multiply (f a)
  | divide a => divide (f a)
  | aliased n => aliased n

/-- The method with `f` of each argument, or the first failure of `f` from left to right. -/
def bindArgs (f : α → Except Error β) : Method α → Except Error (Method β)
  | abs => .ok abs
  | ceil => .ok ceil
  | floor => .ok floor
  | sign => .ok sign
  | round d => do return round (← Form.bindOption f d)
  | fillNull v => do return fillNull (← f v)
  | coalesce as => do return coalesce (← as.mapM f)
  | stringAgg s p => do return stringAgg (← Form.bindOption f s) (← Form.bindOption f p)
  | castTo t => .ok (castTo t)
  | add a => do return add (← f a)
  | subtract a => do return subtract (← f a)
  | multiply a => do return multiply (← f a)
  | divide a => do return divide (← f a)
  | aliased n => .ok (aliased n)

theorem map_form (f : α → β) (a : α) (m : Method α) : (m.map f).form (f a) = (m.form a).map f := by
  cases m <;> rfl

theorem operands_form (a : α) (m : Method α) : (m.form a).operands = a :: m.args := by
  cases m <;> rfl

theorem form_proper (a : α) (m : Method α) : (m.form a).Proper := by
  cases m <;> simp [form, Form.Proper, Op.isUnary, Op.isVariadic, Op.isArithmetic]

/-- The receiver comes first among the arguments of a method's form. -/
theorem bindArgs_form (f : α → Except Error β) (a : α) (m : Method α) :
    (m.form a).bindArgs f = (do
      let b ← f a
      let n ← m.bindArgs f
      return n.form b) := by
  cases m <;> simp [form, Form.bindArgs, bindArgs]

end Method

theorem isBound_map_expr (f : Form Expr) : (f.map Operand.expr).isBound = true := by
  simp [Form.isBound, Form.operands_map, Operand.isTemplate]

/-- On expressions, a form is built at once. -/
theorem ofForm_map_expr (f : Form Expr) :
    Draft.ofForm (f.map .expr) = (do return .bound (← f.build)) := by
  have hb : (f.map Operand.expr).bindArgs Operand.bind = .ok f := by
    rw [Form.bindArgs_map]
    exact Form.bindArgs_ok f
  simp [Draft.ofForm, isBound_map_expr, hb]

theorem ofForm_map_expr_toExpr (f : Form Expr) :
    (do (← Draft.ofForm (f.map .expr)).toExpr) = f.build := by
  rw [ofForm_map_expr]
  cases f.build <;> rfl

/-- A method called on an expression is the method called on the draft that holds it. -/
theorem call_eq_draft_call (e : Expr) (m : Method Operand) :
    e.call m = (do (← Draft.call (.bound e) m).toExpr) := by
  cases m with
  | abs => exact (ofForm_map_expr_toExpr (.unary .abs e)).symm
  | ceil => exact (ofForm_map_expr_toExpr (.unary .ceil e)).symm
  | floor => exact (ofForm_map_expr_toExpr (.unary .floor e)).symm
  | sign => exact (ofForm_map_expr_toExpr (.unary .sign e)).symm
  | castTo u => exact (ofForm_map_expr_toExpr (.cast e u)).symm
  | aliased n => exact (ofForm_map_expr_toExpr (.aliased e n)).symm
  | _ => rfl

/-- Calling a method on an expression, with expressions as arguments, is building its form. -/
theorem call_map_expr (e : Expr) (m : Method Expr) : e.call (m.map .expr) = (m.form e).build := by
  rw [call_eq_draft_call, ← ofForm_map_expr_toExpr, ← Method.map_form]
  rfl

/-- A form is resolved by its arguments, whether it was built already or recorded. -/
theorem ofForm_resolve (t : Table) (f : Form Operand) :
    (do (← Draft.ofForm f).resolve t) = (do (← f.bindArgs (Operand.resolve t)).build) := by
  unfold Draft.ofForm
  split
  · rename_i hb
    have h : f.bindArgs Operand.bind = f.bindArgs (Operand.resolve t) := by
      refine Form.bindArgs_congr fun a ha => ?_
      have := List.all_eq_true.mp hb a ha
      cases a with
      | template p => simp [Operand.isTemplate] at this
      | expr e | literal v => simp [Operand.bind, Operand.resolve]
    rw [h]
    cases f.bindArgs (Operand.resolve t) with
    | error x => rfl
    | ok g =>
      simp only [except_ok_bind]
      cases g.build <;> rfl
  · simp only [except_ok_bind, Draft.resolve, Template.resolve, resolveForm_eq]

/-- The form of a method is resolved by its receiver, then by its arguments. -/
theorem bindArgs_form_build (t : Table) (a : Operand) (m : Method Operand) :
    (do (← (m.form a).bindArgs (Operand.resolve t)).build) = (do
      let e ← a.resolve t
      let n ← m.bindArgs (Operand.resolve t)
      e.call (n.map .expr)) := by
  simp only [Method.bindArgs_form, bind_assoc, except_pure, except_ok_bind, call_map_expr]

theorem record_resolve (t : Table) (p : Template) (m : Method Operand) :
    (p.record m).resolve t = (do
      let e ← p.resolve t
      let n ← m.bindArgs (Operand.resolve t)
      e.call (n.map .expr)) := by
  have h := bindArgs_form_build t (.template p) m
  simpa only [Template.record, Template.resolve, resolveForm_eq, Operand.resolve] using h

theorem resolve_toOperand (t : Table) (d : Draft) : d.toOperand.resolve t = d.resolve t := by
  cases d <;> simp [Draft.toOperand, Operand.resolve, Draft.resolve]

theorem draft_call_resolve (t : Table) (d : Draft) (m : Method Operand) :
    (do (← d.call m).resolve t) = (do
      let e ← d.resolve t
      let n ← m.bindArgs (Operand.resolve t)
      e.call (n.map .expr)) := by
  rw [← resolve_toOperand, ← bindArgs_form_build]
  exact ofForm_resolve t (m.form d.toOperand)

theorem variadic_resolve (t : Table) (op : Op) (as : List Operand) :
    (do (← Draft.variadic op as).resolve t) = (do
      let es ← as.mapM (Operand.resolve t)
      (← Draft.variadic op (es.map .expr)).toExpr) := by
  cases as with
  | nil => rfl
  | cons a as =>
    have h : (do (← Draft.variadic op (a :: as)).resolve t) =
        (do (← (Form.variadic op (a :: as)).bindArgs (Operand.resolve t)).build) :=
      ofForm_resolve t (.variadic op (a :: as))
    rw [h]
    simp only [Form.bindArgs, bind_assoc, except_pure, except_ok_bind]
    cases hes : (a :: as).mapM (Operand.resolve t) with
    | error x => rfl
    | ok es =>
      obtain _ | ⟨e, es⟩ := es
      · cases mapM_eq_ok.mp hes
      have hm : Draft.variadic op ((e :: es).map .expr) =
          (do return .bound (← (Form.variadic op (e :: es)).build)) :=
        ofForm_map_expr (.variadic op (e :: es))
      rw [except_ok_bind, except_ok_bind, hm]
      cases (Form.variadic op (e :: es)).build <;> rfl

/-- The functions of many arguments. -/
def Draft.functions : List (List Operand → Except Error Draft) := [coalesce, greatest, least]

theorem function_resolve (t : Table) {fn : List Operand → Except Error Draft}
    (hf : fn ∈ Draft.functions) (as : List Operand) :
    (do (← fn as).resolve t) = (do
      let es ← as.mapM (Operand.resolve t)
      (← fn (es.map .expr)).toExpr) := by
  simp only [Draft.functions, List.mem_cons, List.not_mem_nil, or_false] at hf
  rcases hf with rfl | rfl | rfl
  · exact variadic_resolve t .coalesce as
  · exact variadic_resolve t .greatest as
  · exact variadic_resolve t .least as

/-- What can be written from attributes of the row, constants and expressions by recording methods
on templates, calling them on drafts and applying functions, beside the outcome of making the same
calls directly on the columns of `t`. -/
inductive Direct (t : Table) : Operand → Except Error Expr → Prop
  | expr (e : Expr) : Direct t (.expr e) (.ok e)
  | literal (v : Literal) : Direct t (.literal v) (.ok (.ofLiteral v))
  | column (n : String) : Direct t (.template (.col n)) (t.column n)
  | record {p : Template} {r : Except Error Expr} {m : Method (Operand × Except Error Expr)}
      (hp : Direct t (.template p) r) (hm : ∀ x ∈ m.args, Direct t x.1 x.2) :
      Direct t (.template (p.record (m.map Prod.fst))) (do
        let e ← r
        let n ← m.bindArgs Prod.snd
        e.call (n.map .expr))
  | call {d d' : Draft} {r : Except Error Expr} {m : Method (Operand × Except Error Expr)}
      (hd : Direct t d.toOperand r) (hm : ∀ x ∈ m.args, Direct t x.1 x.2)
      (h : d.call (m.map Prod.fst) = .ok d') :
      Direct t d'.toOperand (do
        let e ← r
        let n ← m.bindArgs Prod.snd
        e.call (n.map .expr))
  | function {fn : List Operand → Except Error Draft} {d : Draft}
      {xs : List (Operand × Except Error Expr)} (hf : fn ∈ Draft.functions)
      (hx : ∀ x ∈ xs, Direct t x.1 x.2) (h : fn (xs.map Prod.fst) = .ok d) :
      Direct t d.toOperand (do
        let es ← xs.mapM Prod.snd
        (← fn (es.map .expr)).toExpr)

theorem Method.bindArgs_map_congr {α β γ : Type} {f : α → β} {g : β → Except Error γ}
    {k : α → Except Error γ} {m : Method α} (h : ∀ x ∈ m.args, g (f x) = k x) :
    (m.map f).bindArgs g = m.bindArgs k := by
  cases m with
  | round d =>
    have hd := Form.bindOption_congr (a := d) fun x hx => h x (by simp_all [args])
    simp only [map, bindArgs, Form.bindOption_map, hd]
  | stringAgg s p =>
    have hs := Form.bindOption_congr (a := s) fun x hx => h x (by simp_all [args])
    have hp := Form.bindOption_congr (a := p) fun x hx => h x (by simp_all [args])
    simp only [map, bindArgs, Form.bindOption_map, hs, hp]
  | coalesce as =>
    have hm : as.mapM (fun x => g (f x)) = as.mapM k := mapM_congr h
    simp only [map, bindArgs, List.mapM_map, ← hm]
    rfl
  | fillNull a | add a | subtract a | multiply a | divide a =>
    simp only [map, bindArgs, h a (by simp [args])]
  | _ => rfl

theorem resolve_direct {t : Table} {a : Operand} {r : Except Error Expr} (h : Direct t a r) :
    a.resolve t = r := by
  induction h with
  | expr e | literal v => simp only [Operand.resolve]
  | column n => simp only [Operand.resolve, Template.col, Template.resolve]
  | @record p r m _ _ hp hm =>
    have hr := record_resolve t p (m.map Prod.fst)
    rw [Method.bindArgs_map_congr hm] at hr
    simp only [Operand.resolve] at hp ⊢
    rw [hr, hp]
  | @call d d' r m _ _ h hd hm =>
    have hr := draft_call_resolve t d (m.map Prod.fst)
    rw [Method.bindArgs_map_congr hm, h, except_ok_bind] at hr
    rw [resolve_toOperand] at hd ⊢
    rw [hr, hd]
  | @function fn d xs hf _ h hx =>
    have hr := function_resolve t hf (xs.map Prod.fst)
    have hm : (xs.map Prod.fst).mapM (Operand.resolve t) = xs.mapM Prod.snd := by
      rw [List.mapM_map]
      exact mapM_congr hx
    rw [h, except_ok_bind, hm] at hr
    rw [resolve_toOperand, hr]

/-- Resolving is calling the same methods and functions on what the arguments resolve to, from left
to right, however the template or the draft came about. -/
theorem resolve_is_direct_construction (t : Table) :
    (∀ (p : Template) (m : Method Operand), (p.record m).resolve t = (do
      let e ← p.resolve t
      let n ← m.bindArgs (Operand.resolve t)
      e.call (n.map .expr))) ∧
    (∀ (d : Draft) (m : Method Operand), (do (← d.call m).resolve t) = (do
      let e ← d.resolve t
      let n ← m.bindArgs (Operand.resolve t)
      e.call (n.map .expr))) ∧
    (∀ fn ∈ Draft.functions, ∀ as : List Operand, (do (← fn as).resolve t) = (do
      let es ← as.mapM (Operand.resolve t)
      (← fn (es.map .expr)).toExpr)) ∧
    ∀ (a : Operand) (r : Except Error Expr), Direct t a r → a.resolve t = r :=
  ⟨record_resolve t, draft_call_resolve t, fun _ hf => function_resolve t hf,
    fun _ _ h => resolve_direct h⟩

theorem resolve_age_plus_name :
    (Template.record (.col "age") (.add (.template (.col "name")))).resolve people =
      .error (.typeMismatch "Add" [.integer .w32, .string]) := by
  have h := (resolve_is_direct_construction people).2.2.2 _ _
    (.record (m := .add (.template (.col "name"), people.column "name")) (.column "age")
      (by simpa [Method.args] using .column "name"))
  rw [Operand.resolve] at h
  exact h.trans (by rfl)

end TypedSql
