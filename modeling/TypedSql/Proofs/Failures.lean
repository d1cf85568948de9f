import TypedSql.Proofs.Statements

namespace TypedSql

section

variable {ε α β γ δ : Type}

/-- Whether a computation succeeds, or its error. -/
def verdict (x : Except ε α) : Except ε Unit := x.map fun _ => ()

theorem eq_error_of_verdict {x : Except ε α} {y : Except ε β} {e : ε} (h : verdict x = verdict y)
    (hx : x = .error e) : y = .error e := by
  rw [hx] at h
  cases y with
  | error e' =>
    cases h
    rfl
  | ok b => cases h

theorem eq_ok_of_verdict {x : Except ε α} {y : Except ε β} {a : α} (h : verdict x = verdict y)
    (hx : x = .ok a) : ∃ b, y = .ok b := by
  rw [hx] at h
  cases y with
  | error e => cases h
  | ok b => exact ⟨b, rfl⟩

theorem verdict_bind_congr {x : Except ε α} {y : Except ε β} {f : α → Except ε γ}
    {g : β → Except ε δ} (h : verdict x = verdict y) (hfg : ∀ a b, verdict (f a) = verdict (g b)) :
    verdict (x >>= f) = verdict (y >>= g) := by
  cases x with
  | error e =>
    rw [eq_error_of_verdict h rfl]
    rfl
  | ok a =>
    obtain ⟨b, hb⟩ := eq_ok_of_verdict h rfl
    rw [hb]
    exact hfg a b

theorem verdict_mapM {f : α → Except ε β} {g : α → Except ε γ} {as : List α}
    (h : ∀ a ∈ as, verdict (f a) = verdict (g a)) : verdict (as.mapM f) = verdict (as.mapM g) := by
  induction as with
  | nil => rfl
  | cons a as ih =>
    have hrest := ih fun b hb => h b (List.mem_cons_of_mem a hb)
    rw [List.mapM_cons, List.mapM_cons]
    exact verdict_bind_congr (h a List.mem_cons_self)
      fun _ _ => verdict_bind_congr hrest fun _ _ => rfl

end

open Compile

variable {d d' : Dialect} {e : Expr} {op : Op} {args : List (Option Expr)} {t : SqlType}
  {ts ss : Tokens} {x : Error}

section Verdict

/-- Digits that are left out would not have failed. -/
theorem verdict_rounded (d : Dialect) (t : SqlType) (a n : Expr) :
    verdict (rounded d t ⟨a, a.tokens d⟩ ⟨n, n.tokens d⟩) =
      verdict (do
        let _ ← n.tokens d
        a.tokens d) := by
  by_cases h : dropsDigits d n
  · rw [rounded_drop h, tokens_of_zeroDigits h.1]
    cases a.tokens d <;> rfl
  · rw [rounded_keep h]
    cases n.tokens d with
    | error y => rfl
    | ok ns => cases a.tokens d <;> rfl

theorem verdict_arg {f g : Part → Except Error Tokens} {i : Nat}
    (h : ∀ a, some a ∈ args →
      verdict (f ⟨a, a.tokens d⟩) = verdict (g ⟨a, a.tokens d'⟩)) :
    verdict (arg op (argParts d args) i >>= f) = verdict (arg op (argParts d' args) i >>= g) := by
  rcases arg_argParts d op args i with ⟨a, ha, hp⟩ | ⟨hn, hp⟩
  · rcases arg_argParts d' op args i with ⟨b, hb, hq⟩ | ⟨hn, -⟩
    · rw [ha] at hb
      cases hb
      rw [hp, hq]
      exact h a (List.mem_of_getElem? ha)
    · exact absurd ha (hn a)
  · rcases arg_argParts d' op args i with ⟨b, hb, -⟩ | ⟨-, hq⟩
    · exact absurd hb (hn b)
    · rw [hp, hq]
      rfl

theorem verdict_operand {a : Expr} (h : verdict (a.tokens d) = verdict (a.tokens d')) :
    verdict (operand ⟨a, a.tokens d⟩) = verdict (operand ⟨a, a.tokens d'⟩) :=
  verdict_bind_congr h fun _ _ => rfl

/-- A node comes out alike when its arguments do. -/
theorem verdict_node
    (h : ∀ a, some a ∈ args → verdict (a.tokens d) = verdict (a.tokens d')) :
    verdict (node d op t (argParts d args)) = verdict (node d' op t (argParts d' args)) := by
  cases op with
  | literal v | column b n => rfl
  | aliased n => exact verdict_arg h
  | cast u | abs | sign | ceil | floor =>
    exact verdict_arg fun a ha => verdict_bind_congr (h a ha) fun _ _ => rfl
  | round =>
    refine verdict_arg fun a ha => verdict_arg fun n hn => ?_
    -- One dialect may leave the digits out that another one compiles before the value.
    rw [verdict_rounded, verdict_rounded]
    exact verdict_bind_congr (h n hn) fun _ _ => h a ha
  | coalesce | greatest | least =>
    have hgiven : verdict (given (argParts d args)) = verdict (given (argParts d' args)) := by
      rw [given_argParts, given_argParts]
      exact verdict_mapM fun a ha => h a (by simpa using ha)
    exact verdict_bind_congr hgiven fun _ _ => rfl
  | stringAgg =>
    refine verdict_arg fun a ha => verdict_bind_congr (h a ha) fun _ _ => ?_
    refine verdict_arg fun s hs => verdict_bind_congr (h s hs) fun _ _ => ?_
    simp only [argParts_eq, List.getElem?_map]
    cases hf : args[2]? with
    | none => rfl
    | some f =>
      cases f with
      | none => rfl
      | some f => exact verdict_bind_congr (h f (List.mem_of_getElem? hf)) fun _ _ => rfl
  | add | subtract | multiply | divide =>
    refine verdict_arg fun l hl => verdict_arg fun r hr => ?_
    exact verdict_bind_congr (verdict_operand (h l hl))
      fun _ _ => verdict_bind_congr (verdict_operand (h r hr)) fun _ _ => rfl

/-- No dialect succeeds where another fails, or fails with another error. -/
theorem verdict_tokens (d d' : Dialect) (e : Expr) :
    verdict (e.tokens d) = verdict (e.tokens d') := by
  induction e using Expr.induction_on_args with
  | node op args t s ih =>
    rw [Expr.tokens, Expr.tokens]
    exact verdict_node ih

end Verdict

section Fault

/-- How many arguments cannot be left out. -/
def Op.places : Op → Nat
  | .literal _ | .column _ _ | .coalesce | .greatest | .least => 0
  | .cast _ | .aliased _ | .abs | .ceil | .floor | .sign => 1
  | .round | .stringAgg | .add | .subtract | .multiply | .divide => 2

namespace Expr

/-- The node is a constant that is infinite or not a number. -/
def NonFinite (n : Expr) (y : Binary64) : Prop := n.op = .literal (.real y) ∧ y.isFinite = false

/-- The node lacks the argument in one of its places. -/
def Lacks (n : Expr) (i : Nat) : Prop := i < n.op.places ∧ ∀ a, n.args[i]? ≠ some (some a)

/-- What is wrong with a node in itself. -/
inductive Fault (n : Expr) : Error → Prop
  | nonFinite {y : Binary64} (h : n.NonFinite y) : Fault n (.unrenderable (.nonFinite y))
  | lacks {i : Nat} (h : n.Lacks i) :
      Fault n (.unrenderable (.missingArgument n.op.name i))

end Expr

theorem literal_eq_error {v : Literal} (h : literal v = .error x) :
    ∃ y, v = .real y ∧ y.isFinite = false ∧ x = .unrenderable (.nonFinite y) := by
  cases v with
  | real y =>
    simp only [literal] at h
    split at h
    · cases h
    · rename_i hy
      cases h
      exact ⟨y, rfl, by simpa using hy, rfl⟩
  | _ => cases h

/-- What is wrong with a place is the fault of the node, or what goes wrong with the argument in
the place. -/
theorem arg_bind_eq_error {s : Shape} {f : Part → Except Error Tokens} {i : Nat}
    (hi : i < op.places) (h : arg op (argParts d args) i >>= f = .error x) :
    Expr.Fault ⟨op, args, t, s⟩ x ∨
      ∃ a, some a ∈ args ∧ f ⟨a, a.tokens d⟩ = .error x := by
  rcases arg_argParts d op args i with ⟨a, ha, hp⟩ | ⟨hn, hp⟩
  · rw [hp] at h
    exact .inr ⟨a, List.mem_of_getElem? ha, h⟩
  · rw [hp] at h
    cases h
    exact .inl (.lacks (n := ⟨op, args, t, s⟩) ⟨hi, hn⟩)

theorem operand_eq_error {p : Part} (h : operand p = .error x) : p.tokens = .error x := by
  rcases bind_eq_error.mp h with h | ⟨ts, -, h⟩
  · exact h
  · cases h

theorem rounded_eq_error {a n : Expr}
    (h : rounded d t ⟨a, a.tokens d⟩ ⟨n, n.tokens d⟩ = .error x) :
    n.tokens d = .error x ∨ a.tokens d = .error x := by
  rcases bind_eq_error.mp (eq_error_of_verdict (verdict_rounded d t a n) h) with h | ⟨ns, -, h⟩
  · exact .inl h
  · exact .inr h

/-- A node fails by a fault of its own or because an argument does. -/
theorem node_eq_error (s : Shape) (h : node d op t (argParts d args) = .error x) :
    Expr.Fault ⟨op, args, t, s⟩ x ∨ ∃ a, some a ∈ args ∧ a.tokens d = .error x := by
  cases op with
  | literal v =>
    obtain ⟨y, rfl, hy, rfl⟩ := literal_eq_error h
    exact .inl (.nonFinite ⟨rfl, hy⟩)
  | column b n => cases h
  | aliased n => exact arg_bind_eq_error Nat.zero_lt_one h
  | cast u | abs | sign | ceil | floor =>
    rcases arg_bind_eq_error Nat.zero_lt_one h with h | ⟨a, ha, h⟩
    · exact .inl h
    · rcases bind_eq_error.mp h with h | ⟨ts, -, h⟩
      · exact .inr ⟨a, ha, h⟩
      · cases h
  | round =>
    rcases arg_bind_eq_error Nat.zero_lt_two h with h | ⟨a, ha, h⟩
    · exact .inl h
    · rcases arg_bind_eq_error Nat.one_lt_two h with h | ⟨n, hn, h⟩
      · exact .inl h
      · rcases rounded_eq_error h with h | h
        · exact .inr ⟨n, hn, h⟩
        · exact .inr ⟨a, ha, h⟩
  | coalesce | greatest | least =>
    rcases bind_eq_error.mp h with h | ⟨items, -, h⟩
    · rw [given_argParts] at h
      obtain ⟨a, ha, h⟩ := mapM_eq_error h
      exact .inr ⟨a, by simpa using ha, h⟩
    · cases h
  | stringAgg =>
    rcases arg_bind_eq_error Nat.zero_lt_two h with h | ⟨a, ha, h⟩
    · exact .inl h
    rcases bind_eq_error.mp h with h | ⟨vs, -, h⟩
    · exact .inr ⟨a, ha, h⟩
    rcases arg_bind_eq_error Nat.one_lt_two h with h | ⟨p, hp, h⟩
    · exact .inl h
    rcases bind_eq_error.mp h with h | ⟨ss, -, h⟩
    · exact .inr ⟨p, hp, h⟩
    simp only [argParts_eq, List.getElem?_map] at h
    cases hf : args[2]? with
    | none =>
      rw [hf] at h
      cases h
    | some f =>
      rw [hf] at h
      cases f with
      | none => cases h
      | some f =>
        rcases bind_eq_error.mp h with h | ⟨cs, -, h⟩
        · exact .inr ⟨f, List.mem_of_getElem? hf, h⟩
        · cases h
  | add | subtract | multiply | divide =>
    rcases arg_bind_eq_error Nat.zero_lt_two h with h | ⟨l, hl, h⟩
    · exact .inl h
    rcases arg_bind_eq_error Nat.one_lt_two h with h | ⟨r, hr, h⟩
    · exact .inl h
    rcases bind_eq_error.mp h with h | ⟨xs, -, h⟩
    · exact .inr ⟨l, hl, operand_eq_error h⟩
    rcases bind_eq_error.mp h with h | ⟨ys, -, h⟩
    · exact .inr ⟨r, hr, operand_eq_error h⟩
    · cases h

/-- Whatever goes wrong is the fault of some node. -/
theorem tokens_eq_error (h : e.tokens d = .error x) : ∃ n ∈ e.nodes, n.Fault x := by
  induction e using Expr.induction_on_args with
  | node op args t s ih =>
    rw [Expr.tokens] at h
    rcases node_eq_error s h with h | ⟨a, ha, h⟩
    · exact ⟨_, Expr.mem_nodes.mpr (.inl rfl), h⟩
    · obtain ⟨n, hn, hf⟩ := ih a ha h
      exact ⟨n, Expr.mem_nodes.mpr (.inr ⟨a, ha, hn⟩), hf⟩

end Fault

section Regular

namespace Expr

theorem Regular.arg {a : Expr} (hr : e.Regular) (ha : some a ∈ e.args) : a.Regular := by
  cases hr with
  | literal v t s | column b n t s => cases ha
  | cast hr u t s | aliased hr n t s | unary hop hr t s =>
    cases List.mem_singleton.mp ha
    exact hr
  | round hr hn t s =>
    simp only [List.mem_cons, Option.some.injEq, List.not_mem_nil, or_false] at ha
    rcases ha with rfl | rfl
    · exact hr
    · exact hn
  | variadic hop hne hr t s => exact hr a (by simpa using ha)
  | stringAgg hr hp hf t s =>
    simp only [List.mem_cons, Option.some.injEq, List.not_mem_nil, or_false] at ha
    rcases ha with rfl | rfl | ha
    · exact hr
    · exact hp
    · exact hf a ha.symm
  | binary hop hl hr t s =>
    simp only [List.mem_cons, Option.some.injEq, List.not_mem_nil, or_false] at ha
    rcases ha with rfl | rfl
    · exact hl
    · exact hr

theorem Regular.of_mem_nodes {n : Expr} (hr : e.Regular) (hn : n ∈ e.nodes) : n.Regular := by
  induction e using induction_on_args with
  | node op args t s ih =>
    rcases mem_nodes.mp hn with rfl | ⟨a, ha, hn⟩
    · exact hr
    · exact ih a ha (hr.arg ha) hn

theorem Regular.lacks_nothing (hr : e.Regular) (i : Nat) : ¬e.Lacks i := by
  rintro ⟨hi, hn⟩
  cases hr with
  | literal v t s | column b n t s => cases hi
  | @cast a hr u t s | @aliased a hr n t s =>
    cases Nat.lt_one_iff.mp hi
    exact hn a rfl
  | @unary op a hop hr t s =>
    have hplaces : op.places = 1 := by cases op <;> first | rfl | cases hop
    rw [hplaces] at hi
    cases Nat.lt_one_iff.mp hi
    exact hn a rfl
  | @round a b ha hb t s =>
    rcases Nat.le_one_iff_eq_zero_or_eq_one.mp (Nat.le_of_lt_succ hi) with rfl | rfl
    · exact hn a rfl
    · exact hn b rfl
  | @variadic op as hop hne hr t s =>
    have hplaces : op.places = 0 := by cases op <;> first | rfl | cases hop
    rw [hplaces] at hi
    cases hi
  | @stringAgg a p f ha hp hf t s =>
    rcases Nat.le_one_iff_eq_zero_or_eq_one.mp (Nat.le_of_lt_succ hi) with rfl | rfl
    · exact hn a rfl
    · exact hn p rfl
  | @binary op l r hop hl hr t s =>
    have hplaces : op.places = 2 := by cases op <;> first | rfl | cases hop
    rw [hplaces] at hi
    rcases Nat.le_one_iff_eq_zero_or_eq_one.mp (Nat.le_of_lt_succ hi) with rfl | rfl
    · exact hn l rfl
    · exact hn r rfl

/-- No argument of a regular expression is left out of account. -/
theorem Regular.arg_tokens {a : Expr} (hr : e.Regular) (h : e.tokens d = .ok ts)
    (ha : some a ∈ e.args) : ∃ ss, a.tokens d = .ok ss := by
  cases hr with
  | literal v t s | column b n t s => cases ha
  | aliased hr n t s =>
    rw [tokens_aliased] at h
    cases List.mem_singleton.mp ha
    exact ⟨ts, h⟩
  | cast hr u t s =>
    rw [tokens_cast] at h
    obtain ⟨ss, hs, -⟩ := bind_eq_ok.mp h
    cases List.mem_singleton.mp ha
    exact ⟨ss, hs⟩
  | unary hop hr t s =>
    rw [tokens_unary hop] at h
    obtain ⟨ss, hs, -⟩ := bind_eq_ok.mp h
    cases List.mem_singleton.mp ha
    exact ⟨ss, hs⟩
  | @round b n hb hn t s =>
    rw [tokens_round] at h
    obtain ⟨us, hu⟩ := eq_ok_of_verdict (verdict_rounded d t b n) h
    obtain ⟨ns, hns, hvs⟩ := bind_eq_ok.mp hu
    simp only [List.mem_cons, Option.some.injEq, List.not_mem_nil, or_false] at ha
    rcases ha with rfl | rfl
    · exact ⟨us, hvs⟩
    · exact ⟨ns, hns⟩
  | variadic hop hne hr t s =>
    rw [tokens_variadic hop] at h
    obtain ⟨items, hitems, -⟩ := bind_eq_ok.mp h
    exact ok_of_mapM hitems a (by simpa using ha)
  | @stringAgg b p f hb hp hf t s =>
    rw [tokens_stringAgg] at h
    obtain ⟨vs, hv, h⟩ := bind_eq_ok.mp h
    obtain ⟨ss, hs, h⟩ := bind_eq_ok.mp h
    obtain ⟨fs, hfs, -⟩ := bind_eq_ok.mp h
    simp only [List.mem_cons, Option.some.injEq, List.not_mem_nil, or_false] at ha
    rcases ha with rfl | rfl | rfl
    · exact ⟨vs, hv⟩
    · exact ⟨ss, hs⟩
    · obtain ⟨cs, hc, -⟩ := map_eq_ok.mp hfs
      exact ⟨cs, hc⟩
  | @binary op l r hop hl hr t s =>
    rw [tokens_binary hop] at h
    obtain ⟨xs, hx, h⟩ := bind_eq_ok.mp h
    obtain ⟨ys, hy, h⟩ := bind_eq_ok.mp h
    obtain ⟨ls, hls, -⟩ := bind_eq_ok.mp hx
    obtain ⟨rs, hrs, -⟩ := bind_eq_ok.mp hy
    simp only [List.mem_cons, Option.some.injEq, List.not_mem_nil, or_false] at ha
    rcases ha with rfl | rfl
    · exact ⟨ls, hls⟩
    · exact ⟨rs, hrs⟩

theorem Regular.node_tokens {n : Expr} (hr : e.Regular) (h : e.tokens d = .ok ts)
    (hn : n ∈ e.nodes) : ∃ ss, n.tokens d = .ok ss := by
  induction e using induction_on_args generalizing ts with
  | node op args t s ih =>
    rcases mem_nodes.mp hn with rfl | ⟨a, ha, hn⟩
    · exact ⟨ts, h⟩
    · obtain ⟨ss, hs⟩ := hr.arg_tokens h ha
      exact ih a ha (hr.arg ha) hs hn

theorem NonFinite.tokens {n : Expr} {y : Binary64} (h : n.NonFinite y) (d : Dialect) :
    n.tokens d = .error (.unrenderable (.nonFinite y)) := by
  obtain ⟨op, args, t, s⟩ := n
  obtain ⟨rfl, hy⟩ := h
  rw [tokens_literal]
  exact if_neg (by simp [hy])

/-- A regular expression fails exactly if one of its constants is not finite. -/
theorem Regular.fault (hr : e.Regular) (h : e.tokens d = .error x) :
    ∃ n ∈ e.nodes, ∃ y, n.NonFinite y ∧ x = .unrenderable (.nonFinite y) := by
  obtain ⟨n, hn, hf⟩ := tokens_eq_error h
  cases hf with
  | nonFinite hy => exact ⟨n, hn, _, hy, rfl⟩
  | lacks hl => exact absurd hl ((hr.of_mem_nodes hn).lacks_nothing _)

theorem Regular.fails (hr : e.Regular) {n : Expr} {y : Binary64} (hn : n ∈ e.nodes)
    (hy : n.NonFinite y) (d : Dialect) : ∃ x, e.tokens d = .error x := by
  cases h : e.tokens d with
  | error x => exact ⟨x, rfl⟩
  | ok ts =>
    obtain ⟨ss, hs⟩ := hr.node_tokens h hn
    rw [hy.tokens d] at hs
    cases hs

end Expr

end Regular

section Compilation

/-- Tokens that an expression has can be written in any dialect and either layout. -/
theorem sql_of_query {q : Query} (h : e.query d = .ok q) (d' : Dialect) (pretty : Bool) :
    ∃ sql, { q with pretty }.sql d' = .ok sql :=
  have hquery : (Target.expr e).query d = .ok q := h
  render_of_finite d' (assembled_target hquery pretty).finite

theorem verdict_compile (e : Expr) (o : CompileOptions) :
    verdict ((Target.expr e).compile o) = verdict (e.query o.dialect) := by
  have hcompile : (Target.expr e).compile o = (do
      let q ← e.query o.dialect
      { q with pretty := o.pretty }.sql o.dialect) := rfl
  rw [hcompile]
  cases hq : e.query o.dialect with
  | error x => rfl
  | ok q =>
    obtain ⟨sql, hsql⟩ := sql_of_query hq o.dialect o.pretty
    rw [except_ok_bind, hsql]
    rfl

theorem compile_eq_error {o : CompileOptions} :
    (Target.expr e).compile o = .error x ↔ e.query o.dialect = .error x :=
  ⟨eq_error_of_verdict (verdict_compile e o), eq_error_of_verdict (verdict_compile e o).symm⟩

theorem verdict_query (d d' : Dialect) (e : Expr) :
    verdict (e.query d) = verdict (e.query d') := by
  by_cases hm : e.MixesTables
  · rw [Expr.query_of_mixesTables hm, Expr.query_of_mixesTables hm]
  · rw [Expr.query_of_one hm, Expr.query_of_one hm]
    exact verdict_bind_congr (verdict_tokens d d' e) fun _ _ => rfl

theorem query_of_one_eq_error (hm : ¬e.MixesTables) :
    e.query d = .error x ↔ e.tokens d = .error x := by
  rw [Expr.query_of_one hm]
  cases e.tokens d <;> simp

theorem query_eq_multipleTables {ns : List String} :
    e.query d = .error (.multipleTables ns) ↔ e.MixesTables ∧ ns = e.tables.map Table.name := by
  by_cases hm : e.MixesTables
  · rw [Expr.query_of_mixesTables hm]
    simp [hm, eq_comm]
  · rw [query_of_one_eq_error hm, iff_false_right fun h => hm h.1]
    intro h
    obtain ⟨n, -, hf⟩ := tokens_eq_error h
    cases hf

/-- Dialect and layout make no difference to whether an expression compiles, and what compiles can
be written everywhere. Columns of several tables are an error before all others; an expression over
one table fails exactly for a constant that is infinite or not a number. -/
theorem compile_fails_alike (e : Expr) :
    (∀ o o' : CompileOptions,
      verdict ((Target.expr e).compile o) = verdict ((Target.expr e).compile o')) ∧
    (∀ d q, e.query d = .ok q → ∀ d' pretty, ∃ sql, { q with pretty }.sql d' = .ok sql) ∧
    (∀ o ns, (Target.expr e).compile o = .error (.multipleTables ns) ↔
      e.MixesTables ∧ ns = (e.nodes.filterMap Expr.table?).eraseDups.map Table.name) ∧
    (e.Built → ¬e.MixesTables → ∀ o,
      ((∃ x, (Target.expr e).compile o = .error x) ↔ ∃ n ∈ e.nodes, ∃ y, n.NonFinite y) ∧
      ∀ x, (Target.expr e).compile o = .error x →
        ∃ n ∈ e.nodes, ∃ y, n.NonFinite y ∧ x = .unrenderable (.nonFinite y)) := by
  refine ⟨fun o o' => ?_, fun d q hq => sql_of_query hq, fun o ns => ?_, fun he hm o => ?_⟩
  · rw [verdict_compile, verdict_compile, verdict_query o.dialect o'.dialect]
  · rw [compile_eq_error, query_eq_multipleTables, Expr.tables_eq]
  · have hfault : ∀ x, (Target.expr e).compile o = .error x →
        ∃ n ∈ e.nodes, ∃ y, n.NonFinite y ∧ x = .unrenderable (.nonFinite y) := by
      intro x hx
      rw [compile_eq_error, query_of_one_eq_error hm] at hx
      exact he.regular.fault hx
    refine ⟨⟨?_, ?_⟩, hfault⟩
    · rintro ⟨x, hx⟩
      obtain ⟨n, hn, y, hy, -⟩ := hfault x hx
      exact ⟨n, hn, y, hy⟩
    · rintro ⟨n, hn, y, hy⟩
      obtain ⟨x, hx⟩ := he.regular.fails hn hy o.dialect
      exact ⟨x, compile_eq_error.mpr ((query_of_one_eq_error hm).mpr hx)⟩

def infinity : Binary64 := ⟨0x7FF0000000000000⟩

/-- An infinite constant behind a column. -/
def endlessAge : Expr :=
  ⟨.add, [some (.ofColumn people ⟨"age", .integer .w32⟩), some (.ofLiteral (.real infinity))],
    .floating .double, .column⟩

theorem endlessAge_fails :
    endlessAge.Built ∧ ¬endlessAge.MixesTables ∧
      ∀ o, (Target.expr endlessAge).compile o = .error (.unrenderable (.nonFinite infinity)) := by
  have hage : (Expr.ofColumn people ⟨"age", .integer .w32⟩).Built :=
    .column (t := people) (n := "age") rfl
  have hbuilt : endlessAge.Built :=
    Expr.built_binary .add rfl hage (.literal (.real infinity)) rfl
  have hnodes : endlessAge.nodes = [endlessAge, .ofColumn people ⟨"age", .integer .w32⟩,
      .ofLiteral (.real infinity)] := rfl
  have hone : ¬endlessAge.MixesTables := by
    have htables : endlessAge.tables = [people] := rfl
    simp [Expr.mixesTables_iff, htables]
  refine ⟨hbuilt, hone, fun o => ?_⟩
  obtain ⟨hiff, hfault⟩ := (compile_fails_alike endlessAge).2.2.2 hbuilt hone o
  obtain ⟨x, hx⟩ := hiff.mpr ⟨.ofLiteral (.real infinity), by simp [hnodes], infinity, rfl, rfl⟩
  obtain ⟨n, hn, y, ⟨hy, -⟩, rfl⟩ := hfault x hx
  have hinfinite : y = infinity := by
    rw [hnodes] at hn
    simp only [List.mem_cons, List.not_mem_nil, or_false] at hn
    rcases hn with rfl | rfl | rfl
    · cases hy
    · cases hy
    · cases hy
      rfl
  rw [hx, hinfinite]

end Compilation

end TypedSql
