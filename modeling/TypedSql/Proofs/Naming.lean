import TypedSql.Proofs.Nodes

namespace TypedSql

open Compile

variable {α β : Type} {d : Dialect}

/-- The tokens of the expression that a form builds. -/
def Form.compiled (d : Dialect) (f : Form Expr) : Except Error Tokens := do (← f.build).tokens d

theorem compiled_unary {op : Op} (hop : op.isUnary) (a : Expr) :
    (Form.unary op a).compiled d =
      if a.type.isNumeric then do
        let ts ← a.tokens d
        return if settles op then settle d (op.unaryType a.type) a.type (call1 op ts)
          else call1 op ts
      else .error (.typeMismatch op.name [a.type]) := by
  split
  · rename_i hn
    have hb : (Form.unary op a).build = .ok ⟨op, [some a], op.unaryType a.type, a.shape⟩ :=
      Expr.unary_eq_ok.mpr ⟨hn, hop, rfl⟩
    rw [Form.compiled, hb, except_ok_bind, tokens_unary hop]
  · rename_i hn
    simp [Form.compiled, Form.build, Expr.unary, hn]

theorem compiled_round (a : Expr) (n : Option Expr) :
    (Form.round a n).compiled d =
      let n := n.getD (.ofLiteral Expr.zeroDigits)
      if a.type.isNumeric then
        if n.type.isInteger then
          rounded d (Expr.roundType a.type n) ⟨a, a.tokens d⟩ ⟨n, n.tokens d⟩
        else .error (.typeMismatch Op.round.name [a.type, n.type])
      else .error (.typeMismatch Op.round.name [a.type]) := by
  simp only [Form.compiled, Form.build, Expr.round]
  cases ha : a.type.isNumeric with
  | false => simp
  | true =>
    cases (n.getD (.ofLiteral Expr.zeroDigits)).type.isInteger with
    | false => simp
    | true => simp [tokens_round]

theorem compiled_variadic {op : Op} (hop : op.isVariadic) (as : List Expr) :
    (Form.variadic op as).compiled d =
      if as.isEmpty then .error (.missingArguments op.functionName 1)
      else do
        let _ ← SqlType.joinAll op.name (as.map Expr.type)
        return .call op.name (← as.mapM (Expr.tokens d)) := by
  simp only [Form.compiled, Form.build, Expr.variadic]
  split
  · rfl
  · simp only [bind_assoc, except_pure, except_ok_bind, tokens_variadic hop]

theorem compiled_stringAgg (a : Expr) (s c : Option Expr) :
    (Form.stringAgg a s c).compiled d =
      let s := s.getD (.ofLiteral Expr.comma)
      if a.family = .string ∧ s.family = .string ∧ ∀ g ∈ c, g.family = .boolean then do
        let value ← a.tokens d
        let separator ← s.tokens d
        return aggregated d value separator (← Form.bindOption (Expr.tokens d) c)
      else
        .error (.typeMismatch Op.stringAgg.name
          (a.type :: s.type :: (c.map Expr.type).toList)) := by
  simp only [Form.compiled, Form.build, Expr.stringAgg]
  by_cases hc : a.family = .string ∧ (s.getD (.ofLiteral Expr.comma)).family = .string ∧
      ∀ g ∈ c, g.family = .boolean
  · rw [if_pos hc, if_pos hc, except_ok_bind, tokens_stringAgg]
  · rw [if_neg hc, if_neg hc, except_error_bind]

theorem compiled_cast (a : Expr) (t : SqlType) :
    (Form.cast a t).compiled d = (do
      let u ← t.checked
      if u = .null then .error (.typeMismatch (Op.cast u).name [a.type, u])
      else if a.type = u then a.tokens d
      else return castTo d u (← a.tokens d)) := by
  simp only [Form.compiled, Form.build, Expr.cast, bind_assoc]
  refine bind_congr fun u => ?_
  split
  · rfl
  · split
    · rfl
    · rw [except_ok_bind, tokens_cast]

theorem compiled_binary {op : Op} (hop : op.isArithmetic) (l r : Expr) :
    (Form.binary op l r).compiled d =
      if !Expr.isOperand l.type || !Expr.isOperand r.type then
        .error (.typeMismatch op.name [l.type, r.type])
      else
        match l.type.join r.type with
        | some t => arithmetic d op (Expr.arithmeticType op t) ⟨l, l.tokens d⟩ ⟨r, r.tokens d⟩
        | none => .error (.typeMismatch op.name [l.type, r.type]) := by
  simp only [Form.compiled, Form.build, Expr.binary]
  split
  · rfl
  · cases l.type.join r.type with
    | none => rfl
    | some t => rw [except_ok_bind, tokens_binary hop]

theorem compiled_aliased (a : Expr) (n : String) :
    (Form.aliased a n).compiled d = a.tokens d := by
  rw [Form.compiled, Form.build, except_ok_bind, Expr.aliased, tokens_aliased]

/-- Expressions of one type with the same tokens. -/
structure Agree (d : Dialect) (a b : Expr) : Prop where
  type : a.type = b.type
  tokens : a.tokens d = b.tokens d

theorem Agree.refl (d : Dialect) (a : Expr) : Agree d a a := ⟨rfl, rfl⟩

theorem Agree.family {a b : Expr} (h : Agree d a b) : a.family = b.family :=
  congrArg SqlType.family h.type

theorem agree_aliased (d : Dialect) (a : Expr) (n : String) : Agree d (a.aliased n) a :=
  ⟨rfl, tokens_aliased d a n⟩

/-- Pairs of arguments between which the compiler sees no difference where it looks at their
operations. -/
def Form.Alike (d : Dialect) : Form (Expr × Expr) → Prop
  | binary _ l r => (l.1.op.isArithmetic = l.2.op.isArithmetic) ∧
      r.1.op.isArithmetic = r.2.op.isArithmetic
  | round a (some n) =>
    (n.1.literal? = some Expr.zeroDigits ↔ n.2.literal? = some Expr.zeroDigits) ∨
      (d.rules.roundNeedsDigits ∧ a.1.type.isDecimal)
  | _ => True

theorem operand_congr {a b : Expr} (h : Agree d a b)
    (hop : a.op.isArithmetic = b.op.isArithmetic) :
    operand ⟨a, a.tokens d⟩ = operand ⟨b, b.tokens d⟩ := by
  simp only [operand, h.tokens, hop]

theorem arithmetic_congr {op : Op} {t : SqlType} {l r : Expr × Expr} (h : Agree d l.1 l.2)
    (h' : Agree d r.1 r.2) (ha : (Form.binary op l r).Alike d) :
    arithmetic d op t ⟨l.1, l.1.tokens d⟩ ⟨r.1, r.1.tokens d⟩ =
      arithmetic d op t ⟨l.2, l.2.tokens d⟩ ⟨r.2, r.2.tokens d⟩ := by
  have hn : needsDouble d op t l.1 r.1 = needsDouble d op t l.2 r.2 := by
    simp only [needsDouble, h.type, h'.type]
  simp only [arithmetic, operand_congr h ha.1, operand_congr h' ha.2, hn]

theorem rounded_congr {a b m n : Expr} {t : SqlType} (h : Agree d a b) (hn : Agree d m n)
    (hd : dropsDigits d m ↔ dropsDigits d n) :
    rounded d t ⟨a, a.tokens d⟩ ⟨m, m.tokens d⟩ = rounded d t ⟨b, b.tokens d⟩ ⟨n, n.tokens d⟩ := by
  unfold dropsDigits at hd
  simp only [rounded, hd, h.type, h.tokens, hn.tokens]

theorem roundType_congr {a : SqlType} {m n : Expr}
    (h : (m.literal? = some Expr.zeroDigits ↔ n.literal? = some Expr.zeroDigits) ∨ a.isDecimal) :
    Expr.roundType a m = Expr.roundType a n := by
  unfold Expr.roundType
  rcases h with h | h
  · simp only [h]
  · simp only [h, true_or]

theorem round_congr {a : Expr × Expr} {m : Option (Expr × Expr)} (h : Agree d a.1 a.2)
    (hm : ∀ x ∈ m, Agree d x.1 x.2) (hl : (Form.round a m).Alike d) :
    (Form.round a.1 (m.map Prod.fst)).compiled d =
      (Form.round a.2 (m.map Prod.snd)).compiled d := by
  cases m with
  | none =>
    simp only [compiled_round, Option.map_none, Option.getD_none, h.type,
      rounded_congr h (.refl d _) Iff.rfl]
  | some m =>
    have hm := hm m rfl
    have ht : Expr.roundType a.2.type m.1 = Expr.roundType a.2.type m.2 :=
      roundType_congr (hl.imp id fun h' => h.type ▸ h'.2)
    have hd : dropsDigits d m.1 ↔ dropsDigits d m.2 := by
      unfold dropsDigits
      rcases hl with hl | hl
      · rw [hl]
      · simp [hl.1]
    simp only [compiled_round, Option.map_some, Option.getD_some, h.type, hm.type, ht,
      rounded_congr h hm hd]

theorem variadic_congr {op : Op} {as : List (Expr × Expr)} (hop : op.isVariadic)
    (ha : ∀ x ∈ as, Agree d x.1 x.2) :
    (Form.variadic op (as.map Prod.fst)).compiled d =
      (Form.variadic op (as.map Prod.snd)).compiled d := by
  have htypes : (as.map Prod.fst).map Expr.type = (as.map Prod.snd).map Expr.type := by
    rw [List.map_map, List.map_map]
    exact List.map_congr_left fun x hx => (ha x hx).type
  have htokens : (as.map Prod.fst).mapM (Expr.tokens d) =
      (as.map Prod.snd).mapM (Expr.tokens d) := by
    rw [List.mapM_map, List.mapM_map]
    exact mapM_congr fun x hx => (ha x hx).tokens
  have hempty : (as.map Prod.fst).isEmpty = (as.map Prod.snd).isEmpty := by simp
  simp only [compiled_variadic hop, htypes, htokens, hempty]

theorem stringAgg_congr {a : Expr × Expr} {s c : Option (Expr × Expr)} (h : Agree d a.1 a.2)
    (hs : ∀ x ∈ s, Agree d x.1 x.2) (hc : ∀ x ∈ c, Agree d x.1 x.2) :
    (Form.stringAgg a.1 (s.map Prod.fst) (c.map Prod.fst)).compiled d =
      (Form.stringAgg a.2 (s.map Prod.snd) (c.map Prod.snd)).compiled d := by
  have hseparator : Agree d ((s.map Prod.fst).getD (.ofLiteral Expr.comma))
      ((s.map Prod.snd).getD (.ofLiteral Expr.comma)) := by
    cases s with
    | none => exact .refl d _
    | some s => exact hs s rfl
  have hfamily : (∀ g ∈ c.map Prod.fst, g.family = .boolean) ↔
      ∀ g ∈ c.map Prod.snd, g.family = .boolean := by
    cases c with
    | none => simp
    | some x => simp [Expr.family, (hc x rfl).type]
  have htype : (c.map Prod.fst).map Expr.type = (c.map Prod.snd).map Expr.type := by
    cases c with
    | none => rfl
    | some x => simp [(hc x rfl).type]
  have htokens : Form.bindOption (Expr.tokens d) (c.map Prod.fst) =
      Form.bindOption (Expr.tokens d) (c.map Prod.snd) := by
    rw [Form.bindOption_map, Form.bindOption_map]
    exact Form.bindOption_congr fun x hx => (hc x hx).tokens
  simp only [compiled_stringAgg, hfamily, htype, htokens, h.family, hseparator.family, h.type,
    h.tokens, hseparator.type, hseparator.tokens]

/-- A form of arguments that agree and are alike has the same tokens, or fails the same way. -/
theorem compiled_congr {f : Form (Expr × Expr)} (hp : f.Proper)
    (ha : ∀ x ∈ f.operands, Agree d x.1 x.2) (hl : f.Alike d) :
    (f.map Prod.fst).compiled d = (f.map Prod.snd).compiled d := by
  cases f with
  | unary op a =>
    have h := ha a (by simp [Form.operands])
    simp only [Form.map, compiled_unary hp, h.type, h.tokens]
  | round a m =>
    have h := ha a (by simp [Form.operands])
    exact round_congr h (fun x hx => ha x (by simp_all [Form.operands])) hl
  | variadic op as => exact variadic_congr hp ha
  | stringAgg a s c =>
    have h := ha a (by simp [Form.operands])
    have hs : ∀ x ∈ s, Agree d x.1 x.2 := fun x hx => ha x (by simp_all [Form.operands])
    have hc : ∀ x ∈ c, Agree d x.1 x.2 := fun x hx => ha x (by simp_all [Form.operands])
    exact stringAgg_congr h hs hc
  | cast a t =>
    have h := ha a (by simp [Form.operands])
    simp only [Form.map, compiled_cast, h.type, h.tokens]
  | binary op l r =>
    have h := ha l (by simp [Form.operands])
    have h' := ha r (by simp [Form.operands])
    simp only [Form.map, compiled_binary hp, arithmetic_congr h h' hl, h.type, h'.type]
  | aliased a n =>
    have h := ha a (by simp [Form.operands])
    simp only [Form.map, compiled_aliased, h.tokens]

theorem build_type_congr {f : Form (Expr × Expr)} {e e' : Expr}
    (ha : ∀ x ∈ f.operands, Agree d x.1 x.2) (hl : f.Alike d)
    (h : (f.map Prod.fst).build = .ok e) (h' : (f.map Prod.snd).build = .ok e') :
    e.type = e'.type := by
  cases f with
  | unary op a =>
    obtain ⟨-, -, rfl⟩ := Expr.unary_eq_ok.mp h
    obtain ⟨-, -, rfl⟩ := Expr.unary_eq_ok.mp h'
    exact congrArg op.unaryType (ha a (by simp [Form.operands])).type
  | round a m =>
    obtain ⟨-, -, rfl⟩ := Expr.round_eq_ok.mp h
    obtain ⟨-, -, rfl⟩ := Expr.round_eq_ok.mp h'
    have ht := (ha a (by simp [Form.operands])).type
    cases m with
    | none => exact congrArg (Expr.roundType · (.ofLiteral Expr.zeroDigits)) ht
    | some m =>
      rw [ht]
      exact roundType_congr (hl.imp id fun hm => ht ▸ hm.2)
  | variadic op as =>
    obtain ⟨-, t, ht, rfl⟩ := Expr.variadic_eq_ok.mp h
    obtain ⟨-, u, hu, rfl⟩ := Expr.variadic_eq_ok.mp h'
    have hts : (as.map Prod.fst).map Expr.type = (as.map Prod.snd).map Expr.type := by
      rw [List.map_map, List.map_map]
      exact List.map_congr_left fun x hx => (ha x hx).type
    rw [hts, hu] at ht
    exact (Except.ok.inj ht).symm
  | stringAgg a s c =>
    obtain ⟨-, rfl⟩ := Expr.stringAgg_eq_ok.mp h
    obtain ⟨-, rfl⟩ := Expr.stringAgg_eq_ok.mp h'
    rfl
  | cast a t =>
    rw [Expr.type_of_cast h, Expr.type_of_cast h']
  | binary op l r =>
    obtain ⟨-, -, t, ht, rfl⟩ := Expr.binary_eq_ok.mp h
    obtain ⟨-, -, u, hu, rfl⟩ := Expr.binary_eq_ok.mp h'
    rw [(ha l (by simp [Form.operands])).type, (ha r (by simp [Form.operands])).type, hu] at ht
    rw [Option.some.inj ht]
  | aliased a n =>
    cases h
    cases h'
    exact (ha a (by simp [Form.operands])).type

/-- The form with `e` in the places left open. -/
def Form.fill (f : Form (Option Expr)) (e : Expr) : Form Expr := f.map (·.getD e)

/-- Whether a name of `e` in the open places shows: where arithmetic stands in arithmetic, and where
zero is the number of digits unless the dialect writes both roundings in the same way. -/
def Form.Shows (d : Dialect) (e : Expr) : Form (Option Expr) → Prop
  | binary _ l r => e.op.isArithmetic ∧ (l = none ∨ r = none)
  | round a (some none) => e.literal? = some Expr.zeroDigits ∧
      ¬(d.rules.roundNeedsDigits ∧ (a.getD e).type.isDecimal)
  | _ => False

/-- The two ways to fill the open places, side by side. -/
def Form.fillBoth (f : Form (Option Expr)) (e : Expr) (n : String) : Form (Expr × Expr) :=
  f.map fun o => (o.getD (e.aliased n), o.getD e)

theorem fillBoth_proper {f : Form (Option Expr)} (hp : f.Proper) (e : Expr) (n : String) :
    (f.fillBoth e n).Proper := by
  cases f <;> exact hp

theorem fillBoth_fst (f : Form (Option Expr)) (e : Expr) (n : String) :
    (f.fillBoth e n).map Prod.fst = f.fill (e.aliased n) := by
  cases f <;> simp [Form.fillBoth, Form.fill, Form.map, Function.comp_def]

theorem fillBoth_snd (f : Form (Option Expr)) (e : Expr) (n : String) :
    (f.fillBoth e n).map Prod.snd = f.fill e := by
  cases f <;> simp [Form.fillBoth, Form.fill, Form.map, Function.comp_def]

theorem agree_getD (d : Dialect) (o : Option Expr) (e : Expr) (n : String) :
    Agree d (o.getD (e.aliased n)) (o.getD e) := by
  cases o with
  | none => exact agree_aliased d e n
  | some a => exact .refl d a

theorem fillBoth_agree (f : Form (Option Expr)) (e : Expr) (n : String) :
    ∀ x ∈ (f.fillBoth e n).operands, Agree d x.1 x.2 := by
  intro x hx
  rw [Form.fillBoth, Form.operands_map, List.mem_map] at hx
  obtain ⟨o, -, rfl⟩ := hx
  exact agree_getD d o e n

theorem fillBoth_alike {f : Form (Option Expr)} {e : Expr} (n : String) (h : ¬f.Shows d e) :
    (f.fillBoth e n).Alike d := by
  have hside {o : Option Expr} (ho : o = none → e.op.isArithmetic = false) :
      (o.getD (e.aliased n)).op.isArithmetic = (o.getD e).op.isArithmetic := by
    cases o with
    | none => exact (ho rfl).symm
    | some a => rfl
  cases f with
  | binary op l r =>
    have he : l = none ∨ r = none → e.op.isArithmetic = false := fun ho => by
      simpa [Form.Shows, ho] using h
    exact ⟨hside fun ho => he (.inl ho), hside fun ho => he (.inr ho)⟩
  | round a m =>
    rcases m with _ | _ | m
    · trivial
    · by_cases hz : e.literal? = some Expr.zeroDigits
      · refine .inr ?_
        have hd : d.rules.roundNeedsDigits ∧ (a.getD e).type.isDecimal :=
          Classical.not_not.mp fun hn => h ⟨hz, hn⟩
        rw [← (agree_getD d a e n).type] at hd
        exact hd
      · exact .inl (iff_of_false (by simp [Expr.aliased, Expr.literal?]) hz)
    · exact .inl Iff.rfl
  | _ => trivial

/-- Failing in the same way, or succeeding with a different number of tokens. -/
def Differ (x y : Except Error Tokens) : Prop :=
  (∃ err, x = .error err ∧ y = .error err) ∨
    ∃ ts ss, x = .ok ts ∧ y = .ok ss ∧ ts.length ≠ ss.length

theorem Differ.eq_iff {x y : Except Error Tokens} (h : Differ x y) :
    x = y ↔ ¬∃ ts, y = .ok ts := by
  rcases h with ⟨err, rfl, rfl⟩ | ⟨ts, ss, rfl, rfl, h⟩
  · simp
  · simp only [Except.ok.injEq, exists_eq', not_true, iff_false]
    rintro rfl
    exact h rfl

theorem length_castTo (d : Dialect) (t : SqlType) (ts : Tokens) :
    (castTo d t ts).length = ts.length + 7 := by
  simp [castTo, Tokens.castAs, Tokens.parens]

theorem length_infixed (op : Symbol) (l r : Tokens) :
    (Tokens.infixed op l r).length = l.length + r.length + 3 := by
  simp [Tokens.infixed]
  omega

/-- An operand under a name stands without its parentheses. -/
theorem operand_getD (o : Option Expr) {e : Expr} (n : String) (he : e.op.isArithmetic) :
    (∃ err, operand ⟨o.getD (e.aliased n), (o.getD (e.aliased n)).tokens d⟩ = .error err ∧
      operand ⟨o.getD e, (o.getD e).tokens d⟩ = .error err) ∨
    ∃ ts ss, operand ⟨o.getD (e.aliased n), (o.getD (e.aliased n)).tokens d⟩ = .ok ts ∧
      operand ⟨o.getD e, (o.getD e).tokens d⟩ = .ok ss ∧
      ss.length = ts.length + if o = none then 2 else 0 := by
  have ht := (agree_getD d o e n).tokens
  cases o with
  | none =>
    simp only [Option.getD_none] at ht ⊢
    rw [ht]
    cases e.tokens d with
    | error err => exact .inl ⟨err, rfl, rfl⟩
    | ok ts =>
      refine .inr ⟨ts, .parens ts, rfl, by simp [operand, he], ?_⟩
      simp [Tokens.parens]
  | some a =>
    simp only [Option.getD_some]
    cases operand ⟨a, a.tokens d⟩ with
    | error err => exact .inl ⟨err, rfl, rfl⟩
    | ok ts => exact .inr ⟨ts, ts, rfl, rfl, rfl⟩

theorem arithmetic_differ {op : Op} {t : SqlType} {l r : Option Expr} {e : Expr} (n : String)
    (he : e.op.isArithmetic) (ho : l = none ∨ r = none) :
    Differ
      (arithmetic d op t ⟨l.getD (e.aliased n), (l.getD (e.aliased n)).tokens d⟩
        ⟨r.getD (e.aliased n), (r.getD (e.aliased n)).tokens d⟩)
      (arithmetic d op t ⟨l.getD e, (l.getD e).tokens d⟩ ⟨r.getD e, (r.getD e).tokens d⟩) := by
  have hn : needsDouble d op t (l.getD (e.aliased n)) (r.getD (e.aliased n)) =
      needsDouble d op t (l.getD e) (r.getD e) := by
    simp only [needsDouble, (agree_getD d l e n).type, (agree_getD d r e n).type]
  rw [arithmetic, arithmetic, hn]
  rcases operand_getD (d := d) l n he with ⟨err, hx, hx'⟩ | ⟨xs, xs', hx, hx', hxl⟩
  · rw [hx, hx']
    exact .inl ⟨err, rfl, rfl⟩
  · rcases operand_getD (d := d) r n he with ⟨err, hy, hy'⟩ | ⟨ys, ys', hy, hy', hyl⟩
    · rw [hx, hx', hy, hy']
      exact .inl ⟨err, rfl, rfl⟩
    · rw [hx, hx', hy, hy']
      refine .inr ⟨_, _, rfl, rfl, ?_⟩
      have hlt : xs.length + ys.length < xs'.length + ys'.length := by
        rcases ho with rfl | rfl
        · rw [hxl, hyl, if_pos rfl]
          omega
        · rw [hxl, hyl, if_pos rfl]
          omega
      rw [length_infixed, length_infixed]
      split
      · rw [length_castTo, length_castTo]
        omega
      · omega

theorem length_settle (d : Dialect) (t u : SqlType) (ts : Tokens) :
    (settle d t u ts).length = ts.length + if u.family = t.family then 0 else 7 := by
  unfold settle
  split
  · rfl
  · exact length_castTo d t ts

theorem length_round (vs : Tokens) : (Tokens.call "round" [vs]).length = vs.length + 3 := by
  simp [Tokens.call, Tokens.parens, Tokens.list]

theorem length_round_digits (vs ns : Tokens) :
    (Tokens.call "round" [vs, ns]).length = vs.length + ns.length + 5 := by
  simp [Tokens.call, Tokens.parens, Tokens.list, List.intercalate, List.intersperse]
  omega

theorem length_castAs (n : String) (ts : Tokens) :
    (Tokens.castAs n ts).length = ts.length + 7 := by
  simp [Tokens.castAs, Tokens.parens]

theorem rounded_of_ok {a m : Expr} {t : SqlType} {vs ns : Tokens} (hv : a.tokens d = .ok vs)
    (hm : m.tokens d = .ok ns) :
    rounded d t ⟨a, a.tokens d⟩ ⟨m, m.tokens d⟩ = .ok
      (if dropsDigits d m then settle d t a.type (.call "round" [vs])
      else if d.rules.digitsNeedDecimal ∧ !a.type.isDecimal then
        castTo d t (.call "round" [.castAs "NUMERIC" vs, ns])
      else settle d t a.type (.call "round" [vs, ns])) := by
  by_cases hd : dropsDigits d m
  · rw [rounded_drop hd, hv, if_pos hd]
    rfl
  · rw [rounded_keep hd, hm, hv, if_neg hd]
    rfl

/-- How many tokens a rounding adds to those of its value, with a number of digits of one token. -/
theorem length_rounded {a m : Expr} {t : SqlType} {x : Token} {vs : Tokens}
    (hv : a.tokens d = .ok vs) (hm : m.tokens d = .ok [x]) :
    ∃ ts, rounded d t ⟨a, a.tokens d⟩ ⟨m, m.tokens d⟩ = .ok ts ∧ ts.length = vs.length +
      if dropsDigits d m then 3 + if a.type.family = t.family then 0 else 7
      else if d.rules.digitsNeedDecimal ∧ !a.type.isDecimal then 20
      else 6 + if a.type.family = t.family then 0 else 7 := by
  refine ⟨_, rounded_of_ok hv hm, ?_⟩
  by_cases hd : dropsDigits d m
  · rw [if_pos hd, if_pos hd, length_settle, length_round, Nat.add_assoc]
  · rw [if_neg hd, if_neg hd]
    split
    · rw [length_castTo, length_round_digits, length_castAs]
      simp only [List.length_singleton]
    · rw [length_settle, length_round_digits, List.length_singleton]
      omega

/-- A dialect that writes every number of digits does not ask for a decimal. -/
theorem digitsNeedDecimal_of_roundNeedsDigits (d : Dialect) :
    d.rules.roundNeedsDigits → d.rules.digitsNeedDecimal = false := by
  cases d <;> decide

/-- Rounding to zero digits under a name is rounding to some number of digits. -/
theorem rounded_differ {a b e : Expr} {n : String} (hab : Agree d a b)
    (hz : e.literal? = some Expr.zeroDigits) (hn : b.type.isNumeric)
    (hd : ¬(d.rules.roundNeedsDigits ∧ b.type.isDecimal)) :
    Differ
      (rounded d (Expr.roundType a.type (e.aliased n)) ⟨a, a.tokens d⟩
        ⟨e.aliased n, (e.aliased n).tokens d⟩)
      (rounded d (Expr.roundType b.type e) ⟨b, b.tokens d⟩ ⟨e, e.tokens d⟩) := by
  have hnz : (e.aliased n).literal? ≠ some Expr.zeroDigits := by simp [Expr.aliased, Expr.literal?]
  have he : e.tokens d = .ok [.integer 0] := by
    obtain ⟨op, args, t, s⟩ := e
    cases op with
    | literal v =>
      rw [tokens_literal, Option.some.inj hz]
      rfl
    | _ => cases hz
  have he' : (e.aliased n).tokens d = .ok [.integer 0] := (agree_aliased d e n).tokens.trans he
  cases htoks : b.tokens d with
  | error err =>
    refine .inl ⟨err, ?_, ?_⟩
    · simp only [rounded, hnz, false_and, if_false, he', hab.tokens, htoks]
      rfl
    · simp only [rounded, he]
      split <;> rfl
  | ok vs =>
    obtain ⟨ts, hts, hl⟩ := length_rounded (t := Expr.roundType a.type (e.aliased n))
      (hab.tokens.trans htoks) he'
    obtain ⟨ss, hss, hl'⟩ := length_rounded (t := Expr.roundType b.type e) htoks he
    rw [htoks] at hss
    refine .inr ⟨ts, ss, hts, hss, ?_⟩
    rw [hl, hl', hab.type]
    have hrules := digitsNeedDecimal_of_roundNeedsDigits d
    have hdrop : ¬dropsDigits d (e.aliased n) := fun h => hnz h.1
    have hkeep : dropsDigits d e ↔ d.rules.roundNeedsDigits = false := by
      simp [dropsDigits, hz]
    simp only [hdrop, hkeep, if_false, Expr.roundType, Expr.wholeType, hz, hnz, or_false, or_true,
      if_true, ne_eq, Nat.add_left_cancel_iff]
    -- The casts to and from whole numbers depend on the family of the value.
    cases hk : b.type with
    | null | boolean | string => rw [hk] at hn; cases hn
    | integer w | floating w =>
      cases hr : d.rules.roundNeedsDigits with
      | false => cases d.rules.digitsNeedDecimal <;> simp [SqlType.isDecimal, SqlType.family]
      | true => simp [hrules hr, SqlType.isDecimal, SqlType.family]
    | decimal p q =>
      have hr : d.rules.roundNeedsDigits = false := by
        simpa [hk, SqlType.isDecimal, SqlType.family] using hd
      simp [hr, SqlType.isDecimal, SqlType.family]

/-- A name that shows changes the number of tokens, unless there are none. -/
theorem compiled_differ {f : Form (Option Expr)} {e : Expr} (n : String) (hp : f.Proper)
    (hs : f.Shows d e) :
    Differ ((f.fill (e.aliased n)).compiled d) ((f.fill e).compiled d) := by
  cases f with
  | binary op l r =>
    have hl := (agree_getD d l e n).type
    have hr := (agree_getD d r e n).type
    simp only [Form.fill, Form.map, compiled_binary hp, hl, hr]
    split
    · exact .inl ⟨_, rfl, rfl⟩
    · cases (l.getD e).type.join (r.getD e).type with
      | none => exact .inl ⟨_, rfl, rfl⟩
      | some t => exact arithmetic_differ n hs.1 hs.2
  | round a m =>
    rcases m with _ | _ | m
    · cases hs
    · have ha := agree_getD d a e n
      have hm : (e.aliased n).type = e.type := rfl
      simp only [Form.fill, Form.map, compiled_round, Option.map_some, Option.getD_some,
        Option.getD_none, hm]
      rw [ha.type]
      split
      · rename_i hn
        split
        · have h := rounded_differ (n := n) ha hs.1 hn hs.2
          rw [ha.type] at h
          exact h
        · exact .inl ⟨_, rfl, rfl⟩
      · exact .inl ⟨_, rfl, rfl⟩
    · cases hs
  | _ => cases hs

/-- Expressions that differ in names below and above their operations, none of which shows. -/
inductive Renamed (d : Dialect) : Expr → Expr → Prop
  | refl (e : Expr) : Renamed d e e
  | left {a b : Expr} (h : Renamed d a b) (n : String) : Renamed d (a.aliased n) b
  | right {a b : Expr} (h : Renamed d a b) (n : String) : Renamed d a (b.aliased n)
  | form {f : Form (Expr × Expr)} {a b : Expr} (hp : f.Proper)
      (hf : ∀ x ∈ f.operands, Renamed d x.1 x.2) (hl : f.Alike d)
      (ha : (f.map Prod.fst).build = .ok a) (hb : (f.map Prod.snd).build = .ok b) : Renamed d a b

theorem Renamed.agree {a b : Expr} (h : Renamed d a b) : Agree d a b := by
  induction h with
  | refl e => exact .refl d e
  | left h n ih => exact ⟨ih.type, (agree_aliased d _ n).tokens.trans ih.tokens⟩
  | right h n ih => exact ⟨ih.type, ih.tokens.trans (agree_aliased d _ n).tokens.symm⟩
  | form hp hf hl ha hb ih =>
    have hc := compiled_congr hp ih hl
    rw [Form.compiled, Form.compiled, ha, hb] at hc
    exact ⟨build_type_congr ih hl ha hb, hc⟩

/-- A name changes the tokens of what is built around it exactly if it shows and there are tokens.
Any number of names that do not show changes nothing. -/
theorem name_changes_tokens_iff (d : Dialect) {f : Form (Option Expr)} (hp : f.Proper) (e : Expr)
    (n : String) :
    ((f.fill (e.aliased n)).compiled d = (f.fill e).compiled d ↔
      ¬(f.Shows d e ∧ ∃ ts, (f.fill e).compiled d = .ok ts)) ∧
    ∀ a b : Expr, Renamed d a b → a.type = b.type ∧ a.tokens d = b.tokens d := by
  refine ⟨?_, fun a b h => ⟨h.agree.type, h.agree.tokens⟩⟩
  by_cases hs : f.Shows d e
  · simpa only [hs, true_and] using (compiled_differ n hp hs).eq_iff
  · have hc := compiled_congr (fillBoth_proper hp e n) (fillBoth_agree f e n) (fillBoth_alike n hs)
    rw [fillBoth_fst, fillBoth_snd] at hc
    simp only [hs, false_and, not_false_eq_true, iff_true]
    exact hc

/-- Twice the age in a year, with the age in a year left open. -/
def twice : Form (Option Expr) := .binary .multiply none (some (.ofLiteral (.integer 2)))

/-- Under a name the sum loses its parentheses, and the product takes its second term. -/
theorem name_of_sum_shows :
    (twice.fill (nextAge.aliased "next")).compiled .duckdb =
        .ok (.infixed .times (.infixed .plus [.ident "age"] [.integer 1]) [.integer 2]) ∧
      ¬∀ (d : Dialect) (f : Form (Option Expr)) (e : Expr) (n : String), f.Proper →
        (f.fill (e.aliased n)).compiled d = (f.fill e).compiled d := by
  refine ⟨rfl, fun h => ?_⟩
  have hplain : (twice.fill nextAge).compiled .duckdb = .ok (.infixed .times
      (.parens (.infixed .plus [.ident "age"] [.integer 1])) [.integer 2]) := rfl
  have hnamed := h .duckdb twice nextAge "next" rfl
  rw [hplain] at hnamed
  cases hnamed

theorem name_of_sum_changes_tokens :
    (twice.fill (nextAge.aliased "next")).compiled .duckdb ≠ (twice.fill nextAge).compiled .duckdb ∧
      ((nextAge.aliased "next").aliased "later").tokens .duckdb = nextAge.tokens .duckdb := by
  have hshows : twice.Shows .duckdb nextAge ∧
      ∃ ts, (twice.fill nextAge).compiled .duckdb = .ok ts :=
    ⟨⟨rfl, .inl rfl⟩, _, rfl⟩
  have hproper : twice.Proper := rfl
  obtain ⟨hiff, hrenamed⟩ := name_changes_tokens_iff .duckdb hproper nextAge "next"
  refine ⟨fun h => hiff.mp h hshows, ?_⟩
  exact (hrenamed _ _ (.left (.left (.refl nextAge) _) _)).2

end TypedSql
