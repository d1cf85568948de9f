import TypedSql.Proofs.Promotion
import TypedSql.Proofs.Regular
import TypedSql.Proofs.Trees

namespace TypedSql

/-- What is left of an expression without types and shapes. -/
inductive Skeleton
  | node (op : Op) (args : List (Option Skeleton))

def Expr.skeleton : Expr → Skeleton :=
  Expr.fold fun op _ args => .node op (args.map (Option.map Prod.snd))

theorem Expr.skeleton_mk (op : Op) (args : List (Option Expr)) (t : SqlType) (s : Shape) :
    Expr.skeleton ⟨op, args, t, s⟩ = .node op (args.map (Option.map Expr.skeleton)) := by
  rw [skeleton, fold, foldArgs_eq, List.map_map]
  refine congrArg (Skeleton.node op) (List.map_congr_left fun a _ => ?_)
  cases a <;> rfl

attribute [ext] Expr

/-- Operations whose own form keeps the type of the argument. -/
def Op.keepsType : Op → Bool
  | abs | sign | aliased _ => true
  | _ => false

namespace Form

open TypedSql.Expr

/-- Forms that hold the same operation and arguments and give them different types. -/
inductive Clash : Form Expr → Form Expr → Prop
  | whole {op : Op} {a : Expr} (hop : op = .ceil ∨ op = .floor) (ha : a.type.isNumeric)
      (ht : wholeType a.type ≠ a.type) : Clash (unary op a) (variadic op [a])
  | round {a n : Expr} {d : Option Expr} {g : Form Expr}
      (hn : n = d.getD (.ofLiteral zeroDigits))
      (hg : g = variadic .round [a, n] ∨ g = binary .round a n)
      (ha : a.type.isNumeric) (hi : n.type.isInteger)
      (ht : a.type.join n.type ≠ some (roundType a.type n)) : Clash (round a d) g
  | cast {a : Expr} {t : SqlType} (hv : t.Valid) (hn : t ≠ .null) (ht : a.type ≠ t) :
      Clash (cast a t) (variadic (.cast t) [a])
  | divide {l r : Expr} {t : SqlType} (hl : isOperand l.type) (hr : isOperand r.type)
      (hj : l.type.join r.type = some t) (ht : arithmeticType .divide t ≠ t) :
      Clash (binary .divide l r) (variadic .divide [l, r])

/-- Nodes whose type is the one that their arguments have in common. -/
inductive Pools : Form Expr → Expr → Prop
  | unary {op : Op} (hop : op = .abs ∨ op = .sign) (a : Expr) :
      Pools (unary op a) ⟨op, [some a], a.type, a.shape⟩
  | variadic (op : Op) {as : List Expr} {t : SqlType} (hne : as ≠ [])
      (ht : SqlType.joinFrom .null (as.map Expr.type) = some t) :
      Pools (variadic op as) ⟨op, as.map some, t, .broadcast (as.map Expr.shape)⟩
  | binary {op : Op} (hop : op ≠ .divide) {l r : Expr} {t : SqlType}
      (ht : l.type.join r.type = some t) :
      Pools (binary op l r) ⟨op, [some l, some r], t, .broadcast [l.shape, r.shape]⟩
  | aliased (a : Expr) (n : String) : Pools (aliased a n) ⟨.aliased n, [some a], a.type, a.shape⟩

/-- Nodes whose type the operation has a say in. -/
inductive Decides : Form Expr → Expr → Prop
  | ceil {a : Expr} (ha : a.type.isNumeric) :
      Decides (unary .ceil a) ⟨.ceil, [some a], wholeType a.type, a.shape⟩
  | floor {a : Expr} (ha : a.type.isNumeric) :
      Decides (unary .floor a) ⟨.floor, [some a], wholeType a.type, a.shape⟩
  | round {a n : Expr} {d : Option Expr} (hn : n = d.getD (.ofLiteral zeroDigits))
      (ha : a.type.isNumeric) (hi : n.type.isInteger) :
      Decides (round a d)
        ⟨.round, [some a, some n], roundType a.type n, .broadcast [a.shape, n.shape]⟩
  | stringAgg {a p : Expr} {s f : Option Expr} (hp : p = s.getD (.ofLiteral comma))
      (ha : a.family = .string) (hs : p.family = .string) (hf : ∀ g ∈ f, g.family = .boolean) :
      Decides (stringAgg a s f) ⟨.stringAgg, [some a, some p, f], .string, .scalar⟩
  | cast {a : Expr} {t : SqlType} (hv : t.Valid) (hn : t ≠ .null) (ht : a.type ≠ t) :
      Decides (cast a t) ⟨.cast t, [some a], t, a.shape⟩
  | divide {l r : Expr} {t : SqlType} (hl : isOperand l.type) (hr : isOperand r.type)
      (hj : l.type.join r.type = some t) :
      Decides (binary .divide l r)
        ⟨.divide, [some l, some r], arithmeticType .divide t, .broadcast [l.shape, r.shape]⟩

variable {f g : Form Expr} {a b e : Expr}

theorem joinFrom_single (t : SqlType) : SqlType.joinFrom .null [t] = some t := rfl

theorem joinFrom_pair (t u : SqlType) : SqlType.joinFrom .null [t, u] = t.join u :=
  Option.bind_fun_some (t.join u)

theorem broadcast_single (s : Shape) : Shape.broadcast [s] = s := by
  cases s <;> rfl

/-- Every form gives a node of one of the two kinds, except that a cast to the type of its argument
gives the argument. -/
theorem build_kinds (h : f.build = .ok e) :
    f.Pools e ∨ f.Decides e ∨ f = .cast e e.type := by
  cases f with
  | unary op a =>
    obtain ⟨ha, hop, rfl⟩ := unary_eq_ok.mp h
    cases op with
    | abs => exact .inl (.unary (.inl rfl) a)
    | sign => exact .inl (.unary (.inr rfl) a)
    | ceil => exact .inr (.inl (.ceil ha))
    | floor => exact .inr (.inl (.floor ha))
    | _ => cases hop
  | round a d =>
    obtain ⟨ha, hi, rfl⟩ := round_eq_ok.mp h
    exact .inr (.inl (.round rfl ha hi))
  | variadic op as =>
    obtain ⟨hne, t, ht, rfl⟩ := variadic_eq_ok.mp h
    exact .inl (.variadic op hne (SqlType.joinAll_eq_ok.mp ht))
  | stringAgg a s f =>
    obtain ⟨⟨ha, hs, hf⟩, rfl⟩ := stringAgg_eq_ok.mp h
    exact .inr (.inl (.stringAgg rfl ha hs hf))
  | cast a t =>
    obtain ⟨hv, hn, rfl⟩ := cast_eq_ok.mp h
    by_cases ht : a.type = t
    · rw [if_pos ht, ht]
      exact .inr (.inr rfl)
    · rw [if_neg ht]
      exact .inr (.inl (.cast hv hn ht))
  | binary op l r =>
    obtain ⟨hl, hr, t, ht, rfl⟩ := binary_eq_ok.mp h
    by_cases hop : op = .divide
    · subst hop
      exact .inr (.inl (.divide hl hr ht))
    · have htype : arithmeticType op t = t := if_neg fun hd => hop hd.1
      rw [htype]
      exact .inl (.binary hop ht)
  | aliased a n =>
    cases h
    exact .inl (.aliased a n)

/-- The type and the shape of arguments that have a type in common. -/
theorem Pools.pooled (h : f.Pools e) :
    ∃ as : List Expr, e.args = as.map some ∧
      SqlType.joinFrom .null (as.map Expr.type) = some e.type ∧
      e.shape = .broadcast (as.map Expr.shape) := by
  cases h with
  | unary hop a | aliased a n =>
    exact ⟨[a], rfl, joinFrom_single a.type, (broadcast_single a.shape).symm⟩
  | variadic op hne ht => exact ⟨_, rfl, ht, rfl⟩
  | @binary op hop l r t ht => exact ⟨[l, r], rfl, (joinFrom_pair l.type r.type).trans ht, rfl⟩

theorem map_some_injective {as bs : List Expr} (h : as.map some = bs.map some) : as = bs :=
  List.map_injective_iff.mpr (fun _ _ => Option.some.inj) h

theorem Pools.unique (ha : f.Pools a) (hb : g.Pools b) (hop : a.op = b.op)
    (hargs : a.args = b.args) : a = b := by
  obtain ⟨as, has, hta, hsa⟩ := ha.pooled
  obtain ⟨bs, hbs, htb, hsb⟩ := hb.pooled
  have heq : as = bs := map_some_injective (has.symm.trans (hargs.trans hbs))
  rw [← heq] at htb hsb
  exact Expr.ext hop hargs (Option.some.inj (hta.symm.trans htb)) (hsa.trans hsb.symm)

theorem Decides.unique (ha : f.Decides a) (hb : g.Decides b) (hop : a.op = b.op)
    (hargs : a.args = b.args) : a = b := by
  cases ha with
  | ceil ha =>
    cases hb with
    | ceil hb =>
      cases hargs
      rfl
    | _ => cases hop
  | floor ha =>
    cases hb with
    | floor hb =>
      cases hargs
      rfl
    | _ => cases hop
  | round hn ha hi =>
    cases hb with
    | round hn' hb hi' =>
      cases hargs
      rfl
    | _ => cases hop
  | stringAgg hp ha hs hf =>
    cases hb with
    | stringAgg hp' hb hs' hf' =>
      cases hargs
      rfl
    | _ => cases hop
  | cast hv hn ht =>
    cases hb with
    | cast hv' hn' ht' =>
      cases hop
      cases hargs
      rfl
    | _ => cases hop
  | divide hl hr hj =>
    cases hb with
    | divide hl' hr' hj' =>
      cases hargs
      rw [hj] at hj'
      cases hj'
      rfl
    | _ => cases hop

/-- A node with one argument is pooled in its own form or as a list of one. -/
theorem Pools.of_one (hb : g.Pools b) (hop : b.op.keepsType = false) {x : Expr}
    (hargs : [some x] = b.args) :
    g = Form.variadic b.op [x] ∧ b.type = x.type ∧ b.shape = x.shape := by
  cases hb with
  | unary ho c => rcases ho with rfl | rfl <;> cases hop
  | aliased c n => cases hop
  | @variadic op as t hne ht =>
    have has : [x] = as := map_some_injective hargs
    subst has
    cases ht
    exact ⟨rfl, rfl, broadcast_single x.shape⟩
  | binary hne ht => cases hargs

theorem Pools.of_two (hb : g.Pools b) {x y : Expr} (hargs : [some x, some y] = b.args) :
    (g = Form.variadic b.op [x, y] ∨ (g = Form.binary b.op x y ∧ b.op ≠ .divide)) ∧
      x.type.join y.type = some b.type ∧ b.shape = .broadcast [x.shape, y.shape] := by
  cases hb with
  | unary ho c | aliased c n => cases hargs
  | @variadic op as t hne ht =>
    have has : [x, y] = as := map_some_injective hargs
    subst has
    exact ⟨.inl rfl, (joinFrom_pair x.type y.type).symm.trans ht, rfl⟩
  | binary hne ht =>
    cases hargs
    exact ⟨.inr ⟨rfl, hne⟩, ht, rfl⟩

theorem type_of_string (h : e.family = .string) : e.type = .string := by
  cases ht : e.type with
  | string => rfl
  | _ => simp [Expr.family, ht, SqlType.family] at h

theorem type_of_boolean (h : e.family = .boolean) : e.type = .boolean := by
  cases ht : e.type with
  | boolean => rfl
  | _ => simp [Expr.family, ht, SqlType.family] at h

/-- Two strings and a condition have no type in common. -/
theorem Pools.ne_stringAgg (hb : g.Pools b) {x y : Expr} {z : Option Expr} (hx : x.family = .string)
    (hy : y.family = .string) (hz : ∀ w ∈ z, w.family = .boolean) :
    [some x, some y, z] ≠ b.args := by
  intro hargs
  obtain ⟨as, has, ht, -⟩ := hb.pooled
  rw [has] at hargs
  cases z with
  | none =>
    have hnone : none ∈ as.map some := hargs ▸ by simp
    simp at hnone
  | some w =>
    have hlist : [x, y, w] = as := map_some_injective hargs
    subst hlist
    have hw : w.type = .boolean := type_of_boolean (hz w rfl)
    simp only [List.map_cons, type_of_string hx, type_of_string hy, hw] at ht
    cases ht

/-- Of one operation and the same arguments, two kinds of nodes are equal or come from forms that
clash. -/
theorem clash_of_kinds (ha : f.Decides a) (hb : g.Pools b) (hop : a.op = b.op)
    (hargs : a.args = b.args) : a = b ∨ f.Clash g := by
  cases ha with
  | @ceil x hx =>
    obtain ⟨rfl, ht, hs⟩ := hb.of_one (hop ▸ rfl) hargs
    by_cases hw : wholeType x.type = x.type
    · exact .inl (Expr.ext hop hargs (hw.trans ht.symm) hs.symm)
    · exact .inr (hop ▸ .whole (.inl rfl) hx hw)
  | @floor x hx =>
    obtain ⟨rfl, ht, hs⟩ := hb.of_one (hop ▸ rfl) hargs
    by_cases hw : wholeType x.type = x.type
    · exact .inl (Expr.ext hop hargs (hw.trans ht.symm) hs.symm)
    · exact .inr (hop ▸ .whole (.inr rfl) hx hw)
  | @round x n d hn hx hi =>
    obtain ⟨hg, ht, hs⟩ := hb.of_two hargs
    rw [← hop] at hg
    by_cases hr : x.type.join n.type = some (roundType x.type n)
    · have htype : roundType x.type n = b.type := Option.some.inj (hr.symm.trans ht)
      exact .inl (Expr.ext hop hargs htype hs.symm)
    · exact .inr (.round hn (hg.imp id fun h => h.1) hx hi hr)
  | stringAgg hp ha hs hf => exact absurd hargs (hb.ne_stringAgg ha hs hf)
  | @cast x t hv hn ht =>
    obtain ⟨rfl, -, -⟩ := hb.of_one (hop ▸ rfl) hargs
    exact .inr (hop ▸ .cast hv hn ht)
  | @divide l r t hl hr hj =>
    obtain ⟨hg, ht, hs⟩ := hb.of_two hargs
    rw [← hop] at hg
    rcases hg with rfl | ⟨-, hne⟩
    · rw [hj] at ht
      by_cases hd : arithmeticType .divide t = t
      · exact .inl (Expr.ext hop hargs (hd.trans (Option.some.inj ht)) hs.symm)
      · exact .inr (.divide hl hr hj hd)
    · exact absurd rfl hne

theorem build_variadic (op : Op) {as : List Expr} {t : SqlType} (hne : as ≠ [])
    (h : SqlType.joinFrom .null (as.map Expr.type) = some t) :
    (variadic op as).build = .ok ⟨op, as.map some, t, .broadcast (as.map Expr.shape)⟩ :=
  variadic_eq_ok.mpr ⟨hne, t, SqlType.joinAll_eq_ok.mpr h, rfl⟩

theorem build_pair (op : Op) {l r : Expr} {t : SqlType} (h : l.type.join r.type = some t) :
    (variadic op [l, r]).build = .ok ⟨op, [some l, some r], t, .broadcast [l.shape, r.shape]⟩ :=
  build_variadic op (by simp) ((joinFrom_pair l.type r.type).trans h)

theorem isOperand_of_numeric {t : SqlType} (h : t.isNumeric) : isOperand t := by
  simp [isOperand, h]

/-- What clashing forms give differs in the type. -/
theorem Clash.differ (h : f.Clash g) :
    ∃ a b, f.build = .ok a ∧ g.build = .ok b ∧ a.op = b.op ∧ a.args = b.args ∧ a.type ≠ b.type := by
  cases h with
  | @whole op a hop ha ht =>
    have hunary : op.isUnary ∧ op.unaryType a.type = wholeType a.type := by
      rcases hop with rfl | rfl <;> exact ⟨rfl, rfl⟩
    refine ⟨_, _, unary_eq_ok.mpr ⟨ha, hunary.1, rfl⟩,
      build_variadic op (List.cons_ne_nil a []) (joinFrom_single a.type), rfl, rfl, ?_⟩
    exact hunary.2 ▸ ht
  | @round a n d g hn hg ha hi ht =>
    have hnumeric : n.type.isNumeric := by simp [SqlType.isNumeric, hi]
    obtain ⟨u, hu⟩ := SqlType.join_numbers ha hnumeric
    have hround := round_eq_ok.mpr ⟨ha, hn ▸ hi, rfl⟩
    rw [← hn] at hround
    have htype : roundType a.type n ≠ u := fun he => ht (hu.trans (congrArg some he.symm))
    rcases hg with rfl | rfl
    · exact ⟨_, _, hround, build_pair .round hu, rfl, rfl, htype⟩
    · have hbinary : Expr.binary .round a n =
          .ok ⟨.round, [some a, some n], u, .broadcast [a.shape, n.shape]⟩ :=
        binary_eq_ok.mpr ⟨isOperand_of_numeric ha, isOperand_of_numeric hnumeric, u, hu, rfl⟩
      exact ⟨_, _, hround, hbinary, rfl, rfl, htype⟩
  | @cast a t hv hn ht =>
    have hcast : Expr.cast a t = .ok ⟨.cast t, [some a], t, a.shape⟩ :=
      cast_eq_ok.mpr ⟨hv, hn, if_neg ht⟩
    exact ⟨_, _, hcast, build_variadic (.cast t) (List.cons_ne_nil a []) (joinFrom_single a.type),
      rfl, rfl, ht.symm⟩
  | @divide l r t hl hr hj ht =>
    exact ⟨_, _, binary_eq_ok.mpr ⟨hl, hr, t, hj, rfl⟩, build_pair .divide hj, rfl, rfl, ht⟩

/-- No form that holds an operation of its own clashes with another such form. -/
theorem Proper.not_clash (hf : f.Proper) (hg : g.Proper) : ¬f.Clash g := by
  intro h
  cases h with
  | whole hop ha ht => rcases hop with rfl | rfl <;> cases hg
  | round hn hround ha hi ht => rcases hround with rfl | rfl <;> cases hg
  | cast hv hn ht | divide hl hr hj ht => cases hg

/-- The form and its arguments can be had where `P` says which forms are allowed. -/
def GivenBy (P : Form Expr → Prop) (f : Form Expr) : Prop :=
  P f ∧ ∀ a ∈ f.operands, MadeBy P a

theorem mem_operands_or_literal {d : Option Expr} {v : Literal} {l : List Expr}
    (hd : ∀ x ∈ d, x ∈ l) :
    d.getD (.ofLiteral v) ∈ l ∨ ∃ w, d.getD (.ofLiteral v) = .ofLiteral w := by
  cases d with
  | none => exact .inr ⟨v, rfl⟩
  | some x => exact .inl (hd x rfl)

theorem Pools.args (h : f.Pools e) :
    e.args ≠ [] ∧ ∀ x, some x ∈ e.args → x ∈ f.operands := by
  cases h with
  | unary hop a | aliased a n | binary hop ht => simp [operands]
  | variadic op hne ht => simpa [operands] using hne

/-- What stands in the places of a node are operands of its form or constants that the form puts
there. -/
theorem Decides.args (h : f.Decides e) :
    e.args ≠ [] ∧ ∀ x, some x ∈ e.args → x ∈ f.operands ∨ ∃ v, x = .ofLiteral v := by
  cases h with
  | ceil ha | floor ha | cast hv hn ht | divide hl hr hj => simp [operands]
  | @round a n d hn ha hi =>
    refine ⟨List.cons_ne_nil _ _, fun x hx => ?_⟩
    simp only [List.mem_cons, Option.some.injEq, List.not_mem_nil, or_false] at hx
    rcases hx with rfl | rfl
    · exact .inl (by simp [operands])
    · rw [hn]
      exact mem_operands_or_literal fun y hy => by simp [operands, Option.mem_def.mp hy]
  | @stringAgg a p s f hp ha hs hf =>
    refine ⟨List.cons_ne_nil _ _, fun x hx => ?_⟩
    simp only [List.mem_cons, Option.some.injEq, List.not_mem_nil, or_false] at hx
    rcases hx with rfl | rfl | hx
    · exact .inl (by simp [operands])
    · rw [hp]
      exact mem_operands_or_literal fun y hy => by simp [operands, Option.mem_def.mp hy]
    · exact .inl (by simp [operands, ← hx])

theorem args_of_kinds (h : f.Pools e ∨ f.Decides e) :
    e.args ≠ [] ∧ ∀ x, some x ∈ e.args → x ∈ f.operands ∨ ∃ v, x = .ofLiteral v := by
  rcases h with h | h
  · exact ⟨h.args.1, fun x hx => .inl (h.args.2 x hx)⟩
  · exact h.args

end Form

namespace Expr

variable {P : Form Expr → Prop} {a b e : Expr}

/-- Columns and constants. -/
inductive Leaf : Expr → Prop
  | literal (v : Literal) : Leaf (.ofLiteral v)
  | column {t : Table} {c : Column} (h : t.find? c.name = some c) : Leaf (.ofColumn t c)

theorem leaf_of_column {t : Table} {n : String} (h : t.column n = .ok e) : e.Leaf := by
  obtain ⟨c, hc, hn, rfl⟩ := column_eq_ok.mp h
  exact .column (hn ▸ hc)

theorem Leaf.unique (ha : a.Leaf) (hb : b.Leaf) (hop : a.op = b.op) : a = b := by
  cases ha with
  | literal v =>
    cases hb with
    | literal w =>
      cases hop
      rfl
    | column h => cases hop
  | @column t c h =>
    cases hb with
    | literal w => cases hop
    | @column t' c' h' =>
      obtain ⟨rfl, hn⟩ := Op.column.inj hop
      rw [← hn, h] at h'
      cases h'
      rfl

theorem Leaf.args_nil (h : e.Leaf) : e.args = [] := by
  cases h <;> rfl

/-- A cast to the type of its argument apart, an expression comes out of a form as a new node. -/
theorem MadeBy.origin (h : MadeBy P e) :
    e.Leaf ∨ ∃ f, Form.GivenBy P f ∧ (f.Pools e ∨ f.Decides e) := by
  -- A cast that gives its argument is as old as the argument.
  induction h with
  | literal v => exact .inl (.literal v)
  | column h => exact .inl (leaf_of_column h)
  | @form f e hp ha h ih =>
    rcases Form.build_kinds h with hk | hk | rfl
    · exact .inr ⟨f, ⟨hp, ha⟩, .inl hk⟩
    · exact .inr ⟨f, ⟨hp, ha⟩, .inr hk⟩
    · exact ih e (by simp [Form.operands])

theorem MadeBy.arg (h : MadeBy P e) {x : Expr} (hx : some x ∈ e.args) : MadeBy P x := by
  rcases h.origin with hl | ⟨f, ⟨-, hargs⟩, hk⟩
  · rw [hl.args_nil] at hx
    cases hx
  · rcases (Form.args_of_kinds hk).2 x hx with hm | ⟨v, rfl⟩
    · exact hargs x hm
    · exact .literal v

theorem MadeBy.of_mem_nodes (h : MadeBy P e) {n : Expr} (hn : n ∈ e.nodes) : MadeBy P n := by
  induction e using induction_on_args with
  | node op args t s ih =>
    rcases mem_nodes.mp hn with rfl | ⟨a, ha, hn⟩
    · exact h
    · exact ih a ha (h.arg ha) hn

/-- Two nodes of one operation and the same arguments are equal unless some forms clash. -/
theorem MadeBy.node_unique (ha : MadeBy P a) (hb : MadeBy P b)
    (hclash : ∀ f g, Form.GivenBy P f → Form.GivenBy P g → ¬f.Clash g) (hop : a.op = b.op)
    (hargs : a.args = b.args) : a = b := by
  rcases ha.origin with hla | ⟨f, hf, hka⟩
  · rcases hb.origin with hlb | ⟨g, hg, hkb⟩
    · exact hla.unique hlb hop
    · exact absurd (hargs.symm.trans hla.args_nil) (Form.args_of_kinds hkb).1
  · rcases hb.origin with hlb | ⟨g, hg, hkb⟩
    · exact absurd (hargs.trans hlb.args_nil) (Form.args_of_kinds hka).1
    · rcases hka with hpa | hda <;> rcases hkb with hpb | hdb
      · exact hpa.unique hpb hop hargs
      · rcases Form.clash_of_kinds hdb hpa hop.symm hargs.symm with h | h
        · exact h.symm
        · exact absurd h (hclash g f hg hf)
      · rcases Form.clash_of_kinds hda hpb hop hargs with h | h
        · exact h
        · exact absurd h (hclash f g hf hg)
      · exact hda.unique hdb hop hargs

theorem args_eq_of_skeletons {as bs : List (Option Expr)}
    (h : as.map (Option.map skeleton) = bs.map (Option.map skeleton))
    (hinj : ∀ x, some x ∈ as → ∀ y, some y ∈ bs → x.skeleton = y.skeleton → x = y) : as = bs := by
  induction as generalizing bs with
  | nil => exact (List.map_eq_nil_iff.mp h.symm).symm
  | cons a as ih =>
    cases bs with
    | nil => cases h
    | cons b bs =>
      obtain ⟨hab, hrest⟩ := List.cons.inj h
      have htail : as = bs := ih hrest fun x hx y hy =>
        hinj x (List.mem_cons_of_mem _ hx) y (List.mem_cons_of_mem _ hy)
      rw [htail]
      cases a with
      | none =>
        cases b with
        | none => rfl
        | some y => cases hab
      | some x =>
        cases b with
        | none => cases hab
        | some y =>
          rw [hinj x List.mem_cons_self y List.mem_cons_self (Option.some.inj hab)]

/-- Without clashes, the skeleton determines the expression. -/
theorem MadeBy.eq_of_skeleton (ha : MadeBy P a) (hb : MadeBy P b)
    (hclash : ∀ f g, Form.GivenBy P f → Form.GivenBy P g → ¬f.Clash g)
    (h : a.skeleton = b.skeleton) : a = b := by
  induction a using induction_on_args generalizing b with
  | node op args t s ih =>
    obtain ⟨op', args', t', s'⟩ := b
    rw [skeleton_mk, skeleton_mk] at h
    obtain ⟨hop, hskeletons⟩ := Skeleton.node.inj h
    -- The arguments are equal before the nodes are compared.
    have hargs : args = args' := args_eq_of_skeletons hskeletons fun x hx y hy =>
      ih x hx (ha.arg hx) (hb.arg hy)
    exact ha.node_unique hb hclash hop hargs

theorem skeleton_congr (hop : a.op = b.op) (hargs : a.args = b.args) :
    a.skeleton = b.skeleton := by
  obtain ⟨op, args, t, s⟩ := a
  obtain ⟨op', args', t', s'⟩ := b
  cases hop
  cases hargs
  rw [skeleton_mk, skeleton_mk]

/-- Equality is a matter of operations and arguments exactly where no two forms clash, and so it is
as long as each form holds operations of its own. -/
theorem equal_iff_no_clash (P : Form Expr → Prop) :
    ((∀ a b, MadeBy P a → MadeBy P b → a.skeleton = b.skeleton → a = b) ↔
      ∀ f g, Form.GivenBy P f → Form.GivenBy P g → ¬f.Clash g) ∧
    ∀ a b : Expr, a.Built → b.Built → a.skeleton = b.skeleton → a = b := by
  refine ⟨⟨fun heq f g hf hg hc => ?_, fun hclash a b ha hb => ha.eq_of_skeleton hb hclash⟩, ?_⟩
  · obtain ⟨a, b, ha, hb, hop, hargs, htype⟩ := hc.differ
    have hab : a = b := heq a b (.form hf.1 hf.2 ha) (.form hg.1 hg.2 hb)
      (skeleton_congr hop hargs)
    exact htype (congrArg Expr.type hab)
  · intro a b ha hb
    exact ha.eq_of_skeleton hb fun f g hf hg => hf.1.not_clash hg.1

end Expr

/-- The age in a year, written before the table is known. -/
def nextAgeTemplate : Template :=
  .call (.binary .add (.template (.col "age")) (.literal (.integer 1)))

theorem nextAge_resolves_equal :
    ∃ e, nextAgeTemplate.resolve people = .ok e ∧ e.Built ∧
      e.skeleton = nextAge.skeleton ∧ e = nextAge := by
  have hproper : (Operand.template nextAgeTemplate).Proper := by
    refine .call (f := .binary .add (.template (.col "age")) (.literal (.integer 1))) rfl ?_
    intro a ha
    simp only [Form.operands, List.mem_cons, List.not_mem_nil, or_false] at ha
    rcases ha with rfl | rfl
    · exact .attr .row "age"
    · exact .literal (.integer 1)
  obtain ⟨e, he⟩ : ∃ e, nextAgeTemplate.resolve people = .ok e := ⟨_, rfl⟩
  have hbuilt : e.Built := hproper.resolve he
  have hskeleton : e.skeleton = nextAge.skeleton := by
    cases he
    rfl
  exact ⟨e, he, hbuilt, hskeleton,
    (Expr.equal_iff_no_clash Form.Proper).2 e nextAge hbuilt nextAge_built hskeleton⟩

def goods : Table where
  name := "goods"
  columns := [⟨"price", .floating .double⟩]
  distinct := by decide

def price : Expr := .ofColumn goods ⟨"price", .floating .double⟩

/-- A price rounded up by the method is a 64-bit integer. Rounded up by a recorded call in the form
of a list it stays a double, and the two are not equal. -/
theorem ceilings_differ :
    ∃ a b, (Template.call (.variadic .ceil [.template (.col "price")])).resolve goods = .ok a ∧
      price.call .ceil = .ok b ∧ a.skeleton = b.skeleton ∧ a ≠ b := by
  refine ⟨_, _, rfl, rfl, rfl, fun h => ?_⟩
  cases congrArg Expr.type h

end TypedSql
