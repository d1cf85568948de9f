import TypedSql.Proofs.Structural

namespace TypedSql

theorem scalar_ne_column : Shape.scalar ≠ Shape.column := nofun

theorem broadcast_eq_column {shapes : List Shape} :
    Shape.broadcast shapes = .column ↔ Shape.column ∈ shapes := by
  simp [Shape.broadcast]

namespace Op

/-- Operations whose value in a row is made of those of their arguments in that row. -/
def isRowwise : Op → Bool
  | column _ _ | stringAgg => false
  | _ => true

variable {op : Op}

theorem isRowwise_of_unary (h : op.isUnary) : op.isRowwise := by
  cases op with
  | column | stringAgg => cases h
  | _ => rfl

theorem isRowwise_of_variadic (h : op.isVariadic) : op.isRowwise := by
  cases op with
  | column | stringAgg => cases h
  | _ => rfl

theorem isRowwise_of_arithmetic (h : op.isArithmetic) : op.isRowwise := by
  cases op with
  | column | stringAgg => cases h
  | _ => rfl

end Op

namespace Expr

/-- A way leads from the root down to a column, and no aggregate stands on it. -/
inductive Varies : Expr → Prop
  | column {e : Expr} {b : Table} {n : String} (h : e.op = .column b n) : Varies e
  | arg {e a : Expr} (hop : e.op ≠ .stringAgg) (ha : some a ∈ e.args) (h : Varies a) : Varies e

variable {op : Op} {args : List (Option Expr)} {t : SqlType} {s : Shape} {e : Expr}

theorem varies_rowwise (hop : op.isRowwise) :
    Varies ⟨op, args, t, s⟩ ↔ ∃ a, some a ∈ args ∧ a.Varies := by
  constructor
  · intro h
    cases h with
    | column h =>
      cases h
      cases hop
    | arg _ ha h => exact ⟨_, ha, h⟩
  · rintro ⟨a, ha, h⟩
    refine .arg ?_ ha h
    rintro rfl
    cases hop

theorem not_varies_literal (v : Literal) : ¬(ofLiteral v).Varies := by
  intro h
  cases h with
  | column h => cases h
  | arg _ ha _ => cases ha

/-- An aggregate stands in the way of every column below it. -/
theorem not_varies_stringAgg : ¬Varies ⟨.stringAgg, args, t, s⟩ := by
  intro h
  cases h with
  | column h => cases h
  | arg hop _ _ => exact hop rfl

theorem Varies.exists_column (h : e.Varies) : ∃ m ∈ e.nodes, ∃ b, m.table? = some b := by
  induction h with
  | @column e b n h =>
    obtain ⟨op, args, t, s⟩ := e
    cases h
    exact ⟨_, mem_nodes.mpr (.inl rfl), b, rfl⟩
  | @arg e a hop ha h ih =>
    obtain ⟨op, args, t, s⟩ := e
    obtain ⟨m, hm, hb⟩ := ih
    exact ⟨m, mem_nodes.mpr (.inr ⟨a, ha, hm⟩), hb⟩

/-- The shapes of the arguments, spread, say of the node what each says of its argument. -/
theorem shape_rowwise (as : List Expr) (hop : op.isRowwise)
    (h : ∀ a ∈ as, a.shape = .column ↔ a.Varies) :
    Shape.broadcast (as.map Expr.shape) = .column ↔ Varies ⟨op, as.map some, t, s⟩ := by
  rw [broadcast_eq_column, varies_rowwise hop]
  constructor
  · intro hc
    obtain ⟨a, ha, hs⟩ := List.mem_map.mp hc
    exact ⟨a, List.mem_map_of_mem ha, (h a ha).mp hs⟩
  · rintro ⟨a, ha, hv⟩
    have hm : a ∈ as := by simpa using ha
    exact List.mem_map.mpr ⟨a, hm, (h a hm).mpr hv⟩

theorem shape_of_one {a : Expr} (hop : op.isRowwise) (h : a.shape = .column ↔ a.Varies) :
    a.shape = .column ↔ Varies ⟨op, [some a], t, s⟩ := by
  have hone := shape_rowwise (t := t) (s := s) [a] hop (by simpa using h)
  rwa [List.map_singleton, Form.broadcast_single] at hone

theorem shape_of_two {a b : Expr} (hop : op.isRowwise) (ha : a.shape = .column ↔ a.Varies)
    (hb : b.shape = .column ↔ b.Varies) :
    Shape.broadcast [a.shape, b.shape] = .column ↔ Varies ⟨op, [some a, some b], t, s⟩ :=
  shape_rowwise [a, b] hop (by simp [ha, hb])

theorem shape_getD {v : Literal} {d : Option Expr} (h : ∀ x ∈ d, x.shape = .column ↔ x.Varies) :
    (d.getD (.ofLiteral v)).shape = .column ↔ (d.getD (.ofLiteral v)).Varies := by
  cases d with
  | none => exact iff_of_false scalar_ne_column (not_varies_literal v)
  | some x => exact h x rfl

theorem shape_build {f : Form Expr} (hf : f.Proper)
    (ih : ∀ a ∈ f.operands, a.shape = .column ↔ a.Varies) (h : f.build = .ok e) :
    e.shape = .column ↔ e.Varies := by
  cases f with
  | unary op a =>
    obtain ⟨-, hop, rfl⟩ := unary_eq_ok.mp h
    exact shape_of_one (Op.isRowwise_of_unary hop) (ih a (by simp [Form.operands]))
  | round a d =>
    obtain ⟨-, -, rfl⟩ := round_eq_ok.mp h
    have hd : ∀ x ∈ d, x.shape = .column ↔ x.Varies := fun x hx =>
      ih x (by simp [Form.operands, Option.mem_def.mp hx])
    exact shape_of_two rfl (ih a (by simp [Form.operands])) (shape_getD hd)
  | variadic op as =>
    obtain ⟨-, t, -, rfl⟩ := variadic_eq_ok.mp h
    exact shape_rowwise as (Op.isRowwise_of_variadic hf) ih
  | stringAgg a p c =>
    obtain ⟨-, rfl⟩ := stringAgg_eq_ok.mp h
    exact iff_of_false scalar_ne_column not_varies_stringAgg
  | cast a t =>
    obtain ⟨-, -, rfl⟩ := cast_eq_ok.mp h
    have ha := ih a (by simp [Form.operands])
    split
    · exact ha
    · exact shape_of_one rfl ha
  | binary op l r =>
    obtain ⟨-, -, t, -, rfl⟩ := binary_eq_ok.mp h
    exact shape_of_two (Op.isRowwise_of_arithmetic hf) (ih l (by simp [Form.operands]))
      (ih r (by simp [Form.operands]))
  | aliased a n =>
    cases h
    exact shape_of_one rfl (ih a (by simp [Form.operands]))

theorem Built.shape_eq_column (he : e.Built) : e.shape = .column ↔ e.Varies := by
  induction he with
  | literal v => exact iff_of_false scalar_ne_column (not_varies_literal v)
  | column h =>
    obtain ⟨c, -, -, rfl⟩ := column_eq_ok.mp h
    exact iff_of_true rfl (.column rfl)
  | form hf _ h ih => exact shape_build hf ih h

/-- At every node the shape tells whether the value varies, and no constant one does. -/
theorem shape_tells_variation {n : Expr} (he : e.Built) (hn : n ∈ e.nodes) :
    (n.shape = .column ↔ n.Varies) ∧ (n.shape = .scalar ↔ ¬n.Varies) ∧
      ((∀ m ∈ n.nodes, m.table? = none) → n.shape = .scalar) := by
  have hcolumn := Built.shape_eq_column (he.of_mem_nodes hn)
  have hscalar : n.shape = .scalar ↔ ¬n.Varies := by
    rw [← hcolumn]
    cases n.shape <;> simp
  refine ⟨hcolumn, hscalar, fun hnone => hscalar.mpr fun hv => ?_⟩
  obtain ⟨m, hm, b, hb⟩ := hv.exists_column
  rw [hnone m hm] at hb
  cases hb

end Expr

/-- A number rounded to as many digits as the age says. -/
def roundedToAge : Expr :=
  ⟨.round, [some (.ofLiteral (.integer 5)), some age], .floating .double, .column⟩

def roundedText : Expr := ⟨.cast .string, [some roundedToAge], .string, .column⟩

/-- A word for each row, joined with that number between them. -/
def joinedByAge : Expr :=
  ⟨.stringAgg, [some (.ofLiteral (.string "row")), some roundedText, none], .string, .scalar⟩

theorem joinedByAge_built : joinedByAge.Built := by
  have hround : roundedToAge.Built :=
    .form (f := .round (.ofLiteral (.integer 5)) (some age)) trivial
      (by simp [Form.operands, age_built, Expr.MadeBy.literal]) rfl
  have htext : roundedText.Built :=
    .form (f := .cast roundedToAge .string) trivial (by simpa [Form.operands] using hround) rfl
  exact .form (f := .stringAgg (.ofLiteral (.string "row")) (some roundedText) none) trivial
    (by simp [Form.operands, htext, Expr.MadeBy.literal]) rfl

/-- The column counts as digits of a rounding and does not count as a separator. -/
theorem joinedByAge_is_scalar :
    joinedByAge.shape = .scalar ∧ ¬joinedByAge.Varies ∧ roundedToAge ∈ joinedByAge.nodes ∧
      roundedToAge.shape = .column ∧ roundedToAge.Varies := by
  have hroot := Expr.shape_tells_variation joinedByAge_built (n := joinedByAge)
    (Expr.mem_nodes.mpr (.inl rfl))
  have hmem : roundedToAge ∈ joinedByAge.nodes := by
    simp [joinedByAge, roundedText, roundedToAge, Expr.nodes, Expr.argNodes]
  have hinner := Expr.shape_tells_variation joinedByAge_built hmem
  exact ⟨rfl, hroot.2.1.mp rfl, hmem, rfl, hinner.1.mp rfl⟩

end TypedSql
