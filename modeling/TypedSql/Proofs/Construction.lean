import TypedSql.Method
import TypedSql.Proofs.Outcomes

namespace TypedSql

namespace Op

/-- Functions of one number. -/
def isUnary : Op → Bool
  | abs | ceil | floor | sign => true
  | _ => false

/-- Functions of any number of arguments. -/
def isVariadic : Op → Bool
  | coalesce | greatest | least => true
  | _ => false

/-- The type that a function of one number gives to its value. -/
def unaryType : Op → SqlType → SqlType
  | ceil, t | floor, t => Expr.wholeType t
  | _, t => t

end Op

theorem SqlType.joinAll_eq_ok {operation : String} {ts : List SqlType} {t : SqlType} :
    joinAll operation ts = .ok t ↔ joinFrom .null ts = some t := by
  unfold joinAll
  cases joinFrom .null ts <;> simp

theorem SqlType.checkDecimal_eq_ok {p s : Nat} {t : SqlType} :
    checkDecimal p s = .ok t ↔ (decimal p s).Valid ∧ decimal p s = t := by
  unfold checkDecimal Valid
  split
  · simp only [reduceCtorEq, false_iff]
    omega
  · split
    · simp only [reduceCtorEq, false_iff]
      omega
    · simp only [Except.ok.injEq, iff_and_self]
      omega

namespace Expr

variable {op : Op} {a l r e : Expr}

theorem column_eq_ok {t : Table} {n : String} :
    t.column n = .ok e ↔ ∃ c, t.find? n = some c ∧ c.name = n ∧ .ofColumn t c = e := by
  unfold Table.column
  cases hc : t.find? n with
  | none => simp
  | some c =>
    have hn : c.name = n := by simpa using List.find?_some hc
    simp [hn]

theorem unary_eq_ok : unary op a = .ok e ↔
    a.type.isNumeric ∧ op.isUnary ∧ ⟨op, [some a], op.unaryType a.type, a.shape⟩ = e := by
  unfold unary
  cases hn : a.type.isNumeric
  · simp
  · cases op <;> simp [Op.isUnary, Op.unaryType]

theorem round_eq_ok {d : Option Expr} : round a d = .ok e ↔
    a.type.isNumeric ∧ (d.getD (.ofLiteral zeroDigits)).type.isInteger ∧
      ⟨.round, [some a, some (d.getD (.ofLiteral zeroDigits))],
        roundType a.type (d.getD (.ofLiteral zeroDigits)),
        .broadcast [a.shape, (d.getD (.ofLiteral zeroDigits)).shape]⟩ = e := by
  unfold round
  cases hn : a.type.isNumeric
  · simp
  · cases hd : (d.getD (.ofLiteral zeroDigits)).type.isInteger <;> simp [hd]

theorem variadic_eq_ok {as : List Expr} : variadic op as = .ok e ↔
    as ≠ [] ∧ ∃ t, SqlType.joinAll op.name (as.map Expr.type) = .ok t ∧
      ⟨op, as.map some, t, .broadcast (as.map Expr.shape)⟩ = e := by
  unfold variadic
  cases as with
  | nil => simp
  | cons b bs => simp [bind_eq_ok]

theorem stringAgg_eq_ok {s f : Option Expr} : stringAgg a s f = .ok e ↔
    (a.family = .string ∧ (s.getD (.ofLiteral comma)).family = .string ∧
      ∀ g ∈ f, g.family = .boolean) ∧
    ⟨.stringAgg, [some a, some (s.getD (.ofLiteral comma)), f], .string, .scalar⟩ = e := by
  unfold stringAgg
  dsimp only
  split
  · rename_i h
    simp only [Except.ok.injEq, eq_true h, true_and]
  · rename_i h
    simp only [reduceCtorEq, eq_false h, false_and]

/-- A type passes its check unchanged or not at all. -/
theorem checked_eq_ok {t u : SqlType} : t.checked = .ok u ↔ t.Valid ∧ t = u := by
  cases t with
  | decimal p s =>
    rw [SqlType.checked, ← SqlType.checkDecimal_eq_ok]
    cases SqlType.checkDecimal p s <;> simp [Except.mapError]
  | _ => simp [SqlType.checked, SqlType.Valid]

theorem cast_eq_ok {t : SqlType} : cast a t = .ok e ↔
    t.Valid ∧ t ≠ .null ∧ (if a.type = t then a else ⟨.cast t, [some a], t, a.shape⟩) = e := by
  simp only [cast, bind_eq_ok, checked_eq_ok, and_assoc]
  constructor
  · rintro ⟨u, hv, rfl, hc⟩
    by_cases hn : t = .null
    · simp [hn] at hc
    · by_cases ht : a.type = t <;> simp_all
  · rintro ⟨hv, hn, he⟩
    refine ⟨t, hv, rfl, ?_⟩
    by_cases ht : a.type = t <;> simp_all

theorem type_of_cast {t : SqlType} (h : cast a t = .ok e) : e.type = t := by
  obtain ⟨-, -, rfl⟩ := cast_eq_ok.mp h
  split
  · assumption
  · rfl

theorem binary_eq_ok : binary op l r = .ok e ↔
    isOperand l.type ∧ isOperand r.type ∧ ∃ t, l.type.join r.type = some t ∧
      ⟨op, [some l, some r], arithmeticType op t, .broadcast [l.shape, r.shape]⟩ = e := by
  unfold binary
  cases hl : isOperand l.type
  · simp
  · cases hr : isOperand r.type
    · simp
    · cases hj : l.type.join r.type <;> simp

end Expr

namespace Form

variable {α β : Type}

/-- Forms that hold one of the operations that are theirs. The other forms hold none. -/
def Proper : Form α → Prop
  | unary op _ => op.isUnary
  | variadic op _ => op.isVariadic
  | binary op _ _ => op.isArithmetic
  | _ => True

theorem bindOption_eq_ok {f : α → Except Error β} {a : Option α} {b : Option β}
    (h : bindOption f a = .ok b) : ∀ y ∈ b, ∃ x ∈ a, f x = .ok y := by
  cases a with
  | none => cases h; simp
  | some x =>
    obtain ⟨y, hy, rfl⟩ := map_eq_ok.mp h
    simpa using hy

/-- The form keeps its operation, and each of its arguments comes from one that stood there. -/
theorem bindArgs_eq_ok {f : α → Except Error β} {p : Form α} {q : Form β}
    (h : p.bindArgs f = .ok q) :
    (q.Proper ↔ p.Proper) ∧ ∀ y ∈ q.operands, ∃ x ∈ p.operands, f x = .ok y := by
  cases p with
  | unary op a | cast a t | aliased a n =>
    obtain ⟨b, hb, h⟩ := bind_eq_ok.mp h
    cases h
    simpa [Proper, operands] using hb
  | round a d =>
    obtain ⟨b, hb, h⟩ := bind_eq_ok.mp h
    obtain ⟨e, he, h⟩ := bind_eq_ok.mp h
    cases h
    have := bindOption_eq_ok he
    simp_all [Proper, operands]
  | variadic op as =>
    obtain ⟨bs, hbs, h⟩ := bind_eq_ok.mp h
    cases h
    exact ⟨Iff.rfl, mem_of_mapM hbs⟩
  | stringAgg a s c =>
    obtain ⟨b, hb, h⟩ := bind_eq_ok.mp h
    obtain ⟨u, hu, h⟩ := bind_eq_ok.mp h
    obtain ⟨v, hv, h⟩ := bind_eq_ok.mp h
    cases h
    have hs := bindOption_eq_ok hu
    have hf := bindOption_eq_ok hv
    refine ⟨Iff.rfl, fun y hy => ?_⟩
    simp only [operands, List.cons_append, List.mem_cons, List.mem_append,
      Option.mem_toList] at hy ⊢
    rcases hy with rfl | hy | hy
    · exact ⟨a, .inl rfl, hb⟩
    · obtain ⟨x, hx, h⟩ := hs y hy
      exact ⟨x, .inr (.inl hx), h⟩
    · obtain ⟨x, hx, h⟩ := hf y hy
      exact ⟨x, .inr (.inr hx), h⟩
  | binary op l r =>
    obtain ⟨b, hb, h⟩ := bind_eq_ok.mp h
    obtain ⟨c, hc, h⟩ := bind_eq_ok.mp h
    cases h
    simp [Proper, operands, hb, hc]

end Form

/-- Expressions that columns and constants give through forms with the property. -/
inductive Expr.MadeBy (P : Form Expr → Prop) : Expr → Prop
  | literal (v : Literal) : MadeBy P (.ofLiteral v)
  | column {t : Table} {n : String} {e : Expr} (h : t.column n = .ok e) : MadeBy P e
  | form {f : Form Expr} {e : Expr} (hp : P f) (ha : ∀ a ∈ f.operands, MadeBy P a)
      (h : f.build = .ok e) : MadeBy P e

/-- What columns and constants give through methods, functions and templates, as long as no
recorded form holds an operation of another one. -/
abbrev Expr.Built : Expr → Prop := Expr.MadeBy Form.Proper

theorem Expr.built_binary (op : Op) {l r e : Expr} (hop : op.isArithmetic) (hl : l.Built)
    (hr : r.Built) (h : binary op l r = .ok e) : e.Built :=
  .form (f := .binary op l r) hop (by simp [Form.operands, hl, hr]) h

/-- A table to build expressions on. -/
def people : Table where
  name := "people"
  columns := [⟨"name", .string⟩, ⟨"age", .integer .w32⟩]
  distinct := by decide

def age : Expr := .ofColumn people ⟨"age", .integer .w32⟩

theorem age_built : age.Built := .column (t := people) (n := "age") rfl

/-- The age in a year. -/
def nextAge : Expr :=
  let age := Expr.ofColumn people ⟨"age", .integer .w32⟩
  ⟨.add, [some age, some (.ofLiteral (.integer 1))], .integer .w32, .column⟩

theorem nextAge_built : nextAge.Built :=
  Expr.built_binary .add rfl age_built (.literal (.integer 1)) rfl

end TypedSql
