import TypedSql.Compile
import TypedSql.Proofs.Regular

namespace TypedSql

open Compile

variable {d : Dialect} {a l r : Expr} {op : Op} {t u : SqlType} {s : Shape}

theorem argParts_eq (d : Dialect) (as : List (Option Expr)) :
    argParts d as = as.map (Option.map fun e => ⟨e, e.tokens d⟩) := by
  induction as with
  | nil => rfl
  | cons a as ih => cases a <;> simp [argParts, ih]

/-- The argument in a place, if there is one. -/
theorem arg_argParts (d : Dialect) (op : Op) (args : List (Option Expr)) (i : Nat) :
    (∃ a, args[i]? = some (some a) ∧ arg op (argParts d args) i = .ok ⟨a, a.tokens d⟩) ∨
      ((∀ a, args[i]? ≠ some (some a)) ∧
        arg op (argParts d args) i = .error (.unrenderable (.missingArgument op.name i))) := by
  unfold arg
  rw [argParts_eq, List.getElem?_map]
  cases args[i]? with
  | none => exact .inr ⟨nofun, rfl⟩
  | some a =>
    cases a with
    | none => exact .inr ⟨nofun, rfl⟩
    | some a => exact .inl ⟨a, rfl, rfl⟩

theorem arg_eq_ok {args : List (Option Expr)} {i : Nat} {p : Part}
    (h : arg op (argParts d args) i = .ok p) :
    ∃ a, args[i]? = some (some a) ∧ p = ⟨a, a.tokens d⟩ := by
  rcases arg_argParts d op args i with ⟨a, ha, hp⟩ | ⟨-, hp⟩
  · rw [hp] at h
    cases h
    exact ⟨a, ha, rfl⟩
  · rw [hp] at h
    cases h

theorem given_argParts (d : Dialect) (args : List (Option Expr)) :
    given (argParts d args) = (args.filterMap fun a => a).mapM (Expr.tokens d) := by
  induction args with
  | nil => rfl
  | cons a args ih =>
    cases a with
    | none => exact ih
    | some a =>
      have hparts : given (argParts d (some a :: args)) =
          (do return (← a.tokens d) :: (← given (argParts d args))) := List.mapM_cons
      rw [hparts, ih]
      exact List.mapM_cons.symm

theorem tokens_literal (d : Dialect) (v : Literal) (as : List (Option Expr)) :
    Expr.tokens d ⟨.literal v, as, t, s⟩ = literal v := by
  rw [Expr.tokens, node]

theorem tokens_column (d : Dialect) (b : Table) (n : String) (as : List (Option Expr)) :
    Expr.tokens d ⟨.column b n, as, t, s⟩ = .ok [.ident n] := by
  rw [Expr.tokens, node]

theorem tokens_aliased (d : Dialect) (a : Expr) (n : String) :
    Expr.tokens d ⟨.aliased n, [some a], t, s⟩ = a.tokens d := by
  rw [Expr.tokens, argParts_eq]
  rfl

theorem tokens_cast (d : Dialect) (a : Expr) (u : SqlType) :
    Expr.tokens d ⟨.cast u, [some a], t, s⟩ = (do return castTo d u (← a.tokens d)) := by
  rw [Expr.tokens, argParts_eq]
  rfl

/-- Whether a function of one number may give a whole number for a fraction. -/
def settles : Op → Bool
  | .ceil | .floor => true
  | _ => false

theorem tokens_unary (hop : op.isUnary) :
    Expr.tokens d ⟨op, [some a], t, s⟩ = (do
      let ts ← a.tokens d
      return if settles op then settle d t a.type (call1 op ts) else call1 op ts) := by
  rw [Expr.tokens, argParts_eq]
  cases op with
  | abs | ceil | floor | sign => rfl
  | _ => cases hop

theorem tokens_round (d : Dialect) (a n : Expr) :
    Expr.tokens d ⟨.round, [some a, some n], t, s⟩ =
      rounded d t ⟨a, a.tokens d⟩ ⟨n, n.tokens d⟩ := by
  rw [Expr.tokens, argParts_eq]
  rfl

theorem tokens_of_zeroDigits {n : Expr} (h : n.literal? = some Expr.zeroDigits) (d : Dialect) :
    n.tokens d = .ok [.integer 0] := by
  obtain ⟨op, args, t, s⟩ := n
  cases op with
  | literal v =>
    cases h
    exact tokens_literal d _ args
  | _ => cases h

/-- Whether the dialect leaves the digits of a rounding out. -/
def dropsDigits (d : Dialect) (digits : Expr) : Prop :=
  digits.literal? = some Expr.zeroDigits ∧ !d.rules.roundNeedsDigits

instance (d : Dialect) (digits : Expr) : Decidable (dropsDigits d digits) :=
  inferInstanceAs (Decidable (_ ∧ _))

theorem rounded_drop {v n : Part} (h : dropsDigits d n.expr) :
    rounded d t v n = (do return settle d t v.expr.type (.call "round" [← v.tokens])) :=
  if_pos h

/-- Digits that are not left out are compiled before the value. -/
theorem rounded_keep {v n : Part} (h : ¬dropsDigits d n.expr) :
    rounded d t v n = (do
      let ns ← n.tokens
      let vs ← v.tokens
      return if d.rules.digitsNeedDecimal ∧ !v.expr.type.isDecimal then
          castTo d t (.call "round" [.castAs "NUMERIC" vs, ns])
        else settle d t v.expr.type (.call "round" [vs, ns])) := by
  unfold rounded
  refine (if_neg h).trans (bind_congr fun ns => bind_congr fun vs => ?_)
  split <;> rfl

theorem tokens_variadic {as : List Expr} (hop : op.isVariadic) :
    Expr.tokens d ⟨op, as.map some, t, s⟩ = (do
      return .call op.name (← as.mapM (Expr.tokens d))) := by
  have h : given (argParts d (as.map some)) = as.mapM (Expr.tokens d) := by
    rw [given_argParts, List.filterMap_map]
    simp
  rw [Expr.tokens]
  cases op with
  | coalesce | greatest | least => rw [node, h]
  | _ => cases hop

theorem tokens_stringAgg (d : Dialect) (a p : Expr) (f : Option Expr) :
    Expr.tokens d ⟨.stringAgg, [some a, some p, f], t, s⟩ = (do
      let value ← a.tokens d
      let separator ← p.tokens d
      return aggregated d value separator (← Form.bindOption (Expr.tokens d) f)) := by
  rw [Expr.tokens, argParts_eq]
  cases f with
  | none => rfl
  | some f =>
    have h : Form.bindOption (Expr.tokens d) (some f) = (do return some (← f.tokens d)) := rfl
    simp only [h, bind_assoc]
    rfl

/-- A string aggregate has a value and a separator, and a filter if one is in its place. -/
theorem node_stringAgg_eq_ok {args : List (Option Expr)} {ts : Tokens}
    (h : node d .stringAgg t (argParts d args) = .ok ts) :
    ∃ a p vs ss f, args[0]? = some (some a) ∧ args[1]? = some (some p) ∧ a.tokens d = .ok vs ∧
      Expr.tokens d p = .ok ss ∧ Form.bindOption (Expr.tokens d) args[2]?.join = .ok f ∧
      ts = aggregated d vs ss f := by
  obtain ⟨x, hx, h⟩ := bind_eq_ok.mp h
  obtain ⟨a, ha, rfl⟩ := arg_eq_ok hx
  obtain ⟨vs, hv, h⟩ := bind_eq_ok.mp h
  obtain ⟨y, hy, h⟩ := bind_eq_ok.mp h
  obtain ⟨p, hp, rfl⟩ := arg_eq_ok hy
  obtain ⟨ss, hs, h⟩ := bind_eq_ok.mp h
  simp only [argParts_eq, List.getElem?_map] at h
  cases hf : args[2]? with
  | none =>
    rw [hf] at h
    cases h
    exact ⟨a, p, vs, ss, none, ha, hp, hv, hs, rfl, rfl⟩
  | some f =>
    rw [hf] at h
    cases f with
    | none =>
      cases h
      exact ⟨a, p, vs, ss, none, ha, hp, hv, hs, rfl, rfl⟩
    | some f =>
      obtain ⟨cs, hc, h⟩ := bind_eq_ok.mp h
      cases h
      exact ⟨a, p, vs, ss, some cs, ha, hp, hv, hs, map_eq_ok.mpr ⟨cs, hc, rfl⟩, rfl⟩

theorem tokens_binary (hop : op.isArithmetic) :
    Expr.tokens d ⟨op, [some l, some r], t, s⟩ =
      arithmetic d op t ⟨l, l.tokens d⟩ ⟨r, r.tokens d⟩ := by
  rw [Expr.tokens, argParts_eq]
  cases op with
  | add | subtract | multiply | divide => rfl
  | _ => cases hop

end TypedSql
