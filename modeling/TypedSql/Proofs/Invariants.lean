import TypedSql.Proofs.Nodes
import TypedSql.Proofs.Trees
import TypedSql.Proofs.Unquoted

namespace TypedSql

open Compile

/-- A property that operations keep, whatever their arguments are. -/
structure Inherited (d : Dialect) (I : Tokens → Prop) : Prop where
  literal {v : Literal} {ts : Tokens} (h : literal v = .ok ts) : I ts
  ident (n : String) : I [.ident n]
  parens {ts : Tokens} (h : I ts) : I (Tokens.parens ts)
  infixed (op : Op) {ts ss : Tokens} (hl : I ts) (hr : I ss) :
    I (Tokens.infixed (operator op) ts ss)
  call {f : String} {items : List Tokens} (hf : f ∈ functionNames) (h : ∀ ts ∈ items, I ts) :
    I (Tokens.call f items)
  cast (t : SqlType) {ts : Tokens} (h : I ts) : I (castTo d t ts)
  numeric {ts : Tokens} (h : I ts) : I (Tokens.castAs "NUMERIC" ts)
  aggregated {vs ss : Tokens} {f : Option Tokens} (hv : I vs) (hs : I ss) (hf : ∀ cs ∈ f, I cs) :
    I (aggregated d vs ss f)

namespace Inherited

variable {d : Dialect} {I : Tokens → Prop} {op : Op} {args : List (Option Expr)} {t u : SqlType}
  {a l r n e : Expr} {ts : Tokens}

theorem settle (hI : Inherited d I) (h : I ts) : I (settle d t u ts) := by
  unfold Compile.settle
  split
  · exact h
  · exact hI.cast t h

theorem operand (hI : Inherited d I) (ha : ∀ ss, a.tokens d = .ok ss → I ss)
    (h : operand ⟨a, a.tokens d⟩ = .ok ts) : I ts := by
  obtain ⟨ss, hs, h⟩ := bind_eq_ok.mp h
  cases h
  split
  · exact hI.parens (ha ss hs)
  · exact ha ss hs

theorem arithmetic (hI : Inherited d I) (hl : ∀ ss, l.tokens d = .ok ss → I ss)
    (hr : ∀ ss, r.tokens d = .ok ss → I ss)
    (h : arithmetic d op t ⟨l, l.tokens d⟩ ⟨r, r.tokens d⟩ = .ok ts) : I ts := by
  obtain ⟨xs, hx, h⟩ := bind_eq_ok.mp h
  obtain ⟨ys, hy, h⟩ := bind_eq_ok.mp h
  cases h
  have hxs := hI.operand hl hx
  refine hI.infixed _ ?_ (hI.operand hr hy)
  split
  · exact hI.cast _ hxs
  · exact hxs

theorem rounded (hI : Inherited d I) (ha : ∀ ss, a.tokens d = .ok ss → I ss)
    (hn : ∀ ss, n.tokens d = .ok ss → I ss)
    (h : rounded d t ⟨a, a.tokens d⟩ ⟨n, n.tokens d⟩ = .ok ts) : I ts := by
  have hround {items : List Tokens} (hi : ∀ ss ∈ items, I ss) : I (.call "round" items) :=
    hI.call (by decide) hi
  by_cases hd : dropsDigits d n
  · rw [rounded_drop hd] at h
    obtain ⟨vs, hv, h⟩ := bind_eq_ok.mp h
    cases h
    exact hI.settle (hround (by simp [ha vs hv]))
  · rw [rounded_keep hd] at h
    obtain ⟨ns, hns, h⟩ := bind_eq_ok.mp h
    obtain ⟨vs, hv, h⟩ := bind_eq_ok.mp h
    cases h
    split
    · have hnumeric : I (.castAs "NUMERIC" vs) := hI.numeric (ha vs hv)
      exact hI.cast t (hround (by simp [hnumeric, hn ns hns]))
    · exact hI.settle (hround (by simp [ha vs hv, hn ns hns]))

theorem call1 (hI : Inherited d I) (hop : op.name ∈ functionNames) (h : I ts) :
    I (call1 op ts) :=
  hI.call hop (by simp [h])

theorem node (hI : Inherited d I)
    (hargs : ∀ a, some a ∈ args → ∀ ss, a.tokens d = .ok ss → I ss)
    (h : node d op t (argParts d args) = .ok ts) : I ts := by
  have harg {i : Nat} {p : Part} (hp : arg op (argParts d args) i = .ok p) :
      ∃ a, some a ∈ args ∧ p = ⟨a, a.tokens d⟩ := by
    obtain ⟨a, ha, rfl⟩ := arg_eq_ok hp
    exact ⟨a, List.mem_of_getElem? ha, rfl⟩
  cases op with
  | literal v => exact hI.literal h
  | column b n =>
    cases h
    exact hI.ident n
  | aliased n =>
    obtain ⟨p, hp, h⟩ := bind_eq_ok.mp h
    obtain ⟨a, ha, rfl⟩ := harg hp
    exact hargs a ha ts h
  | cast u =>
    obtain ⟨p, hp, h⟩ := bind_eq_ok.mp h
    obtain ⟨a, ha, rfl⟩ := harg hp
    obtain ⟨ss, hs, h⟩ := bind_eq_ok.mp h
    cases h
    exact hI.cast u (hargs a ha ss hs)
  | abs | sign =>
    obtain ⟨p, hp, h⟩ := bind_eq_ok.mp h
    obtain ⟨a, ha, rfl⟩ := harg hp
    obtain ⟨ss, hs, h⟩ := bind_eq_ok.mp h
    cases h
    exact hI.call1 (by decide) (hargs a ha ss hs)
  | ceil | floor =>
    obtain ⟨p, hp, h⟩ := bind_eq_ok.mp h
    obtain ⟨a, ha, rfl⟩ := harg hp
    obtain ⟨ss, hs, h⟩ := bind_eq_ok.mp h
    cases h
    exact hI.settle (hI.call1 (by decide) (hargs a ha ss hs))
  | round =>
    obtain ⟨p, hp, h⟩ := bind_eq_ok.mp h
    obtain ⟨q, hq, h⟩ := bind_eq_ok.mp h
    obtain ⟨a, ha, rfl⟩ := harg hp
    obtain ⟨n, hn, rfl⟩ := harg hq
    exact hI.rounded (hargs a ha) (hargs n hn) h
  | coalesce | greatest | least =>
    obtain ⟨items, hitems, h⟩ := bind_eq_ok.mp h
    cases h
    rw [given_argParts] at hitems
    refine hI.call (by decide) fun ss hs => ?_
    obtain ⟨a, ha, hss⟩ := mem_of_mapM hitems ss hs
    exact hargs a (by simpa using ha) ss hss
  | stringAgg =>
    obtain ⟨a, p, vs, ss, f, ha, hp, hv, hs, hf, rfl⟩ := node_stringAgg_eq_ok h
    refine hI.aggregated (hargs a (List.mem_of_getElem? ha) vs hv)
      (hargs p (List.mem_of_getElem? hp) ss hs) fun cs hc => ?_
    obtain ⟨c, hcond, hcs⟩ := Form.bindOption_eq_ok hf cs hc
    exact hargs c (List.mem_of_getElem? (Option.join_eq_some_iff.mp hcond)) cs hcs
  | add | subtract | multiply | divide =>
    obtain ⟨p, hp, h⟩ := bind_eq_ok.mp h
    obtain ⟨q, hq, h⟩ := bind_eq_ok.mp h
    obtain ⟨l, hl, rfl⟩ := harg hp
    obtain ⟨r, hr, rfl⟩ := harg hq
    exact hI.arithmetic (hargs l hl) (hargs r hr) h

/-- What operations keep holds of the tokens of every expression. -/
theorem tokens (hI : Inherited d I) (h : e.tokens d = .ok ts) : I ts := by
  induction e using Expr.induction_on_args generalizing ts with
  | node op args t s ih =>
    rw [Expr.tokens] at h
    exact hI.node (fun a ha ss => ih a ha) h

end Inherited

end TypedSql
