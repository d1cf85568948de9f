import TypedSql.Proofs.Invariants
import TypedSql.Proofs.Parsing

namespace TypedSql

open Compile
open Tokens (solid)

/-- Operands with operators of arithmetic between them. A name keeps no parentheses, so that below
it arithmetic may stand in arithmetic bare; what is read then may be another tree than that of the
operations. -/
inductive Chain : Tokens → Prop
  | operand {u : SqlTree} {ts : Tokens} (h : Derives (.expr atomLevel u) ts) : Chain ts
  | more {o : Symbol} {n : Nat} {u : SqlTree} {ts ss : Tokens}
      (ho : o.precedence? = some (n + 1)) (h : Chain ts)
      (hu : Derives (.expr atomLevel u) ss) : Chain (ts ++ .symbol o :: ss)

namespace Chain

variable {o : Symbol} {n : Nat} {ts ss : Tokens}

theorem append (ho : o.precedence? = some (n + 1)) (h : Chain ts) (hs : Chain ss) :
    Chain (ts ++ .symbol o :: ss) := by
  induction hs with
  | operand hu => exact .more ho h hu
  | more hp _ hu ih =>
    have hmore := Chain.more hp ih hu
    rwa [List.append_assoc] at hmore

/-- A chain is a product, or a product behind the last of its sums. -/
theorem last_product (h : Chain ts) :
    (∃ u, Derives (.expr 2 u) ts) ∨
      ∃ (o : Symbol) (u v : SqlTree) (xs ys : Tokens), o.precedence? = some 1 ∧
        Derives (.expr 1 u) xs ∧ Derives (.expr 2 v) ys ∧ ts = xs ++ .symbol o :: ys := by
  induction h with
  | operand h => exact .inl ⟨_, h.loosen (by decide) (Nat.le_refl _)⟩
  | @more o n w ts ss ho _ hw ih =>
    have hn := Symbol.precedence_lt ho
    obtain rfl | rfl : n = 0 ∨ n = 1 := by
      rw [atomLevel] at hn
      omega
    · -- The chain so far is a sum of its own, which the operand follows.
      have hsum : ∃ u, Derives (.expr 1 u) ts := by
        rcases ih with ⟨u, hu⟩ | ⟨p, u, v, xs, ys, hp, hu, hv, rfl⟩
        · exact ⟨u, hu.tighter (by decide)⟩
        · exact ⟨_, .infixed hp hu hv⟩
      obtain ⟨u, hu⟩ := hsum
      exact .inr ⟨o, u, w, ts, ss, ho, hu, hw.loosen (by decide) (Nat.le_refl _), rfl⟩
    · -- The operand belongs to the last product.
      rcases ih with ⟨u, hu⟩ | ⟨p, u, v, xs, ys, hp, hu, hv, rfl⟩
      · exact .inl ⟨_, .infixed ho hu hw⟩
      · exact .inr ⟨p, u, _, xs, _, hp, hu, .infixed ho hv hw, by simp⟩

theorem derives (h : Chain ts) : ∃ u, Derives (.expr 0 u) ts := by
  rcases h.last_product with ⟨u, hu⟩ | ⟨o, u, v, xs, ys, ho, hu, hv, rfl⟩
  · exact ⟨u, hu.loosen (Nat.zero_le _) (by decide)⟩
  · exact ⟨_, (Derives.infixed ho hu hv).tighter (by decide)⟩

end Chain

theorem chain_parens {ts : Tokens} (h : Chain (solid ts)) : Chain (solid (Tokens.parens ts)) := by
  obtain ⟨u, hu⟩ := h.derives
  rw [Tokens.solid_parens]
  exact .operand (.parens hu)

/-- Each item has a tree, and so have all of them. -/
theorem exists_trees {items : List Tokens} (h : ∀ ts ∈ items, Chain (solid ts)) :
    ∃ us, List.Forall₂ (fun u ts => Derives (.expr 0 u) (solid ts)) us items := by
  induction items with
  | nil => exact ⟨[], .nil⟩
  | cons ts items ih =>
    obtain ⟨hts, hitems⟩ := List.forall_mem_cons.mp h
    obtain ⟨u, hu⟩ := hts.derives
    obtain ⟨us, hus⟩ := ih hitems
    exact ⟨u :: us, .cons hu hus⟩

theorem chain_call (f : String) {items : List Tokens} (h : ∀ ts ∈ items, Chain (solid ts)) :
    Chain (solid (Tokens.call f items)) := by
  obtain ⟨us, hus⟩ := exists_trees h
  cases hus with
  | nil => exact .operand (.application (.callNone f))
  | cons hu hus =>
    exact .operand (.application (derives_call f (.cons hu hus) (List.cons_ne_nil _ _)))

theorem chain_aggregated (d : Dialect) {vs ss : Tokens} {f : Option Tokens}
    (hv : Chain (solid vs)) (hs : Chain (solid ss)) (hf : ∀ cs ∈ f, Chain (solid cs)) :
    Chain (solid (aggregated d vs ss f)) := by
  obtain ⟨v, hv⟩ := hv.derives
  obtain ⟨s, hs⟩ := hs.derives
  have hfilter : ∃ c, Option.Rel (fun u ts => Derives (.expr 0 u) (solid ts)) c f := by
    cases f with
    | none => exact ⟨none, .none⟩
    | some cs =>
      obtain ⟨c, hc⟩ := (hf cs rfl).derives
      exact ⟨some c, .some hc⟩
  obtain ⟨c, hc⟩ := hfilter
  exact .operand (derives_aggregated d hv hs hc)

theorem chain_castAs (n : String) {ts : Tokens} (h : Chain (solid ts)) :
    Chain (solid (Tokens.castAs n ts)) := by
  obtain ⟨u, hu⟩ := h.derives
  rw [Tokens.solid_castAs]
  exact .operand (.cast n hu)

theorem chain_infixed (op : Op) {ts ss : Tokens} (h : Chain (solid ts)) (hs : Chain (solid ss)) :
    Chain (solid (Tokens.infixed (operator op) ts ss)) := by
  have ho : ∃ n, (operator op).precedence? = some (n + 1) := by
    cases op <;> exact ⟨_, rfl⟩
  obtain ⟨n, ho⟩ := ho
  rw [Tokens.solid_infixed]
  exact h.append ho hs

theorem chain_inherited (d : Dialect) : Inherited d fun ts => Chain (solid ts) where
  literal h := .operand (derives_literal h)
  ident n := .operand (.ident n)
  parens h := chain_parens h
  infixed op _ _ hl hr := chain_infixed op hl hr
  call _ h := chain_call _ h
  cast _ _ h := chain_castAs _ h
  numeric h := chain_castAs _ h
  aggregated hv hs hf := chain_aggregated d hv hs hf

variable {d : Dialect} {e : Expr} {ts : Tokens} {u : SqlTree}

/-- Whatever its arguments are and wherever its names stand, an expression that compiles parses. -/
theorem exists_derives (h : e.tokens d = .ok ts) : ∃ u, Derives (.expr 0 u) (solid ts) :=
  ((chain_inherited d).tokens h).derives

/-- The tree is the one reading of the SQL that the expression has in the dialect. -/
def Expr.ReadsAs (d : Dialect) (e : Expr) (u : SqlTree) : Prop :=
  ∃ ts, e.tokens d = .ok ts ∧ ∀ w, Derives (.expr 0 w) (solid ts) ↔ w = u

theorem readsAs_of_derives (h : e.tokens d = .ok ts) (hu : Derives (.expr 0 u) (solid ts)) :
    e.ReadsAs d u :=
  ⟨ts, h, fun _ => ⟨fun hw => hw.unique hu, fun hw => hw ▸ hu⟩⟩

theorem Expr.ReadsAs.unique {v : SqlTree} (hu : e.ReadsAs d u) (hv : e.ReadsAs d v) : u = v := by
  obtain ⟨ts, h, hts⟩ := hu
  obtain ⟨ss, k, hss⟩ := hv
  rw [h] at k
  cases k
  exact (hss u).mp ((hts u).mpr rfl)

end TypedSql
