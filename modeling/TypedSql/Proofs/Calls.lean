import TypedSql.Proofs.Invariants
import TypedSql.Proofs.Parsing

namespace TypedSql

open Compile

/-- Tokens other than functions and what their arguments stand between. -/
def Token.isPlain : Token → Bool
  | symbol .lparen | symbol .rparen | symbol .comma | function _ => false
  | _ => true

namespace Tokens

/-- The commas before the parenthesis that closes the list of arguments, while `depth` further
parentheses are open. -/
def commas (depth : Nat) : Tokens → Nat
  | [] => 0
  | .symbol .lparen :: ts => commas (depth + 1) ts
  | .symbol .rparen :: ts => if depth = 0 then 0 else commas (depth - 1) ts
  | .symbol .comma :: ts => (if depth = 0 then 1 else 0) + commas depth ts
  | _ :: ts => commas depth ts

/-- The number of arguments between the parentheses with which the tokens begin. -/
def arity : Tokens → Nat
  | .symbol .lparen :: .symbol .rparen :: _ => 0
  | .symbol .lparen :: ts => commas 0 ts + 1
  | _ => 0

/-- Each function with the number of its arguments. -/
def calls : Tokens → List (String × Nat)
  | [] => []
  | .function f :: ts => (f, arity ts) :: calls ts
  | _ :: ts => calls ts

/-- Tokens whose parentheses are closed and whose commas all stand inside of parentheses. -/
structure Enclosed (ts : Tokens) : Prop where
  ne_nil : ts ≠ []
  commas (depth : Nat) (r : Tokens) : commas depth (ts ++ r) = commas depth r
  calls (r : Tokens) : calls (ts ++ r) = calls ts ++ calls r

variable {t : Token} {ts ss r : Tokens} {items : List Tokens}

theorem commas_cons (ht : t.isPlain) (depth : Nat) : commas depth (t :: ts) = commas depth ts := by
  cases t with
  | symbol s =>
    cases s with
    | lparen | rparen | comma => cases ht
    | _ => rfl
  | _ => rfl

theorem calls_cons (ht : t.isPlain) : calls (t :: ts) = calls ts := by
  cases t with
  | function f => cases ht
  | _ => rfl

theorem calls_symbol (s : Symbol) : calls (.symbol s :: ts) = calls ts := rfl

theorem commas_function (f : String) (depth : Nat) :
    commas depth (.function f :: ts) = commas depth ts := rfl

theorem enclosed_single (ht : t.isPlain) : Enclosed [t] where
  ne_nil := List.cons_ne_nil t []
  commas depth _ := commas_cons ht depth
  calls r := by
    rw [calls_cons ht, List.singleton_append, calls_cons ht]
    rfl

theorem Enclosed.append (ht : Enclosed ts) (hs : Enclosed ss) : Enclosed (ts ++ ss) where
  ne_nil := List.append_ne_nil_of_left_ne_nil ht.ne_nil ss
  commas depth r := by rw [List.append_assoc, ht.commas, hs.commas]
  calls r := by rw [List.append_assoc, ht.calls, ht.calls, hs.calls, List.append_assoc]

theorem Enclosed.cons (ht : t.isPlain) (hs : Enclosed ss) : Enclosed (t :: ss) :=
  (enclosed_single ht).append hs

theorem enclosed_plain (hne : ts ≠ []) (h : ∀ t ∈ ts, t.isPlain) : Enclosed ts := by
  induction ts with
  | nil => exact absurd rfl hne
  | cons t ts ih =>
    obtain ⟨ht, hts⟩ := List.forall_mem_cons.mp h
    cases ts with
    | nil => exact enclosed_single ht
    | cons u us => exact (ih (List.cons_ne_nil u us) hts).cons ht

theorem calls_plain_append (h : ∀ t ∈ ts, t.isPlain) : calls (ts ++ r) = calls r := by
  induction ts with
  | nil => rfl
  | cons t ts ih =>
    obtain ⟨ht, hts⟩ := List.forall_mem_cons.mp h
    rw [List.cons_append, calls_cons ht, ih hts]

theorem calls_plain (h : ∀ t ∈ ts, t.isPlain) : calls ts = [] := by
  simpa [calls] using calls_plain_append (r := []) h

theorem parens_append : parens ts ++ r = .symbol .lparen :: (ts ++ (.symbol .rparen :: r)) := by
  simp [parens]

theorem calls_parens_append (h : Enclosed ts) : calls (parens ts ++ r) = calls ts ++ calls r := by
  rw [parens_append, calls_symbol, h.calls, calls_symbol]

theorem calls_parens (h : Enclosed ts) : calls (parens ts) = calls ts := by
  simpa [calls] using calls_parens_append (r := []) h

theorem enclosed_parens (h : Enclosed ts) : Enclosed (parens ts) where
  ne_nil := List.cons_ne_nil _ _
  commas depth r := by
    rw [parens_append, Tokens.commas, h.commas, Tokens.commas, if_neg (Nat.succ_ne_zero depth),
      Nat.add_sub_cancel]
  calls r := by rw [calls_parens_append h, calls_parens h]

theorem Enclosed.ne_rparen (h : Enclosed (t :: ts)) : t ≠ .symbol .rparen := by
  rintro rfl
  have hcommas := h.commas 0 [.symbol .comma]
  simp [Tokens.commas] at hcommas

theorem list_cons_append (ts ss : Tokens) (items : List Tokens) (r : Tokens) :
    list (ts :: ss :: items) ++ r =
      ts ++ (.symbol .comma :: space :: (list (ss :: items) ++ r)) := by
  simp [list_cons]

/-- Between items stand commas of their own level. -/
theorem commas_list (h : ∀ ts ∈ items, Enclosed ts) (depth : Nat) :
    commas depth (list items ++ r) =
      (if depth = 0 then items.length - 1 else 0) + commas depth r := by
  induction items with
  | nil => simp [list]
  | cons ts items ih =>
    have hts := h ts List.mem_cons_self
    have hitems := ih fun ss hs => h ss (List.mem_cons_of_mem _ hs)
    cases items with
    | nil => simp [list, hts.commas]
    | cons ss items =>
      rw [list_cons_append, hts.commas, commas, commas_cons rfl, hitems]
      split
      · simp only [List.length_cons]
        omega
      · omega

theorem calls_list (h : ∀ ts ∈ items, Enclosed ts) :
    calls (list items ++ r) = items.flatMap calls ++ calls r := by
  induction items with
  | nil => rfl
  | cons ts items ih =>
    have hts := h ts List.mem_cons_self
    have hitems := ih fun ss hs => h ss (List.mem_cons_of_mem _ hs)
    rw [List.flatMap_cons, List.append_assoc, ← hitems]
    cases items with
    | nil => simp [list, hts.calls]
    | cons ss items => rw [list_cons_append, hts.calls, calls_symbol, calls_cons rfl]

theorem arity_cons (ht : t ≠ .symbol .rparen) :
    arity (.symbol .lparen :: t :: ts) = commas 0 (t :: ts) + 1 := by
  cases t with
  | symbol s =>
    cases s with
    | rparen => exact absurd rfl ht
    | _ => rfl
  | _ => rfl

theorem arity_list (h : ∀ ts ∈ items, Enclosed ts) :
    arity (parens (list items) ++ r) = items.length := by
  cases items with
  | nil => rfl
  | cons ts items =>
    -- The list begins with the first token of its first item, which closes nothing.
    obtain ⟨t, q, hq, ht⟩ : ∃ t q, list (ts :: items) ++ (.symbol .rparen :: r) = t :: q ∧
        t ≠ .symbol .rparen := by
      cases ts with
      | nil => exact absurd rfl (h [] List.mem_cons_self).ne_nil
      | cons t ts =>
        have ht := (h (t :: ts) List.mem_cons_self).ne_rparen
        cases items with
        | nil => exact ⟨t, _, rfl, ht⟩
        | cons ss items => exact ⟨t, _, list_cons_append _ _ _ _, ht⟩
    have hcommas := commas_list (r := .symbol .rparen :: r) h 0
    rw [parens_append, hq, arity_cons ht, ← hq, hcommas, if_pos rfl, commas, if_pos rfl]
    simp

theorem call_single (f : String) (ts : Tokens) : call f [ts] = .function f :: parens ts := by
  simp [call, list]

theorem calls_call_append (f : String) (h : ∀ ts ∈ items, Enclosed ts) :
    calls (call f items ++ r) = (f, items.length) :: (items.flatMap calls ++ calls r) := by
  have hcall : call f items ++ r = .function f :: (parens (list items) ++ r) := rfl
  rw [hcall, calls, arity_list h, parens_append, calls_symbol, calls_list h, calls_symbol]

theorem calls_call (f : String) (h : ∀ ts ∈ items, Enclosed ts) :
    calls (call f items) = (f, items.length) :: items.flatMap calls := by
  simpa [calls] using calls_call_append (r := []) f h

theorem enclosed_call (f : String) (h : ∀ ts ∈ items, Enclosed ts) : Enclosed (call f items) where
  ne_nil := List.cons_ne_nil _ _
  commas depth r := by
    have hcall : call f items ++ r = .function f :: (parens (list items) ++ r) := rfl
    rw [hcall, commas_function, parens_append, Tokens.commas, commas_list h,
      if_neg (Nat.succ_ne_zero depth), Nat.zero_add, Tokens.commas,
      if_neg (Nat.succ_ne_zero depth), Nat.add_sub_cancel]
  calls r := by rw [calls_call_append f h, calls_call f h, List.cons_append]

theorem enclosed_castAs (n : String) (h : Enclosed ts) : Enclosed (castAs n ts) := by
  have htail : Enclosed [space, .keyword .AS, space, .typeName n] :=
    enclosed_plain (List.cons_ne_nil _ _) (by simp [Token.isPlain, space])
  exact (enclosed_parens (h.append htail)).cons rfl

theorem calls_castAs (n : String) (h : Enclosed ts) : calls (castAs n ts) = calls ts := by
  have htail : ∀ t ∈ [space, .keyword .AS, space, .typeName n], t.isPlain := by
    simp [Token.isPlain, space]
  rw [castAs, calls_cons rfl,
    calls_parens (h.append (enclosed_plain (List.cons_ne_nil _ _) htail)), h.calls,
    calls_plain htail, List.append_nil]

theorem enclosed_infixed {o : Symbol} (ho : (Token.symbol o).isPlain) (ht : Enclosed ts)
    (hs : Enclosed ss) : Enclosed (infixed o ts ss) := by
  have hspace : Enclosed [space] := enclosed_single rfl
  exact (ht.append ((hspace.cons ho).cons rfl)).append hs

theorem calls_infixed (o : Symbol) (ht : Enclosed ts) :
    calls (infixed o ts ss) = calls ts ++ calls ss := by
  rw [infixed, List.append_assoc, ht.calls]
  rfl

theorem enclosed_whenTrue (hc : Enclosed ts) (hv : Enclosed ss) : Enclosed (whenTrue ts ss) := by
  have hwhen : Enclosed [.keyword .CASE, space, .keyword .WHEN, space] :=
    enclosed_plain (List.cons_ne_nil _ _) (by simp [Token.isPlain, space])
  have hthen : Enclosed [space, .keyword .THEN, space] :=
    enclosed_plain (List.cons_ne_nil _ _) (by simp [Token.isPlain, space])
  have helse : Enclosed [space, .keyword .ELSE, space, .null, space, .keyword .END] :=
    enclosed_plain (List.cons_ne_nil _ _) (by simp [Token.isPlain, space])
  exact (((hwhen.append hc).append hthen).append hv).append helse

theorem enclosed_filterClause (h : Enclosed ts) : Enclosed (filterClause ts) := by
  have hfilter : Enclosed [space, .keyword .FILTER, space] :=
    enclosed_plain (List.cons_ne_nil _ _) (by simp [Token.isPlain, space])
  exact hfilter.append (enclosed_parens ((h.cons rfl).cons rfl))

theorem enclosed_stringAgg (d : Dialect) (hv : Enclosed ts) (hs : Enclosed ss) :
    Enclosed (d.stringAgg ts ss) := by
  unfold Dialect.stringAgg
  cases d.rules.aggregate with
  | function f => exact enclosed_call f (by simp [hv, hs])
  | separatorKeyword f =>
    have hkeyword : Enclosed [space, .keyword .SEPARATOR, space] :=
      enclosed_plain (List.cons_ne_nil _ _) (by simp [Token.isPlain, space])
    have hargs := (hv.append hkeyword).append hs
    -- To the reader of commas the call has one argument.
    have hcall : Enclosed (call f [ts ++ [space, .keyword .SEPARATOR, space] ++ ss]) :=
      enclosed_call f (List.forall_mem_singleton.mpr hargs)
    rwa [call_single] at hcall
  | joined f =>
    have hcollect : Enclosed (call f [ts]) := enclosed_call f (by simp [hv])
    exact enclosed_call "array_join" (by simp [hcollect, hs])

theorem enclosed_condition (d : Dialect) (h : Enclosed ts) : Enclosed (d.condition ts) := by
  unfold Dialect.condition
  split
  · exact enclosed_infixed rfl h (enclosed_single rfl)
  · exact h

theorem enclosed_aggregated (d : Dialect) (hv : Enclosed ts) (hs : Enclosed ss)
    (f : Option Tokens) (hf : ∀ cs ∈ f, Enclosed cs) : Enclosed (aggregated d ts ss f) := by
  cases f with
  | none => exact enclosed_stringAgg d hv hs
  | some cs =>
    have hc := enclosed_condition d (hf cs rfl)
    simp only [aggregated]
    split
    · exact (enclosed_stringAgg d hv hs).append (enclosed_filterClause hc)
    · exact enclosed_stringAgg d (enclosed_whenTrue hc hv) hs

theorem literal_plain {v : Literal} (h : literal v = .ok ts) : ts ≠ [] ∧ ∀ t ∈ ts, t.isPlain := by
  cases v with
  | real x =>
    simp only [literal] at h
    split at h
    · cases h
      simp [Token.isPlain]
    · cases h
  | _ =>
    cases h
    simp [Token.isPlain]

theorem operator_isPlain (op : Op) : (Token.symbol (operator op)).isPlain := by
  cases op <;> rfl

theorem enclosed_inherited (d : Dialect) : Inherited d Enclosed where
  literal h := enclosed_plain (literal_plain h).1 (literal_plain h).2
  ident _ := enclosed_single rfl
  parens h := enclosed_parens h
  infixed op _ _ hl hr := enclosed_infixed (operator_isPlain op) hl hr
  call _ h := enclosed_call _ h
  cast _ _ h := enclosed_castAs _ h
  numeric h := enclosed_castAs _ h
  aggregated hv hs hf := enclosed_aggregated _ hv hs _ hf

end Tokens

end TypedSql
