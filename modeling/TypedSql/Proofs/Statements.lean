import Mathlib.Data.List.Chain
import TypedSql.Proofs.Invariants

namespace TypedSql

namespace Token

/-- Gaps and punctuation marks, which no word runs into. -/
def parts : Token → Bool
  | symbol .comma | symbol .star | symbol .lparen | symbol .rparen => true
  | gap .space | gap .newline => true
  | gap (.indent n) => n ≠ 0
  | _ => false

/-- Tokens that a compiled statement can have. Lines are broken in one of the layouts alone. -/
def Emitted (d : Dialect) (pretty : Bool) : Token → Prop
  | gap .newline => pretty
  | gap (.indent n) => pretty ∧ n ≠ 0
  | real x => x.isFinite
  | function f => f ∈ functionNames
  | typeName n => n = "NUMERIC" ∨ ∃ t, n = d.typeName t
  | _ => True

end Token

/-- Of two tokens side by side, one at least is a gap or a punctuation mark. -/
def Parted (ts : Tokens) : Prop := ts.IsChain fun a b => a.parts ∨ b.parts

/-- What holds of the tokens of every statement. -/
structure Assembled (d : Dialect) (pretty : Bool) (ts : Tokens) : Prop where
  parted : Parted ts
  emitted : ∀ t ∈ ts, t.Emitted d pretty

variable {d : Dialect} {pretty : Bool} {t w : Token} {ts ss : List Token}

theorem parted_cut (ht : t.parts) : Parted (ts ++ t :: ss) ↔ Parted ts ∧ Parted ss := by
  have hhead : ∀ b : Token, t.parts ∨ b.parts := fun b => .inl ht
  unfold Parted
  rw [List.isChain_append, List.isChain_cons]
  refine and_congr_right fun _ => ⟨fun h => h.1.2, fun h => ⟨⟨fun b _ => hhead b, h⟩, ?_⟩⟩
  intro a _ b hb
  cases hb
  exact .inr ht

/-- At a gap or a punctuation mark, both sides can be looked at on their own. -/
theorem assembled_cut (ht : t.parts) (he : t.Emitted d pretty) :
    Assembled d pretty (ts ++ t :: ss) ↔ Assembled d pretty ts ∧ Assembled d pretty ss := by
  constructor
  · intro h
    have hp := (parted_cut ht).mp h.parted
    refine ⟨⟨hp.1, fun a ha => h.emitted a ?_⟩, ⟨hp.2, fun a ha => h.emitted a ?_⟩⟩
    · exact List.mem_append_left _ ha
    · exact List.mem_append_right _ (List.mem_cons_of_mem _ ha)
  · rintro ⟨hl, hr⟩
    refine ⟨(parted_cut ht).mpr ⟨hl.parted, hr.parted⟩, fun a ha => ?_⟩
    rcases List.mem_append.mp ha with ha | ha
    · exact hl.emitted a ha
    · rcases List.mem_cons.mp ha with rfl | ha
      · exact he
      · exact hr.emitted a ha

theorem assembled_nil (d : Dialect) (pretty : Bool) : Assembled d pretty [] := ⟨.nil, by simp⟩

theorem assembled_single : Assembled d pretty [t] ↔ t.Emitted d pretty :=
  ⟨fun h => h.emitted t List.mem_cons_self, fun h => ⟨.singleton t, by simpa using h⟩⟩

theorem assembled_cons (ht : t.parts) (he : t.Emitted d pretty) :
    Assembled d pretty (t :: ts) ↔ Assembled d pretty ts := by
  have h : Assembled d pretty ([] ++ t :: ts) ↔ Assembled d pretty [] ∧ Assembled d pretty ts :=
    assembled_cut ht he
  simpa only [List.nil_append, assembled_nil, true_and] using h

/-- A word before a gap or a punctuation mark. -/
theorem assembled_word (ht : t.parts) (he : t.Emitted d pretty) (hw : w.Emitted d pretty) :
    Assembled d pretty (w :: t :: ts) ↔ Assembled d pretty ts := by
  have h : Assembled d pretty ([w] ++ t :: ts) ↔ Assembled d pretty [w] ∧ Assembled d pretty ts :=
    assembled_cut ht he
  simpa only [List.singleton_append, assembled_single, hw, true_and] using h

theorem emitted_symbol (s : Symbol) : (Token.symbol s).Emitted d pretty := trivial

open Tokens

theorem assembled_space :
    Assembled d pretty (ts ++ space :: ss) ↔ Assembled d pretty ts ∧ Assembled d pretty ss :=
  assembled_cut rfl trivial

/-- A word before a space. -/
theorem assembled_word_space (hw : w.Emitted d pretty) :
    Assembled d pretty (w :: space :: ts) ↔ Assembled d pretty ts :=
  assembled_word rfl trivial hw

theorem assembled_keyword {k : Keyword} :
    Assembled d pretty (.keyword k :: space :: ts) ↔ Assembled d pretty ts :=
  assembled_word_space trivial

theorem assembled_parens : Assembled d pretty (parens ts) ↔ Assembled d pretty ts := by
  rw [parens, List.cons_append, assembled_cons rfl (emitted_symbol _),
    assembled_cut rfl (emitted_symbol _), and_iff_left (assembled_nil d pretty)]

/-- A word before parentheses. -/
theorem assembled_word_parens (hw : w.Emitted d pretty) :
    Assembled d pretty (w :: parens ts) ↔ Assembled d pretty ts := by
  have h : Assembled d pretty (parens ts) ↔ Assembled d pretty ts := assembled_parens
  rw [parens, List.cons_append, assembled_cons rfl (emitted_symbol _)] at h
  rw [parens, List.cons_append, assembled_word rfl (emitted_symbol _) hw, h]

/-- Items with a comma between any two, and with gaps behind the comma. -/
theorem assembled_intercalate {gaps : List Token} {items : List (List Token)}
    (hgaps : ∀ ts, Assembled d pretty (gaps ++ ts) ↔ Assembled d pretty ts)
    (h : ∀ ts ∈ items, Assembled d pretty ts) :
    Assembled d pretty (List.intercalate (.symbol .comma :: gaps) items) := by
  induction items with
  | nil => exact assembled_nil d pretty
  | cons ts items ih =>
    have hts := h ts List.mem_cons_self
    have hitems := ih fun ss hs => h ss (List.mem_cons_of_mem _ hs)
    cases items with
    | nil => simpa using hts
    | cons ss items =>
      rw [List.intercalate_cons_cons, List.append_assoc, List.cons_append,
        assembled_cut rfl (emitted_symbol _), hgaps]
      exact ⟨hts, hitems⟩

theorem assembled_list {items : List (List Token)} (h : ∀ ts ∈ items, Assembled d pretty ts) :
    Assembled d pretty (list items) :=
  assembled_intercalate (fun _ => assembled_cons rfl trivial) h

theorem assembled_call {f : String} {items : List (List Token)} (hf : f ∈ functionNames)
    (h : ∀ ts ∈ items, Assembled d pretty ts) : Assembled d pretty (call f items) :=
  have hword : (Token.function f).Emitted d pretty := hf
  (assembled_word_parens hword).mpr (assembled_list h)

theorem assembled_castAs {n : String} (hn : (Token.typeName n).Emitted d pretty)
    (h : Assembled d pretty ts) : Assembled d pretty (castAs n ts) := by
  have hp : Assembled d pretty (ts ++ [space, .keyword .AS, space, .typeName n]) := by
    rw [assembled_space, assembled_keyword, assembled_single]
    exact ⟨h, hn⟩
  have hcast : (Token.keyword .CAST).Emitted d pretty := trivial
  rw [castAs, assembled_word_parens hcast]
  exact hp

theorem assembled_whenTrue (hc : Assembled d pretty ts) (hv : Assembled d pretty ss) :
    Assembled d pretty (whenTrue ts ss) := by
  have hwhen : Assembled d pretty (.keyword .CASE :: space :: .keyword .WHEN :: space :: ts) :=
    assembled_keyword.mpr (assembled_keyword.mpr hc)
  have hthen : Assembled d pretty (.keyword .THEN :: space :: ss) := assembled_keyword.mpr hv
  have hend : Assembled d pretty [.keyword .END] := assembled_single.mpr trivial
  have hnull : Token.null.Emitted d pretty := trivial
  have helse : Assembled d pretty [.keyword .ELSE, space, .null, space, .keyword .END] :=
    assembled_keyword.mpr ((assembled_word_space hnull).mpr hend)
  rw [whenTrue, assembled_space, List.append_assoc]
  exact ⟨assembled_space.mpr ⟨hwhen, hthen⟩, helse⟩

theorem assembled_filterClause (h : Assembled d pretty ss) :
    Assembled d pretty (ts ++ filterClause ss) ↔ Assembled d pretty ts := by
  have hwhere : Assembled d pretty (.keyword .WHERE :: space :: ss) := assembled_keyword.mpr h
  have hc : Assembled d pretty
      (.keyword .FILTER :: space :: parens (.keyword .WHERE :: space :: ss)) :=
    assembled_keyword.mpr (assembled_parens.mpr hwhere)
  exact assembled_space.trans (and_iff_left hc)

theorem assembled_infixed (op : Symbol) (hl : Assembled d pretty ts) (hr : Assembled d pretty ss) :
    Assembled d pretty (infixed op ts ss) := by
  have hop : (Token.symbol op).Emitted d pretty := trivial
  have hright : Assembled d pretty (.symbol op :: space :: ss) := (assembled_word_space hop).mpr hr
  rw [infixed, List.append_assoc]
  exact assembled_space.mpr ⟨hl, hright⟩

open Compile

theorem assembled_castTo (t : SqlType) (h : Assembled d pretty ts) :
    Assembled d pretty (castTo d t ts) :=
  assembled_castAs (.inr ⟨t, rfl⟩) h

/-- The function that is given the values of many rows. -/
def AggregateStyle.name : AggregateStyle → String
  | function f | separatorKeyword f | joined f => f

theorem assembled_stringAgg (hv : Assembled d pretty ts) (hs : Assembled d pretty ss) :
    Assembled d pretty (d.stringAgg ts ss) := by
  have hname : d.rules.aggregate.name ∈ functionNames := by cases d <;> decide
  unfold Dialect.stringAgg
  cases hstyle : d.rules.aggregate with
  | function f =>
    rw [hstyle] at hname
    exact assembled_call hname (by simp [hv, hs])
  | separatorKeyword f =>
    rw [hstyle] at hname
    have hkeyword : Assembled d pretty (.keyword .SEPARATOR :: space :: ss) :=
      assembled_keyword.mpr hs
    have hword : (Token.function f).Emitted d pretty := hname
    refine (assembled_word_parens hword).mpr ?_
    rw [List.append_assoc]
    exact assembled_space.mpr ⟨hv, hkeyword⟩
  | joined f =>
    rw [hstyle] at hname
    have hcollect : Assembled d pretty (call f [ts]) := assembled_call hname (by simp [hv])
    exact assembled_call (by decide) (by simp [hcollect, hs])

theorem assembled_condition (h : Assembled d pretty ts) : Assembled d pretty (d.condition ts) := by
  unfold Dialect.condition
  split
  · exact assembled_infixed .equals h (assembled_single.mpr trivial)
  · exact h

theorem assembled_aggregated (hv : Assembled d pretty ts) (hs : Assembled d pretty ss)
    (f : Option Tokens) (hf : ∀ cs ∈ f, Assembled d pretty cs) :
    Assembled d pretty (aggregated d ts ss f) := by
  cases f with
  | none => exact assembled_stringAgg hv hs
  | some cs =>
    have hc := assembled_condition (hf cs rfl)
    simp only [aggregated]
    split
    · exact (assembled_filterClause hc).mpr (assembled_stringAgg hv hs)
    · exact assembled_stringAgg (assembled_whenTrue hc hv) hs

/-- Constants that are not finite have no tokens. -/
theorem assembled_literal {v : Literal} (h : literal v = .ok ts) : Assembled d pretty ts := by
  cases v with
  | real x =>
    simp only [literal] at h
    split at h
    · rename_i hx
      cases h
      exact assembled_single.mpr hx
    · cases h
  | _ =>
    cases h
    exact assembled_single.mpr trivial

theorem assembled_inherited (d : Dialect) (pretty : Bool) : Inherited d (Assembled d pretty) where
  literal := assembled_literal
  ident _ := assembled_single.mpr trivial
  parens h := assembled_parens.mpr h
  infixed op _ _ hl hr := assembled_infixed (operator op) hl hr
  call hf h := assembled_call hf h
  cast t _ h := assembled_castTo t h
  numeric h := assembled_castAs (.inl rfl) h
  aggregated hv hs hf := assembled_aggregated hv hs _ hf

theorem assembled_withAlias {i : SelectItem} (h : Assembled d pretty i.tokens) :
    Assembled d pretty i.withAlias := by
  unfold SelectItem.withAlias
  cases i.aliasName with
  | none => simpa using h
  | some a =>
    have halias : Assembled d pretty [.keyword .AS, space, .ident a] :=
      assembled_keyword.mpr (assembled_single.mpr trivial)
    exact assembled_space.mpr ⟨h, halias⟩

namespace Query

theorem clauseGap_parts (pretty : Bool) :
    ∃ t, clauseGap pretty = [t] ∧ t.parts ∧ ∀ d, t.Emitted d pretty := by
  cases pretty
  · exact ⟨_, rfl, rfl, fun _ => trivial⟩
  · exact ⟨_, rfl, rfl, fun _ => rfl⟩

theorem assembled_fromClause {q : Query} :
    Assembled d q.pretty (ts ++ q.fromClause) ↔ Assembled d q.pretty ts := by
  obtain ⟨t, hgap, ht, he⟩ := clauseGap_parts q.pretty
  unfold fromClause
  cases q.source with
  | none => simp
  | some table =>
    have htable : Assembled d q.pretty [.keyword .FROM, space, .ident table] :=
      assembled_keyword.mpr (assembled_single.mpr trivial)
    simp only [Option.elim_some, hgap, List.singleton_append]
    exact (assembled_cut ht (he d)).trans (and_iff_left htable)

theorem assembled_item {i : SelectItem} (h : Assembled d pretty i.tokens) :
    Assembled d pretty (itemGap pretty ++ i.withAlias) := by
  have hi := assembled_withAlias h
  cases pretty with
  | true =>
    have hnewline : (Token.gap .newline).Emitted d true := rfl
    have hindent : (Token.gap (.indent 1)).Emitted d true := ⟨rfl, by decide⟩
    exact (assembled_cons rfl hnewline).mpr ((assembled_cons rfl hindent).mpr hi)
  | false =>
    have hspace : space.Emitted d false := trivial
    exact (assembled_cons rfl hspace).mpr hi

/-- A gap stands before the first item. -/
theorem assembled_select {q : Query}
    (h : Assembled d q.pretty (List.intercalate [.symbol .comma] q.items)) :
    Assembled d q.pretty (.keyword .SELECT :: List.intercalate [.symbol .comma] q.items) := by
  obtain ⟨t, hgap, ht, he⟩ := clauseGap_parts q.pretty
  have hselect : (Token.keyword .SELECT).Emitted d q.pretty := trivial
  unfold items at h ⊢
  cases hitems : q.select with
  | nil => exact assembled_single.mpr hselect
  | cons i is =>
    obtain ⟨rest, hrest⟩ : ∃ rest, List.intercalate [.symbol .comma]
        ((i :: is).map fun i => itemGap q.pretty ++ i.withAlias) = t :: rest := by
      simp only [itemGap, hgap, List.map_cons]
      cases is with
      | nil => exact ⟨_, rfl⟩
      | cons j js => exact ⟨_, rfl⟩
    rw [hitems, hrest] at h
    rw [hrest]
    exact (assembled_word ht (he d) hselect).mpr ((assembled_cons ht (he d)).mp h)

theorem assembled_query {q : Query} (h : ∀ i ∈ q.select, Assembled d q.pretty i.tokens) :
    Assembled d q.pretty q.tokens := by
  have hitems : ∀ ts ∈ q.items, Assembled d q.pretty ts := by
    intro ts hts
    obtain ⟨i, hi, rfl⟩ := List.mem_map.mp hts
    exact assembled_item (h i hi)
  exact assembled_fromClause.mpr
    (assembled_select (assembled_intercalate (fun _ => .rfl) hitems))

end Query

/-- The query of a target, in either layout. -/
theorem assembled_target {target : Target} {q : Query} (h : target.query d = .ok q)
    (pretty : Bool) : Assembled d pretty { q with pretty }.tokens := by
  refine Query.assembled_query (q := { q with pretty }) fun i hi => ?_
  cases target with
  | table t =>
    cases h
    cases List.mem_singleton.mp hi
    exact assembled_single.mpr trivial
  | expr e =>
    obtain ⟨-, ts, hts, hselect⟩ := Expr.query_eq_ok h
    rw [hselect] at hi
    cases List.mem_singleton.mp hi
    exact (assembled_inherited d pretty).tokens hts

/-- All doubles are finite. -/
def FiniteTokens (ts : Tokens) : Prop := ∀ y, Token.real y ∈ ts → y.isFinite

theorem Assembled.finite (h : Assembled d pretty ts) : FiniteTokens ts :=
  fun y hy => h.emitted (.real y) hy

/-- Finite tokens have a text in every dialect. -/
theorem render_of_finite (d : Dialect) (h : FiniteTokens ts) :
    ∃ sql, Tokens.render d ts = .ok sql := by
  have htokens : ∃ ss, ts.mapM (Token.render d) = .ok ss := by
    cases hr : ts.mapM (Token.render d) with
    | ok ss => exact ⟨ss, rfl⟩
    | error x =>
      obtain ⟨w, hw, hx⟩ := mapM_eq_error hr
      cases w with
      | real y =>
        have hy : y.isFinite = true := h y hw
        simp [Token.render, Binary64.sqlText?, hy] at hx
      | _ => cases hx
  obtain ⟨ss, hs⟩ := htokens
  exact ⟨String.join ss, bind_eq_ok.mpr ⟨ss, hs, rfl⟩⟩

end TypedSql
