import TypedSql.Proofs.Failures
import TypedSql.Proofs.Quoting

namespace TypedSql

namespace Token

def isGap : Token → Bool
  | gap _ => true
  | _ => false

/-- Keywords, names and constants. -/
def isWord : Token → Bool
  | symbol _ | gap _ => false
  | _ => true

variable {d : Dialect} {t : Token}

theorem parts_of_isWord (h : t.isWord) : t.parts = false := by
  cases t with
  | symbol | gap => cases h
  | _ => rfl

/-- Gaps and punctuation marks have a text in every dialect, of no character that words have. -/
theorem render_of_parts (d : Dialect) (h : t.parts) :
    ∃ s, t.render d = .ok s ∧ s.toList ≠ [] ∧ OnlySeparators s.toList := by
  obtain ⟨s, hs⟩ : ∃ s, t.render d = .ok s := by
    cases t with
    | symbol | gap => exact ⟨_, rfl⟩
    | _ => cases h
  exact ⟨s, hs, parts_render h hs⟩

end Token

/-- The tokens without the gaps. -/
def Tokens.bare (ts : Tokens) : Tokens := ts.filter fun t => !t.isGap

/-- Wherever two words stand, there is a gap or a punctuation mark between them. -/
def WordsApart (ts : Tokens) : Prop :=
  ∀ before a between b after, ts = before ++ a :: between ++ b :: after → a.isWord → b.isWord →
    ∃ t ∈ between, t.parts

variable {d : Dialect} {pretty : Bool} {ts ss : Tokens}

/-- What stands right behind a word is no word. -/
theorem Parted.wordsApart (h : Parted ts) : WordsApart ts := by
  rintro before a between b after rfl ha hb
  have hadjacent := List.isChain_iff_forall_rel_of_append_cons_cons.mp h
  have hbehind : ∀ t rest, before ++ a :: between ++ b :: after = before ++ a :: t :: rest →
      t.parts := by
    intro t rest heq
    exact (hadjacent heq).resolve_left (by simp [Token.parts_of_isWord ha])
  cases between with
  | nil =>
    have hparts := hbehind b after (by simp)
    rw [Token.parts_of_isWord hb] at hparts
    cases hparts
  | cons t between => exact ⟨t, List.mem_cons_self, hbehind t (between ++ b :: after) (by simp)⟩

namespace Tokens

theorem bare_append (ts ss : Tokens) : bare (ts ++ ss) = bare ts ++ bare ss :=
  List.filter_append ts ss

theorem bare_intercalate (items : List Tokens) :
    bare (List.intercalate [.symbol .comma] items) =
      List.intercalate [.symbol .comma] (items.map bare) := by
  induction items with
  | nil => rfl
  | cons ts items ih =>
    cases items with
    | nil => simp
    | cons ss items =>
      simp only [List.intercalate_cons_cons, List.map_cons, bare_append, ih]
      rfl

end Tokens

open Tokens

theorem bare_withAlias (i : SelectItem) :
    bare i.withAlias = bare i.tokens ++ i.aliasName.elim [] fun a => [.keyword .AS, .ident a] := by
  rw [SelectItem.withAlias, bare_append]
  cases i.aliasName <;> rfl

namespace Query

theorem bare_itemGap (pretty : Bool) : bare (itemGap pretty) = [] := by
  cases pretty <;> rfl

theorem bare_fromClause (q : Query) :
    bare q.fromClause = q.source.elim [] fun table => [.keyword .FROM, .ident table] := by
  unfold fromClause
  cases q.source with
  | none => rfl
  | some table => cases q.pretty <;> rfl

/-- Without gaps, a query is its items with a comma between any two, and its table. -/
theorem bare_tokens (q : Query) :
    bare q.tokens =
      .keyword .SELECT :: List.intercalate [.symbol .comma] (q.select.map fun i =>
        bare i.tokens ++ i.aliasName.elim [] fun a => [.keyword .AS, .ident a]) ++
      q.source.elim [] fun table => [.keyword .FROM, .ident table] := by
  have hitems : q.items.map bare = q.select.map fun i =>
      bare i.tokens ++ i.aliasName.elim [] fun a => [.keyword .AS, .ident a] := by
    rw [items, List.map_map]
    refine List.map_congr_left fun i _ => ?_
    rw [Function.comp_apply, bare_append, bare_itemGap, List.nil_append, bare_withAlias]
  rw [← hitems, ← bare_intercalate, ← bare_fromClause, tokens, bare_append]
  rfl

end Query

/-- In the compact layout no line is broken. -/
theorem Assembled.oneLine (h : Assembled d false ts) :
    ∀ t ∈ ts, t ≠ .gap .newline ∧ ∀ n, t ≠ .gap (.indent n) := by
  intro t ht
  have hemitted := h.emitted t ht
  constructor
  · rintro rfl
    cases hemitted
  · rintro n rfl
    cases hemitted.1

/-- A target has a query, or the same error in either layout. -/
theorem query_or_error (d : Dialect) (target : Target) :
    (∃ x, ∀ pretty, target.compile { dialect := d, pretty } = .error x) ∨
      ∃ q, target.query d = .ok q ∧ ∀ pretty, ∃ sql,
        target.compile { dialect := d, pretty } = .ok sql ∧
          { q with pretty }.tokens.render d = .ok sql := by
  cases hq : target.query d with
  | error x =>
    refine .inl ⟨x, fun pretty => ?_⟩
    rw [Target.compile, hq]
    rfl
  | ok q =>
    refine .inr ⟨q, rfl, fun pretty => ?_⟩
    obtain ⟨sql, hsql⟩ := render_of_finite d (assembled_target hq pretty).finite
    exact ⟨sql, bind_eq_ok.mpr ⟨q, hq, hsql⟩, hsql⟩

/-- The layout makes no difference to a statement: to the tokens that are no gaps, to whether there
is one, and to words being apart. -/
theorem layout_keeps_statement :
    (∀ (q : Query) (pretty : Bool), bare { q with pretty }.tokens =
      .keyword .SELECT :: List.intercalate [.symbol .comma] (q.select.map fun i =>
        bare i.tokens ++ i.aliasName.elim [] fun a => [.keyword .AS, .ident a]) ++
      q.source.elim [] fun table => [.keyword .FROM, .ident table]) ∧
    (∀ (d : Dialect) (target : Target),
      (∃ x, ∀ pretty, target.compile { dialect := d, pretty } = .error x) ∨
      ∃ q, target.query d = .ok q ∧
        (∀ pretty, ∃ sql, target.compile { dialect := d, pretty } = .ok sql ∧
          { q with pretty }.tokens.render d = .ok sql ∧ WordsApart { q with pretty }.tokens) ∧
        ∀ t ∈ { q with pretty := false }.tokens, t ≠ .gap .newline ∧ ∀ n, t ≠ .gap (.indent n)) ∧
    ∀ (d : Dialect) (t : Token), t.parts →
      ∃ s, t.render d = .ok s ∧ s.toList ≠ [] ∧ Token.OnlySeparators s.toList := by
  refine ⟨fun q pretty => Query.bare_tokens { q with pretty }, fun d target => ?_,
    fun d t => Token.render_of_parts d⟩
  refine (query_or_error d target).imp_right fun ⟨q, hq, hcompile⟩ => ⟨q, hq, fun pretty => ?_, ?_⟩
  · obtain ⟨sql, hsql, htext⟩ := hcompile pretty
    exact ⟨sql, hsql, htext, (assembled_target hq pretty).parted.wordsApart⟩
  · exact (assembled_target hq false).oneLine

/-- The name of the type is one word token, though its text has two words. -/
def preciseAge : Expr :=
  ⟨.cast (.floating .double), [some (.ofColumn people ⟨"age", .integer .w32⟩)], .floating .double,
    .column⟩

theorem preciseAge_layouts :
    (∃ q, (Target.expr preciseAge).query .postgres = .ok q ∧
      (∀ pretty, ∃ sql,
        (Target.expr preciseAge).compile { dialect := .postgres, pretty } = .ok sql ∧
          { q with pretty }.tokens.render .postgres = .ok sql ∧
          WordsApart { q with pretty }.tokens) ∧
      bare { q with pretty := true }.tokens = bare { q with pretty := false }.tokens) ∧
    ∃ s, (Token.symbol .comma).render .postgres = .ok s ∧ s.toList ≠ [] ∧
      Token.OnlySeparators s.toList := by
  obtain ⟨hbare, htarget, hparts⟩ := layout_keeps_statement
  refine ⟨?_, hparts .postgres (.symbol .comma) rfl⟩
  rcases htarget .postgres (.expr preciseAge) with ⟨x, hx⟩ | ⟨q, hq, hcompile, -⟩
  · obtain ⟨q, hq⟩ : ∃ q, preciseAge.query .postgres = .ok q := ⟨_, rfl⟩
    rw [compile_eq_error.mp (hx true)] at hq
    cases hq
  · exact ⟨q, hq, hcompile, (hbare q true).trans (hbare q false).symm⟩

end TypedSql
