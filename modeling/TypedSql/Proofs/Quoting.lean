import TypedSql.Proofs.Statements

namespace TypedSql

variable {d : Dialect} {pretty : Bool} {t : Token} {ts : Tokens}

namespace Token

/-- The content of a token that stands in quotes, which may be any text. -/
def content? : Token → Option (Quoted × List Char)
  | ident n => some (.ident, n.toList)
  | string s => some (.string, s.toList)
  | _ => none

theorem render_content {k : Quoted} {s : List Char} (h : t.content? = some (k, s)) :
    t.render d = .ok (String.ofList (d.quote k s)) := by
  cases t with
  | ident | string =>
    cases h
    rfl
  | _ => cases h

theorem content_of_parts (h : t.parts) : t.content? = none := by
  cases t with
  | symbol | gap => rfl
  | _ => cases h

theorem unquoted_render (ht : t.Emitted d pretty) (hc : t.content? = none) {s : String}
    (hs : t.render d = .ok s) : Unquoted s.toList := by
  cases t with
  | ident | string => cases hc
  | keyword k =>
    cases hs
    cases k <;> decide
  | symbol s =>
    cases hs
    cases s <;> decide
  | gap g =>
    cases hs
    cases g with
    | space | newline => decide
    | indent n =>
      intro c hc
      rw [Gap.text, String.toList_join] at hc
      obtain ⟨s, hs, hc⟩ := List.mem_flatMap.mp hc
      rw [List.eq_of_mem_replicate hs] at hc
      exact (by decide : Unquoted "  ".toList) c hc
  | integer n =>
    cases hs
    exact unquoted_int n.toInt
  | real x =>
    simp only [render, Binary64.sqlText?] at hs
    split at hs
    · rename_i s hx
      cases hs
      split at hx
      · cases hx
        rw [String.toList_ofList]
        exact Binary64.unquoted_write _ x
      · cases hx
    · cases hs
  | boolean b =>
    cases hs
    cases b <;> cases d <;> decide
  | null =>
    cases hs
    exact show Unquoted "NULL".toList by decide
  | function f =>
    cases hs
    exact unquoted_functionText d ht
  | typeName n =>
    cases hs
    rcases ht with rfl | ⟨t, rfl⟩
    · exact (by decide : Unquoted "NUMERIC".toList)
    · exact unquoted_typeName d t

/-- The characters of gaps and marks. -/
def separators : List Char := [',', '*', '(', ')', '+', '-', '/', '=', ' ', '\n']

/-- Text of nothing but those characters. -/
def OnlySeparators (s : List Char) : Prop := ∀ c ∈ s, c ∈ separators

instance (s : List Char) : Decidable (OnlySeparators s) :=
  List.decidableBAll (fun c => c ∈ separators) s

theorem parts_render (ht : t.parts) {s : String} (hs : t.render d = .ok s) :
    s.toList ≠ [] ∧ OnlySeparators s.toList := by
  cases t with
  | symbol s =>
    cases hs
    cases s with
    | comma | star | lparen | rparen => decide
    | _ => cases ht
  | gap g =>
    cases hs
    cases g with
    | space | newline => decide
    | indent n =>
      have hn : n ≠ 0 := by simpa [parts] using ht
      obtain ⟨m, rfl⟩ := Nat.exists_eq_succ_of_ne_zero hn
      rw [Gap.text, String.toList_join]
      refine ⟨by simp [List.replicate_succ], fun c hc => ?_⟩
      obtain ⟨s, hs, hc⟩ := List.mem_flatMap.mp hc
      rw [List.eq_of_mem_replicate hs] at hc
      exact (by decide : OnlySeparators "  ".toList) c hc
  | _ => cases ht

/-- What a reader is to make of a token. -/
def pieces (d : Dialect) (t : Token) : Except Error (List Piece) :=
  match t.content? with
  | some (k, s) => .ok [.quoted k s]
  | none => do return (← t.render d).toList.map .plain

/-- Text that does not go on with what stands before it. -/
def Breaks (rest : List Char) : Prop := ∀ c ∈ rest.head?, c ∈ separators

theorem Breaks.ne {rest : List Char} (h : Breaks rest) {c : Char} (hc : c ∉ separators) :
    rest.head? ≠ some c := fun heq => hc (h c heq)

theorem close_not_separator (d : Dialect) (k : Quoted) : d.quoting.close k ∉ separators := by
  cases k <;> cases d <;> decide

/-- A token is read as it was written if no word runs into it or the text behind it breaks. -/
theorem scan_token (ht : t.Emitted d pretty) {s : String} (hs : t.render d = .ok s)
    {rest : List Char} (hrest : t.parts ∨ Breaks rest) :
    ∃ ps, t.pieces d = .ok ps ∧
      scan d.quoting .outside (s.toList ++ rest) =
        (scan d.quoting .outside rest).map (ps ++ ·) := by
  cases hc : t.content? with
  | some q =>
    obtain ⟨k, content⟩ := q
    have hbreaks : Breaks rest := by
      refine hrest.resolve_left fun h => ?_
      rw [content_of_parts h] at hc
      cases hc
    rw [render_content hc] at hs
    cases hs
    refine ⟨[.quoted k content], by rw [pieces, hc], ?_⟩
    rw [String.toList_ofList, scan_quoted (hbreaks.ne (close_not_separator d k))]
    rfl
  | none =>
    refine ⟨s.toList.map .plain, by rw [pieces, hc, hs]; rfl, ?_⟩
    refine scan_plain (unquoted_render ht hc hs) fun hlast => ?_
    rcases hrest with h | h
    · have hn := (parts_render h hs).2 'N' (List.mem_of_getLast? hlast)
      exact absurd hn (by decide)
    · exact h.ne (close_not_separator d .string)

end Token

def Tokens.pieces (d : Dialect) (ts : Tokens) : Except Error (List Piece) := do
  return (← ts.mapM (Token.pieces d)).flatten

open Token

/-- The tokens of a statement are read back from their text. -/
theorem scan_assembled {ss : List String} (hts : Assembled d pretty ts)
    (h : List.Forall₂ (fun t s => t.render d = .ok s) ts ss) :
    ∃ pss, ts.mapM (Token.pieces d) = .ok pss ∧
      scan d.quoting .outside (String.join ss).toList = some pss.flatten := by
  induction h with
  | nil => exact ⟨[], rfl, rfl⟩
  | @cons t s ts ss hs hss ih =>
    obtain ⟨hhead, hchain⟩ := List.isChain_cons.mp hts.parted
    have htail : Assembled d pretty ts :=
      ⟨hchain, fun u hu => hts.emitted u (List.mem_cons_of_mem _ hu)⟩
    have hrest : t.parts ∨ Breaks (String.join ss).toList := by
      cases hss with
      | nil => exact .inr nofun
      | @cons u r us rs hr hrs =>
        refine (hhead u rfl).imp_right fun hu c hc => ?_
        obtain ⟨hne, hmem⟩ := parts_render hu hr
        rw [String.join_cons, String.toList_append, List.head?_append_of_ne_nil _ hne] at hc
        exact hmem c (List.mem_of_head? hc)
    obtain ⟨ps, hps, hscan⟩ := scan_token (hts.emitted t List.mem_cons_self) hs hrest
    obtain ⟨pss, hpss, htext⟩ := ih htail
    refine ⟨ps :: pss, ?_, ?_⟩
    · rw [List.mapM_cons, hps, hpss]
      rfl
    · rw [String.join_cons, String.toList_append, hscan, htext]
      rfl

theorem scan_render {sql : String} (hts : Assembled d pretty ts)
    (h : Tokens.render d ts = .ok sql) :
    ∃ ps, Tokens.pieces d ts = .ok ps ∧ scan d.quoting .outside sql.toList = some ps := by
  obtain ⟨ss, hss, hsql⟩ := bind_eq_ok.mp h
  cases hsql
  obtain ⟨pss, hpss, hscan⟩ := scan_assembled hts (mapM_eq_ok.mp hss)
  exact ⟨pss.flatten, by rw [Tokens.pieces, hpss]; rfl, hscan⟩

/-- The token with the free content left out. -/
def Token.blank : Token → Token
  | ident _ => ident ""
  | string _ => string ""
  | t => t

namespace Piece

def blank : Piece → Piece
  | quoted k _ => quoted k []
  | plain c => plain c

def content? : Piece → Option (Quoted × List Char)
  | quoted k s => some (k, s)
  | plain _ => none

end Piece

theorem blank_of_content {k : Quoted} {s : List Char} (h : t.content? = some (k, s)) :
    t.blank.content? = some (k, []) := by
  cases t with
  | ident | string =>
    cases h
    rfl
  | _ => cases h

theorem blank_of_no_content (h : t.content? = none) : t.blank = t := by
  cases t with
  | ident | string => cases h
  | _ => rfl

theorem pieces_blank (d : Dialect) (t : Token) :
    t.blank.pieces d = (t.pieces d).map (List.map Piece.blank) := by
  cases hc : t.content? with
  | some q =>
    rw [Token.pieces, Token.pieces, blank_of_content hc, hc]
    rfl
  | none =>
    rw [blank_of_no_content hc, Token.pieces, hc]
    cases t.render d with
    | error x => rfl
    | ok s => simp [Except.map, Piece.blank, Function.comp_def]

theorem tokens_pieces_cons (d : Dialect) (t : Token) (ts : Tokens) :
    Tokens.pieces d (t :: ts) = (do
      let ps ← t.pieces d
      return ps ++ (← Tokens.pieces d ts)) := by
  rw [Tokens.pieces, List.mapM_cons]
  cases t.pieces d with
  | error x => rfl
  | ok ps =>
    rw [Tokens.pieces]
    cases ts.mapM (Token.pieces d) <;> rfl

/-- What is read outside quotes does not depend on the contents. -/
theorem tokens_pieces_blank (d : Dialect) (ts : Tokens) :
    Tokens.pieces d (ts.map Token.blank) =
      (Tokens.pieces d ts).map (List.map Piece.blank) := by
  induction ts with
  | nil => rfl
  | cons t ts ih =>
    rw [List.map_cons, tokens_pieces_cons, tokens_pieces_cons, pieces_blank, ih]
    cases t.pieces d with
    | error x => rfl
    | ok ps =>
      cases Tokens.pieces d ts with
      | error x => rfl
      | ok qs => simp [Except.map]

theorem pieces_content {ps : List Piece} (h : t.pieces d = .ok ps) :
    ps.filterMap Piece.content? = t.content?.toList := by
  rw [Token.pieces] at h
  cases hc : t.content? with
  | some q =>
    rw [hc] at h
    cases h
    rfl
  | none =>
    rw [hc] at h
    obtain ⟨s, -, h⟩ := bind_eq_ok.mp h
    cases h
    simp [Piece.content?]

/-- What is read inside quotes are the contents in their order. -/
theorem tokens_pieces_content {ts : Tokens} {ps : List Piece} (h : Tokens.pieces d ts = .ok ps) :
    ps.filterMap Piece.content? = ts.filterMap Token.content? := by
  induction ts generalizing ps with
  | nil =>
    cases h
    rfl
  | cons t ts ih =>
    rw [tokens_pieces_cons] at h
    obtain ⟨qs, hq, h⟩ := bind_eq_ok.mp h
    obtain ⟨rs, hr, h⟩ := bind_eq_ok.mp h
    cases h
    rw [List.filterMap_append, pieces_content hq, ih hr]
    cases hc : t.content? <;> simp [hc]

/-- No content breaks out of its quotes. Read by the rules of its dialect, the text of a target is
made of its tokens, each identifier and string with its content; what is outside quotes is the same
for tokens without content. -/
theorem compiled_text_reads_back {o : CompileOptions} {target : Target} {sql : String}
    (h : target.compile o = .ok sql) :
    ∃ q ts ps, target.query o.dialect = .ok q ∧
      ts = { q with pretty := o.pretty }.tokens ∧
      Tokens.pieces o.dialect ts = .ok ps ∧
      scan o.dialect.quoting .outside sql.toList = some ps ∧
      ps.filterMap Piece.content? = ts.filterMap Token.content? ∧
      Tokens.pieces o.dialect (ts.map Token.blank) = .ok (ps.map Piece.blank) := by
  obtain ⟨q, hq, hsql⟩ := bind_eq_ok.mp h
  obtain ⟨ps, hps, hscan⟩ := scan_render (assembled_target hq o.pretty) hsql
  have hblank := tokens_pieces_blank o.dialect { q with pretty := o.pretty }.tokens
  rw [hps] at hblank
  exact ⟨q, _, ps, hq, rfl, hps, hscan, tokens_pieces_content hps, hblank⟩

/-- Quotes in a string and in its name; on T-SQL beside a bracket and a letter beyond ASCII. -/
theorem quote_in_string_reads_back :
    (Target.compile ⟨.duckdb, false⟩ (.expr (.ofLiteral (.string "it's"))) =
        .ok "SELECT 'it''s' AS \"\"\"it's\"\"\"" ∧
      scan Dialect.duckdb.quoting .outside "SELECT 'it''s' AS \"\"\"it's\"\"\"".toList =
        some ("SELECT ".toList.map .plain ++ [.quoted .string "it's".toList] ++
          " AS ".toList.map .plain ++ [.quoted .ident "\"it's\"".toList])) ∧
    Target.compile ⟨.mssql, false⟩ (.expr (.ofLiteral (.string "d'é]"))) =
        .ok "SELECT N'd''é]' AS [\"d'é]]\"]" ∧
      scan Dialect.mssql.quoting .outside "SELECT N'd''é]' AS [\"d'é]]\"]".toList =
        some ("SELECT ".toList.map .plain ++ [.quoted .string "d'é]".toList] ++
          " AS ".toList.map .plain ++ [.quoted .ident "\"d'é]\"".toList]) := by
  have hdoubled : Target.compile ⟨.duckdb, false⟩ (.expr (.ofLiteral (.string "it's"))) =
      .ok "SELECT 'it''s' AS \"\"\"it's\"\"\"" := by rfl
  have hmarked : Target.compile ⟨.mssql, false⟩ (.expr (.ofLiteral (.string "d'é]"))) =
      .ok "SELECT N'd''é]' AS [\"d'é]]\"]" := by rfl
  refine ⟨⟨hdoubled, ?_⟩, hmarked, ?_⟩
  · obtain ⟨q, ts, ps, hq, rfl, hps, hscan, -⟩ := compiled_text_reads_back hdoubled
    cases hq
    cases hps
    exact hscan
  · obtain ⟨q, ts, ps, hq, rfl, hps, hscan, -⟩ := compiled_text_reads_back hmarked
    cases hq
    cases hps
    exact hscan

end TypedSql
