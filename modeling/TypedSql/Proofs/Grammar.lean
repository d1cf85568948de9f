import TypedSql.Expr
import TypedSql.Token

namespace TypedSql

/-- What an SQL expression says, whatever parentheses it is written with. -/
inductive SqlTree
  | ident (name : String)
  | literal (value : Literal)
  | call (function : String) (args : List SqlTree)
  /-- A call with its second argument behind `SEPARATOR`. -/
  | separated (function : String) (value separator : SqlTree)
  /-- A call with a `FILTER` clause. -/
  | filtered (call condition : SqlTree)
  | cast (inner : SqlTree) (type : String)
  /-- `CASE WHEN condition THEN value ELSE otherwise END`. -/
  | choice (condition value otherwise : SqlTree)
  | infixed (op : Symbol) (left right : SqlTree)

/-- How tightly an operator binds. -/
def Symbol.precedence? : Symbol → Option Nat
  | equals => some 0
  | plus | minus => some 1
  | times | dividedBy => some 2
  | _ => none

/-- The level of expressions that no operator is part of. -/
def atomLevel : Nat := 3

theorem Symbol.precedence_lt {op : Symbol} {n : Nat} (h : op.precedence? = some n) :
    n < atomLevel := by
  cases op <;> simp_all [precedence?, atomLevel] <;> omega

def Token.precedence? : Token → Option Nat
  | symbol op => op.precedence?
  | _ => none

def Token.literal? : Token → Option Literal
  | integer n => some (.integer n)
  | real x => some (.real x)
  | string s => some (.string s)
  | boolean b => some (.boolean b)
  | null => some .null
  | _ => none

/-- What a list of tokens can be derived as. -/
inductive Phrase
  /-- An expression whose operators bind at least as tightly as the level says. -/
  | expr (level : Nat) (tree : SqlTree)
  /-- A function with its arguments. -/
  | application (tree : SqlTree)
  /-- One expression or more with commas between them. -/
  | args (trees : List SqlTree)

/-- The productions of the grammar. -/
inductive Derives : Phrase → Tokens → Prop
  | ident (n : String) : Derives (.expr atomLevel (.ident n)) [.ident n]
  | literal {t : Token} {v : Literal} (h : t.literal? = some v) :
      Derives (.expr atomLevel (.literal v)) [t]
  | parens {u : SqlTree} {ts : Tokens} (h : Derives (.expr 0 u) ts) :
      Derives (.expr atomLevel u) (Tokens.parens ts)
  | one {u : SqlTree} {ts : Tokens} (h : Derives (.expr 0 u) ts) : Derives (.args [u]) ts
  | more {u : SqlTree} {us : List SqlTree} {ts ss : Tokens} (h : Derives (.expr 0 u) ts)
      (hs : Derives (.args us) ss) : Derives (.args (u :: us)) (ts ++ .symbol .comma :: ss)
  | callNone (f : String) : Derives (.application (.call f [])) (.function f :: Tokens.parens [])
  | call (f : String) {us : List SqlTree} {ts : Tokens} (h : Derives (.args us) ts) :
      Derives (.application (.call f us)) (.function f :: Tokens.parens ts)
  | separated (f : String) {u v : SqlTree} {ts ss : Tokens} (hu : Derives (.expr 0 u) ts)
      (hv : Derives (.expr 0 v) ss) :
      Derives (.application (.separated f u v))
        (.function f :: Tokens.parens (ts ++ .keyword .SEPARATOR :: ss))
  | application {u : SqlTree} {ts : Tokens} (h : Derives (.application u) ts) :
      Derives (.expr atomLevel u) ts
  | filtered {u c : SqlTree} {ts cs : Tokens} (h : Derives (.application u) ts)
      (hc : Derives (.expr 0 c) cs) :
      Derives (.expr atomLevel (.filtered u c))
        (ts ++ .keyword .FILTER :: Tokens.parens (.keyword .WHERE :: cs))
  | cast (n : String) {u : SqlTree} {ts : Tokens} (h : Derives (.expr 0 u) ts) :
      Derives (.expr atomLevel (.cast u n))
        (.keyword .CAST :: Tokens.parens (ts ++ [.keyword .AS, .typeName n]))
  | choice {c v e : SqlTree} {cs vs es : Tokens} (hc : Derives (.expr 0 c) cs)
      (hv : Derives (.expr 0 v) vs) (he : Derives (.expr 0 e) es) :
      Derives (.expr atomLevel (.choice c v e)) (.keyword .CASE :: .keyword .WHEN :: (cs ++
        .keyword .THEN :: (vs ++ .keyword .ELSE :: (es ++ [.keyword .END]))))
  | infixed {op : Symbol} {n : Nat} {u v : SqlTree} {ts ss : Tokens}
      (hop : op.precedence? = some n) (hu : Derives (.expr n u) ts)
      (hv : Derives (.expr (n + 1) v) ss) :
      Derives (.expr n (.infixed op u v)) (ts ++ .symbol op :: ss)
  | tighter {n : Nat} {u : SqlTree} {ts : Tokens} (h : Derives (.expr (n + 1) u) ts)
      (hn : n < atomLevel) : Derives (.expr n u) ts

/-- An expression may stand wherever a looser one may. -/
theorem Derives.loosen {m n : Nat} {u : SqlTree} {ts : Tokens} (h : Derives (.expr n u) ts)
    (hmn : m ≤ n) (hn : n ≤ atomLevel) : Derives (.expr m u) ts := by
  induction n with
  | zero => exact Nat.le_zero.mp hmn ▸ h
  | succ n ih =>
    rcases Nat.eq_or_lt_of_le hmn with rfl | hlt
    · exact h
    · exact ih (h.tighter (by omega)) (by omega) (by omega)

theorem Derives.atom {u : SqlTree} {ts : Tokens} (h : Derives (.expr atomLevel u) ts) :
    Derives (.expr 0 u) ts :=
  h.loosen (Nat.zero_le _) (Nat.le_refl _)

/-- What a reader is about to read. -/
inductive Request
  | expr (level : Nat)
  /-- Operators of one level behind a first operand. -/
  | chain (level : Nat) (left : SqlTree)
  /-- The parentheses behind the name of a function. -/
  | application (function : String)
  /-- An argument behind those already read. -/
  | args (function : String) (done : List SqlTree)
  /-- What follows an argument. -/
  | rest (function : String) (done : List SqlTree) (last : SqlTree)
  /-- A clause that may follow a call. -/
  | clause (call : SqlTree)

/-- Reading a prefix of the tokens, with the tree and the tokens that are left. At each token only
one thing can be done, so that whatever is read is read in one way. -/
inductive Reads : Request → Tokens → SqlTree → Tokens → Prop
  | expr {n : Nat} {ts r q : Tokens} {u v : SqlTree} (hn : n < atomLevel)
      (h : Reads (.expr (n + 1)) ts u r) (hc : Reads (.chain n u) r v q) :
      Reads (.expr n) ts v q
  | next {n : Nat} {op : Symbol} {ts r q : Tokens} {u v w : SqlTree}
      (hop : op.precedence? = some n) (h : Reads (.expr (n + 1)) ts v r)
      (hc : Reads (.chain n (.infixed op u v)) r w q) :
      Reads (.chain n u) (.symbol op :: ts) w q
  | stop {n : Nat} {u : SqlTree} {ts : Tokens}
      (h : ∀ t ∈ ts.head?, t.precedence? ≠ some n) : Reads (.chain n u) ts u ts
  | ident (n : String) (r : Tokens) : Reads (.expr atomLevel) (.ident n :: r) (.ident n) r
  | literal {t : Token} {v : Literal} (h : t.literal? = some v) (r : Tokens) :
      Reads (.expr atomLevel) (t :: r) (.literal v) r
  | parens {ts r : Tokens} {u : SqlTree} (h : Reads (.expr 0) ts u (.symbol .rparen :: r)) :
      Reads (.expr atomLevel) (.symbol .lparen :: ts) u r
  | function {f : String} {ts r q : Tokens} {u v : SqlTree} (h : Reads (.application f) ts u r)
      (hc : Reads (.clause u) r v q) : Reads (.expr atomLevel) (.function f :: ts) v q
  | callNone (f : String) (r : Tokens) :
      Reads (.application f) (.symbol .lparen :: .symbol .rparen :: r) (.call f []) r
  | call {f : String} {ts r : Tokens} {u : SqlTree} (hne : ts.head? ≠ some (.symbol .rparen))
      (h : Reads (.args f []) ts u r) : Reads (.application f) (.symbol .lparen :: ts) u r
  | args {f : String} {us : List SqlTree} {ts r q : Tokens} {u v : SqlTree}
      (h : Reads (.expr 0) ts u r) (hr : Reads (.rest f us u) r v q) : Reads (.args f us) ts v q
  | comma {f : String} {us : List SqlTree} {ts r : Tokens} {u v : SqlTree}
      (h : Reads (.args f (us ++ [u])) ts v r) :
      Reads (.rest f us u) (.symbol .comma :: ts) v r
  | close (f : String) (us : List SqlTree) (u : SqlTree) (r : Tokens) :
      Reads (.rest f us u) (.symbol .rparen :: r) (.call f (us ++ [u])) r
  | separator {f : String} {ts r : Tokens} {u v : SqlTree}
      (h : Reads (.expr 0) ts v (.symbol .rparen :: r)) :
      Reads (.rest f [] u) (.keyword .SEPARATOR :: ts) (.separated f u v) r
  | filter {ts r : Tokens} {u c : SqlTree} (h : Reads (.expr 0) ts c (.symbol .rparen :: r)) :
      Reads (.clause u) (.keyword .FILTER :: .symbol .lparen :: .keyword .WHERE :: ts)
        (.filtered u c) r
  | noFilter {u : SqlTree} {ts : Tokens} (h : ts.head? ≠ some (.keyword .FILTER)) :
      Reads (.clause u) ts u ts
  | cast {n : String} {ts r : Tokens} {u : SqlTree}
      (h : Reads (.expr 0) ts u (.keyword .AS :: .typeName n :: .symbol .rparen :: r)) :
      Reads (.expr atomLevel) (.keyword .CAST :: .symbol .lparen :: ts) (.cast u n) r
  | choice {ts r q p : Tokens} {c v e : SqlTree} (hc : Reads (.expr 0) ts c (.keyword .THEN :: r))
      (hv : Reads (.expr 0) r v (.keyword .ELSE :: q))
      (he : Reads (.expr 0) q e (.keyword .END :: p)) :
      Reads (.expr atomLevel) (.keyword .CASE :: .keyword .WHEN :: ts) (.choice c v e) p

/-- The reader has no choice. -/
theorem Reads.unique {q : Request} {ts r s : Tokens} {u v : SqlTree} (h : Reads q ts u r)
    (k : Reads q ts v s) : u = v ∧ r = s := by
  induction h generalizing v s with
  | expr hn h hc ih ihc =>
    cases k with
    | expr _ h' hc' =>
      obtain ⟨rfl, rfl⟩ := ih h'
      exact ihc hc'
    | _ => exact absurd hn (Nat.lt_irrefl _)
  | next hop h hc ih ihc =>
    cases k with
    | next _ h' hc' =>
      obtain ⟨rfl, rfl⟩ := ih h'
      exact ihc hc'
    | stop h' => exact absurd hop (h' _ rfl)
  | stop h =>
    cases k with
    | next hop => exact absurd hop (h _ rfl)
    | stop => exact ⟨rfl, rfl⟩
  | ident n r =>
    cases k with
    | expr hn => exact absurd hn (Nat.lt_irrefl _)
    | ident => exact ⟨rfl, rfl⟩
    | literal h => cases h
  | literal h r =>
    cases k with
    | expr hn => exact absurd hn (Nat.lt_irrefl _)
    | literal h' =>
      rw [h] at h'
      exact ⟨congrArg _ (Option.some.inj h'), rfl⟩
    | _ => cases h
  | parens h ih =>
    cases k with
    | expr hn => exact absurd hn (Nat.lt_irrefl _)
    | literal h' => cases h'
    | parens h' =>
      obtain ⟨rfl, hr⟩ := ih h'
      cases hr
      exact ⟨rfl, rfl⟩
  | function h hc ih ihc =>
    cases k with
    | expr hn => exact absurd hn (Nat.lt_irrefl _)
    | literal h' => cases h'
    | function h' hc' =>
      obtain ⟨rfl, rfl⟩ := ih h'
      exact ihc hc'
  | callNone f r =>
    cases k with
    | callNone => exact ⟨rfl, rfl⟩
    | call hne => exact absurd rfl hne
  | call hne h ih =>
    cases k with
    | callNone => exact absurd rfl hne
    | call _ h' => exact ih h'
  | args h hr ih ihr =>
    cases k with
    | args h' hr' =>
      obtain ⟨rfl, rfl⟩ := ih h'
      exact ihr hr'
  | comma h ih =>
    cases k with
    | comma h' => exact ih h'
  | close f us u r =>
    cases k with
    | close => exact ⟨rfl, rfl⟩
  | separator h ih =>
    cases k with
    | separator h' =>
      obtain ⟨rfl, hr⟩ := ih h'
      cases hr
      exact ⟨rfl, rfl⟩
  | filter h ih =>
    cases k with
    | filter h' =>
      obtain ⟨rfl, hr⟩ := ih h'
      cases hr
      exact ⟨rfl, rfl⟩
    | noFilter hn => exact absurd rfl hn
  | noFilter hn =>
    cases k with
    | filter => exact absurd rfl hn
    | noFilter => exact ⟨rfl, rfl⟩
  | cast h ih =>
    cases k with
    | expr hn => exact absurd hn (Nat.lt_irrefl _)
    | literal h' => cases h'
    | cast h' =>
      obtain ⟨rfl, hr⟩ := ih h'
      cases hr
      exact ⟨rfl, rfl⟩
  | choice hc hv he ihc ihv ihe =>
    cases k with
    | expr hn => exact absurd hn (Nat.lt_irrefl _)
    | literal h' => cases h'
    | choice hc' hv' he' =>
      obtain ⟨rfl, hr⟩ := ihc hc'
      cases hr
      obtain ⟨rfl, hr⟩ := ihv hv'
      cases hr
      obtain ⟨rfl, hr⟩ := ihe he'
      cases hr
      exact ⟨rfl, rfl⟩

/-- Tokens before which an expression of the level is complete. -/
def Closes (n : Nat) (r : Tokens) : Prop :=
  ∀ t ∈ r.head?, t ≠ .keyword .FILTER ∧ ∀ p ∈ t.precedence?, p < n

theorem Closes.loosen {m n : Nat} {r : Tokens} (h : Closes m r) (hmn : m ≤ n) : Closes n r := by
  intro t ht
  refine ⟨(h t ht).1, fun p hp => ?_⟩
  have := (h t ht).2 p hp
  omega

theorem closes_cons {t : Token} (ht : t ≠ .keyword .FILTER) (hp : t.precedence? = none) (n : Nat)
    (r : Tokens) : Closes n (t :: r) := by
  intro s hs
  cases hs
  exact ⟨ht, by simp [hp]⟩

/-- How a reader meets what a phrase derives. Operators of an expression may go on behind it. -/
def Phrase.IsRead : Phrase → Tokens → Prop
  | expr n u, ts => ∀ (r q : Tokens) (v : SqlTree), Closes (n + 1) r →
      Reads (.chain n u) r v q → Reads (.expr n) (ts ++ r) v q
  | application u, ts => ∃ f ss, ts = .function f :: ss ∧
      ∀ r, Reads (.application f) (ss ++ r) u r
  | args us, ts => ∀ f done r,
      Reads (.args f done) (ts ++ .symbol .rparen :: r) (.call f (done ++ us)) r

theorem isRead_whole {n : Nat} {u : SqlTree} {ts r : Tokens} (h : (Phrase.expr n u).IsRead ts)
    (hr : Closes n r) : Reads (.expr n) (ts ++ r) u r := by
  refine h _ _ _ (hr.loosen (Nat.le_succ n)) (.stop fun t ht hp => ?_)
  have := (hr t ht).2 n hp
  omega

theorem reads_chain_atom {u v : SqlTree} {r q : Tokens} (h : Reads (.chain atomLevel u) r v q) :
    v = u ∧ q = r := by
  cases h with
  | next hop => exact absurd (Symbol.precedence_lt hop) (Nat.lt_irrefl _)
  | stop => exact ⟨rfl, rfl⟩

/-- An atom is read when it is read as itself. -/
theorem isRead_atom {u : SqlTree} {ts : Tokens}
    (h : ∀ r, Closes (atomLevel + 1) r → Reads (.expr atomLevel) (ts ++ r) u r) :
    (Phrase.expr atomLevel u).IsRead ts := by
  intro r q v hr hc
  obtain ⟨rfl, rfl⟩ := reads_chain_atom hc
  exact h q hr

theorem Derives.starts {p : Phrase} {ts : Tokens} (h : Derives p ts) :
    ∃ t r, ts = t :: r ∧ t ≠ .symbol .rparen := by
  induction h with
  | literal h =>
    refine ⟨_, [], rfl, ?_⟩
    rintro rfl
    cases h
  | more _ _ ih | filtered _ _ ih | infixed _ _ _ ih =>
    obtain ⟨t, r, rfl, ht⟩ := ih
    exact ⟨t, _, rfl, ht⟩
  | one _ ih | application _ ih | tighter _ _ ih => exact ih
  | _ => exact ⟨_, _, rfl, by simp⟩

theorem Derives.isRead {p : Phrase} {ts : Tokens} (h : Derives p ts) : p.IsRead ts := by
  -- No operator and no filter stands before a closing parenthesis or any of these words.
  have rparen (n : Nat) (r : Tokens) : Closes n (.symbol .rparen :: r) :=
    closes_cons (by simp) rfl n r
  have word {k : Keyword} (hk : k ≠ .FILTER) (n : Nat) (r : Tokens) :
      Closes n (.keyword k :: r) := closes_cons (by simpa using hk) rfl n r
  induction h with
  | ident n => exact isRead_atom fun r _ => .ident n r
  | literal h => exact isRead_atom fun r _ => .literal h r
  | @parens u ts h ih =>
    refine isRead_atom fun r _ => ?_
    simpa [Tokens.parens] using Reads.parens (isRead_whole ih (rparen 0 r))
  | one h ih =>
    intro f done r
    exact .args (isRead_whole ih (rparen 0 r)) (.close f done _ r)
  | @more u us ts ss h hs ih ihs =>
    intro f done r
    have hr := ihs f (done ++ [u]) r
    rw [List.append_assoc] at hr
    rw [List.append_assoc]
    exact .args (isRead_whole ih (closes_cons (by simp) rfl 0 _)) (.comma hr)
  | callNone f => exact ⟨f, _, rfl, fun r => .callNone f r⟩
  | @call f us ts h ih =>
    refine ⟨f, _, rfl, fun r => ?_⟩
    obtain ⟨t, q, rfl, ht⟩ := h.starts
    have hr := ih f [] r
    simpa [Tokens.parens] using Reads.call (by simpa using ht) hr
  | @separated f u v ts ss hu hv ihu ihv =>
    refine ⟨f, _, rfl, fun r => ?_⟩
    obtain ⟨t, q, rfl, ht⟩ := hu.starts
    have hr : Reads (.args f []) (t :: q ++ .keyword .SEPARATOR :: (ss ++ .symbol .rparen :: r))
        (.separated f u v) r :=
      .args (isRead_whole ihu (word (by decide) 0 _))
        (.separator (isRead_whole ihv (rparen 0 r)))
    simpa [Tokens.parens] using Reads.call (by simpa using ht) hr
  | application h ih =>
    refine isRead_atom fun r hr => ?_
    obtain ⟨f, ss, rfl, hf⟩ := ih
    refine .function (hf r) (.noFilter fun he => ?_)
    exact (hr _ he).1 rfl
  | @filtered u c ts cs h hc ih ihc =>
    refine isRead_atom fun r _ => ?_
    obtain ⟨f, ss, rfl, hf⟩ := ih
    have hr := Reads.filter (u := u) (isRead_whole ihc (rparen 0 r))
    simpa [Tokens.parens] using Reads.function (hf _) hr
  | cast n h ih =>
    refine isRead_atom fun r _ => ?_
    have hr := isRead_whole ih (word (k := .AS) (by decide) 0 (.typeName n :: .symbol .rparen :: r))
    simpa [Tokens.parens] using Reads.cast hr
  | @choice c v e cs vs es hc hv he ihc ihv ihe =>
    refine isRead_atom fun r _ => ?_
    have hre := isRead_whole ihe (word (k := .END) (by decide) 0 r)
    have hrv := isRead_whole ihv (word (k := .ELSE) (by decide) 0 (es ++ .keyword .END :: r))
    have hrc := isRead_whole ihc
      (word (k := .THEN) (by decide) 0 (vs ++ .keyword .ELSE :: (es ++ .keyword .END :: r)))
    simpa using Reads.choice hrc hrv hre
  | @infixed op n u v ts ss hop hu hv ihu ihv =>
    intro r q w hr hc
    rw [List.append_assoc]
    refine ihu _ _ _ ?_ (.next hop (isRead_whole ihv hr) hc)
    intro t ht
    cases ht
    exact ⟨by simp, fun p hp => by simp_all [Token.precedence?]⟩
  | tighter h hn ih =>
    intro r q w hr hc
    exact .expr hn (isRead_whole ih hr) hc

/-- Tokens have at most one tree. -/
theorem Derives.unique {n : Nat} {u v : SqlTree} {ts : Tokens} (hu : Derives (.expr n u) ts)
    (hv : Derives (.expr n v) ts) : u = v := by
  have hr : Closes n [] := by simp [Closes]
  exact ((isRead_whole hu.isRead hr).unique (isRead_whole hv.isRead hr)).1

end TypedSql
