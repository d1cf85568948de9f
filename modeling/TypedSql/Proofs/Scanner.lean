import TypedSql.Dialect

namespace TypedSql

inductive Quoted
  | ident
  | string
deriving DecidableEq

/-- What a reader of SQL text makes of it: quoted content, and the characters outside quotes. -/
inductive Piece
  | quoted (kind : Quoted) (content : List Char)
  | plain (c : Char)
deriving DecidableEq

/-- Where a reader is: outside quotes, or behind this much content. -/
inductive Position
  | outside
  | inside (kind : Quoted) (content : List Char)

/-- What stands around identifiers, whether a backslash escapes in strings, and whether an `N` may
mark a string. -/
structure Quoting where
  opening : Char
  closing : Char
  escapes : Bool := false
  marks : Bool := false

/-- How a reader of the dialect takes quotes. Between single quotes stands a string everywhere. -/
def Dialect.quoting : Dialect → Quoting
  | duckdb | postgres | snowflake | redshift | sqlite | trino =>
    { opening := '\x22', closing := '\x22' }
  | mssql => { opening := '[', closing := ']', marks := true }
  | mysql | bigquery | databricks => { opening := '\x60', closing := '\x60', escapes := true }

namespace Quoting

def close (q : Quoting) : Quoted → Char
  | .ident => q.closing
  | .string => '\x27'

/-- Whether the closing delimiter is doubled inside, and not escaped. -/
def doubles (q : Quoting) : Quoted → Bool
  | .ident => true
  | .string => !q.escapes

/-- Whether the character belongs to the string that begins behind it. -/
def isMark (q : Quoting) (c : Char) (rest : List Char) : Bool :=
  q.marks && c = 'N' && rest.head? = some '\x27'

end Quoting

/-- The pieces of the text, unless it ends inside quotes or a backslash stands before a character
that needs none. -/
def scan (q : Quoting) : Position → List Char → Option (List Piece)
  | .outside, [] => some []
  | .outside, c :: cs =>
    if c = q.opening then scan q (.inside .ident []) cs
    else if c = '\x27' then scan q (.inside .string []) cs
    else if q.isMark c cs then scan q .outside cs
    else (scan q .outside cs).map (.plain c :: ·)
  | .inside _ _, [] => none
  | .inside k s, c :: cs =>
    if q.doubles k then
      if c = q.close k then
        match cs with
        | [] => some [.quoted k s]
        | e :: es =>
          if e = q.close k then scan q (.inside k (s ++ [e])) es
          else (scan q .outside (e :: es)).map (.quoted k s :: ·)
      else scan q (.inside k (s ++ [c])) cs
    else if c = '\\' then
      match cs with
      | [] => none
      | e :: es =>
        if e = '\\' ∨ e = q.close k then scan q (.inside k (s ++ [e])) es else none
    else if c = q.close k then (scan q .outside cs).map (.quoted k s :: ·)
    else scan q (.inside k (s ++ [c])) cs

variable {q : Quoting} {d : Dialect} {k : Quoted} {c : Char} {t rest : List Char}

theorem scan_inside (hc : c ≠ q.close k) (he : q.doubles k ∨ c ≠ '\\') :
    scan q (.inside k t) (c :: rest) = scan q (.inside k (t ++ [c])) rest := by
  rw [scan.eq_def]
  cases hk : q.doubles k with
  | true => simp only [hk, if_true, hc, if_false]
  | false =>
    have hb : c ≠ '\\' := he.resolve_left (by simp [hk])
    simp only [hk, Bool.false_eq_true, if_false, hb, hc]

theorem scan_doubled_delimiter (hk : q.doubles k) :
    scan q (.inside k t) (q.close k :: q.close k :: rest) =
      scan q (.inside k (t ++ [q.close k])) rest := by
  rw [scan.eq_def]
  simp only [hk, if_true]

theorem scan_escape (hk : q.doubles k = false) (hc : c = '\\' ∨ c = q.close k) :
    scan q (.inside k t) ('\\' :: c :: rest) = scan q (.inside k (t ++ [c])) rest := by
  rw [scan.eq_def]
  simp only [hk, Bool.false_eq_true, if_false, if_true, hc]

/-- A closing delimiter that no other follows ends the content. -/
theorem scan_close (hk : q.doubles k → rest.head? ≠ some (q.close k))
    (hb : q.close k ≠ '\\') :
    scan q (.inside k t) (q.close k :: rest) =
      (scan q .outside rest).map (.quoted k t :: ·) := by
  rw [scan.eq_def]
  cases hd : q.doubles k with
  | true =>
    cases rest with
    | nil => simp only [hd, if_true, scan, Option.map_some]
    | cons e es =>
      have he : e ≠ q.close k := by simpa using hk hd
      simp only [hd, if_true, he, if_false]
  | false => simp only [hd, Bool.false_eq_true, if_false, if_true, hb]

/-- Doubled content is read up to the delimiter that is not doubled. -/
theorem scan_doubled (hk : q.doubles k) (hb : q.close k ≠ '\\')
    (hr : rest.head? ≠ some (q.close k)) (s t : List Char) :
    scan q (.inside k t) (doubled (q.close k) s ++ q.close k :: rest) =
      (scan q .outside rest).map (.quoted k (t ++ s) :: ·) := by
  induction s generalizing t with
  | nil =>
    rw [List.append_nil]
    exact scan_close (fun _ => hr) hb
  | cons c s ih =>
    by_cases hc : c = q.close k
    · have hd : doubled (q.close k) (c :: s) =
          q.close k :: q.close k :: doubled (q.close k) s := by
        simp [doubled, hc]
      rw [hd, List.cons_append, List.cons_append, scan_doubled_delimiter hk, ih, hc,
        List.append_assoc, List.singleton_append]
    · have hd : doubled (q.close k) (c :: s) = c :: doubled (q.close k) s := by
        simp [doubled, hc]
      rw [hd, List.cons_append, scan_inside hc (.inl hk), ih, List.append_assoc,
        List.singleton_append]

/-- Escaped content is read up to the delimiter that is not escaped. -/
theorem scan_escaped (hk : q.doubles .string = false) (s t : List Char) :
    scan q (.inside .string t) (escaped s ++ '\x27' :: rest) =
      (scan q .outside rest).map (.quoted .string (t ++ s) :: ·) := by
  induction s generalizing t with
  | nil =>
    rw [List.append_nil]
    have hb : '\x27' ≠ '\\' := by decide
    exact scan_close (k := .string) (fun h => absurd h (by simp [hk])) hb
  | cons c s ih =>
    by_cases hc : c = '\\' ∨ c = '\x27'
    · have he : escaped (c :: s) = '\\' :: c :: escaped s := by simp [escaped, singleQuote, hc]
      rw [he, List.cons_append, List.cons_append, scan_escape hk hc, ih, List.append_assoc,
        List.singleton_append]
    · have he : escaped (c :: s) = c :: escaped s := by simp [escaped, singleQuote, hc]
      rw [not_or] at hc
      rw [he, List.cons_append, scan_inside hc.2 (.inr hc.1), ih, List.append_assoc,
        List.singleton_append]

/-- Characters with which an identifier or a string can begin. -/
def delimiters : List Char := ['\x22', '\x60', '[', '\x27']

theorem opening_mem (d : Dialect) : d.quoting.opening ∈ delimiters := by
  cases d <;> decide

theorem close_ne_backslash (d : Dialect) (k : Quoted) : d.quoting.close k ≠ '\\' := by
  cases k <;> cases d <;> decide

/-- Identifiers are written between the delimiters by which they are read. -/
theorem quote_ident (d : Dialect) (s : List Char) :
    d.rules.identQuotes.quote s =
      d.quoting.opening :: doubled d.quoting.closing s ++ [d.quoting.closing] := by
  cases d <;> rfl

/-- Strings are written as they are read, and marked only where marks are passed over. -/
theorem quote_string (d : Dialect) (s : List Char) :
    ∃ mark : List Char, (mark = [] ∨ d.quoting.marks ∧ mark = ['N']) ∧
      d.rules.stringQuotes.quote s = mark ++ '\x27' ::
        ((if d.quoting.escapes then escaped s else doubled '\x27' s) ++ ['\x27']) := by
  cases d with
  | mssql =>
    refine ⟨if isAscii s then [] else ['N'], ?_, by simp [Dialect.rules, StringQuotes.quote,
      Dialect.quoting, singleQuote]⟩
    split
    · exact .inl rfl
    · exact .inr ⟨rfl, rfl⟩
  | _ => exact ⟨[], .inl rfl, rfl⟩

theorem scan_ident (hr : rest.head? ≠ some d.quoting.closing) (s : List Char) :
    scan d.quoting .outside (d.rules.identQuotes.quote s ++ rest) =
      (scan d.quoting .outside rest).map (.quoted .ident s :: ·) := by
  have hq : d.rules.identQuotes.quote s ++ rest = d.quoting.opening ::
      (doubled (d.quoting.close .ident) s ++ d.quoting.close .ident :: rest) := by
    simp [quote_ident, Quoting.close]
  rw [hq, scan, if_pos rfl, scan_doubled rfl (close_ne_backslash d _) hr]
  rfl

/-- A string quote opens a string. -/
theorem scan_open_string (cs : List Char) :
    scan d.quoting .outside ('\x27' :: cs) = scan d.quoting (.inside .string []) cs := by
  have hne : '\x27' ≠ d.quoting.opening := by cases d <;> decide
  rw [scan, if_neg hne, if_pos rfl]

/-- A national mark is passed over. -/
theorem scan_mark (hm : d.quoting.marks) (cs : List Char) :
    scan d.quoting .outside ('N' :: '\x27' :: cs) = scan d.quoting .outside ('\x27' :: cs) := by
  have hopen : 'N' ≠ d.quoting.opening := by cases d <;> decide
  have hquote : 'N' ≠ '\x27' := by decide
  have hmark : d.quoting.isMark 'N' ('\x27' :: cs) := by simp [Quoting.isMark, hm]
  rw [scan, if_neg hopen, if_neg hquote, if_pos hmark]

theorem scan_string (hr : rest.head? ≠ some '\x27') (s : List Char) :
    scan d.quoting .outside (d.rules.stringQuotes.quote s ++ rest) =
      (scan d.quoting .outside rest).map (.quoted .string s :: ·) := by
  obtain ⟨mark, hmark, hq⟩ := quote_string d s
  have hpassed (cs : List Char) :
      scan d.quoting .outside (mark ++ '\x27' :: cs) = scan d.quoting (.inside .string []) cs := by
    rcases hmark with rfl | ⟨hm, rfl⟩
    · exact scan_open_string cs
    · exact (scan_mark hm cs).trans (scan_open_string cs)
  rw [hq, List.append_assoc, List.cons_append, List.append_assoc, hpassed]
  cases he : d.quoting.escapes with
  | true =>
    have hk : d.quoting.doubles .string = false := by simp [Quoting.doubles, he]
    exact scan_escaped hk s []
  | false =>
    have hk : d.quoting.doubles .string := by simp [Quoting.doubles, he]
    exact scan_doubled hk (close_ne_backslash d .string) hr s []

/-- Content in its quotes, as the dialect writes it. -/
def Dialect.quote (d : Dialect) : Quoted → List Char → List Char
  | .ident, s => d.rules.identQuotes.quote s
  | .string, s => d.rules.stringQuotes.quote s

/-- Quoted content is read back unless the text behind it begins with the closing delimiter. -/
theorem scan_quoted (hr : rest.head? ≠ some (d.quoting.close k)) (s : List Char) :
    scan d.quoting .outside (d.quote k s ++ rest) =
      (scan d.quoting .outside rest).map (.quoted k s :: ·) := by
  cases k with
  | ident => exact scan_ident hr s
  | string => exact scan_string hr s

/-- Text without delimiters is read as it is, unless its end marks a string behind it. -/
theorem scan_plain {s : List Char} (hs : ∀ c ∈ s, c ∉ delimiters)
    (hN : s.getLast? = some 'N' → rest.head? ≠ some '\x27') :
    scan d.quoting .outside (s ++ rest) =
      (scan d.quoting .outside rest).map (s.map .plain ++ ·) := by
  induction s with
  | nil => simp
  | cons c s ih =>
    have hc := hs c List.mem_cons_self
    have hopen : c ≠ d.quoting.opening := fun h => hc (h ▸ opening_mem d)
    have hquote : c ≠ '\x27' := fun h => hc (h ▸ by decide)
    have hmark : d.quoting.isMark c (s ++ rest) = false := by
      cases s with
      | nil =>
        simp only [Quoting.isMark, List.nil_append, Bool.and_eq_false_iff, decide_eq_false_iff_not]
        by_cases hn : c = 'N'
        · exact .inr (hN (by simp [hn]))
        · exact .inl (.inr hn)
      | cons e s =>
        have he : e ≠ '\x27' := fun h => hs e (by simp) (h ▸ by decide)
        simp [Quoting.isMark, he]
    have hlast : s.getLast? = some 'N' → rest.head? ≠ some '\x27' := by
      cases s with
      | nil => simp
      | cons e s => simpa using hN
    have hih := ih (fun e he => hs e (List.mem_cons_of_mem _ he)) hlast
    rw [List.cons_append, scan, if_neg hopen, if_neg hquote, hmark, hih]
    simp [Function.comp_def]

end TypedSql
