import TypedSql.Toml.Values

namespace TypedSql.Toml

abbrev Pair := List String × Document

inductive Header
  | table (path : List String)
  | element (path : List String)

inductive Line
  | pair (p : Pair)
  | header (h : Header)

def header? (cs : List Char) : Option (Header × List Char) :=
  match cs with
  | '[' :: '[' :: cs =>
    match key? cs with
    | some (p, ']' :: ']' :: cs) => some (.element p, cs)
    | _ => none
  | '[' :: cs =>
    match key? cs with
    | some (p, ']' :: cs) => some (.table p, cs)
    | _ => none
  | _ => none

def line? (cs : List Char) : Option (Line × List Char) :=
  match cs with
  | '[' :: _ => (header? cs).map fun r => (.header r.1, r.2)
  | _ => (pair? cs).map fun r => (.pair r.1, r.2)

/-- The lines of the text, without those that are empty; `fuel` bounds their number. -/
def lines : Nat → List Char → Option (List Line)
  | 0, _ => none
  | fuel + 1, cs =>
    match skipBreaks cs.length cs with
    | [] => some []
    | cs => do
      let (l, cs) ← line? cs
      let cs ← endOfLine? cs
      return l :: (← lines fuel cs)

/-- The pairs before the first header, and every header with the pairs below it. -/
def sections : List Line → List Pair × List (Header × List Pair)
  | [] => ([], [])
  | .pair p :: ls => (p :: (sections ls).1, (sections ls).2)
  | .header h :: ls => ([], (h, (sections ls).1) :: (sections ls).2)

def insertAll : List Pair → Entries → Option Entries
  | [], es => some es
  | (k, v) :: ps, es => (es.insert v k).bind (insertAll ps)

def addSection (h : Header) (ps : List Pair) (es : Entries) : Option Entries :=
  match h with
  | .table p => es.update (defineTable (insertAll ps)) p
  | .element p => es.update (appendTable (insertAll ps)) p

def addSections : List (Header × List Pair) → Entries → Option Entries
  | [], es => some es
  | (h, ps) :: rest, es => (addSection h ps es).bind (addSections rest)

/-- A mark of the byte order at the start does not count. -/
def withoutMark : List Char → List Char
  | '\ufeff' :: cs => cs
  | cs => cs

def read (text : String) : Option Document := do
  let cs := withoutMark text.toList
  let s := sections (← lines cs.length.succ cs)
  let es ← (insertAll s.1 []).bind (addSections s.2)
  return .table (entryDocuments es)

end TypedSql.Toml
