import TypedSql.Document

namespace TypedSql.Toml

/-- A table comes from a header that leads through it, from a header of its own, or from keys with
dots. No table is defined twice. -/
inductive Origin
  | passed
  | header
  | dotted
deriving DecidableEq

/-- Tables in an array of tables are entered through the last one. -/
inductive Node
  | value (v : Document)
  | table (origin : Origin) (entries : List (String × Node))
  | tables (entries : List (List (String × Node)))

abbrev Entries := List (String × Node)

namespace Entries

def put (k : String) (n : Node) : Entries → Entries
  | [] => [(k, n)]
  | e :: es => if e.1 = k then (k, n) :: es else e :: put k n es

/-- The entries with a value at the end of a dotted key. A table that headers have led through, or
the last one of an array, may be passed on the way to a table that a dotted key makes, but gets no
entry itself. -/
def insert (v : Document) : List String → Entries → Option Entries
  | [], _ => none
  | [k], es => if (es.lookup k).isSome then none else some (es ++ [(k, .value v)])
  | k :: ks, es =>
    match es.lookup k with
    | none => (insert v ks []).map fun sub => es ++ [(k, .table .dotted sub)]
    | some (.table .dotted sub) => (insert v ks sub).map fun sub => put k (.table .dotted sub) es
    | some (.table .passed sub) =>
      if ks.length ≤ 1 then none
      else (insert v ks sub).map fun sub => put k (.table .passed sub) es
    | some (.tables subs) =>
      match subs.getLast? with
      | some sub =>
        if ks.length ≤ 1 then none
        else (insert v ks sub).map fun sub => put k (.tables (subs.dropLast ++ [sub])) es
      | none => none
    | some _ => none

/-- The entries with the table at the end of a path changed by `f`, when `last` gives the node of
the last key from the node that is there. -/
def update (last : Option Node → Option Node) : List String → Entries → Option Entries
  | [], _ => none
  | [k], es => (last (es.lookup k)).map fun n => put k n es
  | k :: ks, es =>
    match es.lookup k with
    | none => (update last ks []).map fun sub => put k (.table .passed sub) es
    | some (.table o sub) => (update last ks sub).map fun sub => put k (.table o sub) es
    | some (.tables subs) =>
      match subs.getLast? with
      | some sub => (update last ks sub).map fun sub => put k (.tables (subs.dropLast ++ [sub])) es
      | none => none
    | some (.value _) => none

end Entries

/-- A table defined by its header. -/
def defineTable (body : Entries → Option Entries) : Option Node → Option Node
  | none => (body []).map (.table .header)
  | some (.table .passed es) => (body es).map (.table .header)
  | _ => none

/-- One more table in an array of tables. -/
def appendTable (body : Entries → Option Entries) : Option Node → Option Node
  | none => (body []).map fun es => .tables [es]
  | some (.tables subs) => (body []).map fun es => .tables (subs ++ [es])
  | _ => none

mutual

def Node.toDocument : Node → Document
  | .value v => v
  | .table _ es => .table (entryDocuments es)
  | .tables subs => .list (tableDocuments subs)

def entryDocuments : List (String × Node) → List (String × Document)
  | [] => []
  | (k, n) :: es => (k, n.toDocument) :: entryDocuments es

def tableDocuments : List (List (String × Node)) → List Document
  | [] => []
  | es :: subs => .table (entryDocuments es) :: tableDocuments subs

end

end TypedSql.Toml
