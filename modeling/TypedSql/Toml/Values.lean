import TypedSql.Toml.Strings
import TypedSql.Toml.Tree
import TypedSql.Toml.Words

namespace TypedSql.Toml

/-- How many values may hold each other, and how many parts a key may have. -/
def maxDepth : Nat := 80

def isKeyChar (c : Char) : Bool := c.isAlphanum || c = '_' || c = '-'

def simpleKey? (cs : List Char) : Option (String × List Char) :=
  match string? cs with
  | some r => some r
  | none =>
    let k := cs.takeWhile isKeyChar
    if k.isEmpty then none else some (String.ofList k, cs.drop k.length)

/-- A key of at most so many parts, and the spaces behind it. There may be spaces around the dots
between the parts. -/
def keyWithin? : Nat → List Char → Option (List String × List Char)
  | 0, _ => none
  | parts + 1, cs => do
    let (k, cs) ← simpleKey? (skipSpaces cs)
    match skipSpaces cs with
    | '.' :: cs =>
      let (ks, cs) ← keyWithin? parts cs
      return (k :: ks, cs)
    | cs => return ([k], cs)

def key? (cs : List Char) : Option (List String × List Char) := keyWithin? maxDepth cs

mutual

/-- Fuel bounds how often a reader calls another, and `room` is how many values may still be opened
inside each other. -/
def value? : Nat → Nat → List Char → Option (Document × List Char)
  | 0, _, _ => none
  | fuel + 1, room, cs =>
    match room, cs with
    | room + 1, '[' :: cs => (items? fuel room cs).map fun r => (.list r.1, r.2)
    | room + 1, '\x7b' :: cs =>
      (pairs? fuel room [] cs).map fun r => (.table (entryDocuments r.1), r.2)
    | 0, '[' :: _ | 0, '\x7b' :: _ => none
    | _, c :: _ =>
      if c = '\x22' ∨ c = '\x27' then (text? cs).map fun r => (.string r.1, r.2)
      else (word? (splitWord cs).1).map fun v => (v, (splitWord cs).2)
    | _, [] => none

/-- The rest of an array. -/
def items? : Nat → Nat → List Char → Option (List Document × List Char)
  | 0, _, _ => none
  | fuel + 1, room, cs =>
    match skipBreaks cs.length cs with
    | ']' :: cs => some ([], cs)
    | cs => do
      let (v, cs) ← value? fuel room cs
      match skipBreaks cs.length cs with
      | ',' :: cs =>
        let (vs, cs) ← items? fuel room cs
        return (v :: vs, cs)
      | ']' :: cs => return ([v], cs)
      | _ => none

/-- The rest of an inline table whose first entries are `es`. -/
def pairs? : Nat → Nat → Entries → List Char → Option (Entries × List Char)
  | 0, _, _, _ => none
  | fuel + 1, room, es, cs =>
    match skipBreaks cs.length cs with
    | '\x7d' :: cs => some (es, cs)
    | cs => do
      let (k, cs) ← key? cs
      match skipBreaks cs.length cs with
      | '=' :: cs =>
        let (v, cs) ← value? fuel room (skipBreaks cs.length cs)
        let es ← es.insert v k
        match skipBreaks cs.length cs with
        | ',' :: cs => pairs? fuel room es cs
        | '\x7d' :: cs => return (es, cs)
        | _ => none
      | _ => none

end

/-- A key with its value. -/
def pair? (cs : List Char) : Option ((List String × Document) × List Char) := do
  let (k, cs) ← key? cs
  match cs with
  | '=' :: cs =>
    let cs := skipSpaces cs
    let (v, cs) ← value? (2 * cs.length + 2) maxDepth cs
    return ((k, v), cs)
  | _ => none

end TypedSql.Toml
