namespace TypedSql.Toml

def isSpace (c : Char) : Bool := c = ' ' || c = '\t'

def skipSpaces (cs : List Char) : List Char := cs.dropWhile isSpace

/-- No control character but the tab. -/
def isText (c : Char) : Bool := c = '\t' || (32 ≤ c.toNat && c.toNat ≠ 127)

/-- What follows a line end. -/
def newline? : List Char → Option (List Char)
  | '\n' :: cs => some cs
  | '\r' :: '\n' :: cs => some cs
  | _ => none

def skipComment : List Char → List Char
  | '#' :: cs => cs.dropWhile isText
  | cs => cs

/-- What follows the line when nothing but spaces and a comment is left on it. -/
def endOfLine? (cs : List Char) : Option (List Char) :=
  match skipComment (skipSpaces cs) with
  | [] => some []
  | cs => newline? cs

/-- Skips spaces, comments and line ends, at most `fuel` of them. -/
def skipBreaks : Nat → List Char → List Char
  | 0, cs => cs
  | fuel + 1, cs =>
    let cs := skipComment (skipSpaces cs)
    match newline? cs with
    | some cs => skipBreaks fuel cs
    | none => cs

def digit? (base : Nat) (c : Char) : Option Nat :=
  let n :=
    if '0' ≤ c ∧ c ≤ '9' then c.toNat - '0'.toNat
    else if 'a' ≤ c ∧ c ≤ 'f' then c.toNat - 'a'.toNat + 10
    else if 'A' ≤ c ∧ c ≤ 'F' then c.toNat - 'A'.toNat + 10
    else base
  if n < base then some n else none

/-- The number of digits alone, read on from `n`. -/
def number? (base n : Nat) : List Char → Option Nat
  | [] => some n
  | c :: cs => (digit? base c).bind fun d => number? base (base * n + d) cs

/-- The character whose code point has `n` hexadecimal digits here. -/
def codePoint? (n : Nat) (cs : List Char) : Option (Char × List Char) :=
  let ds := cs.take n
  if ds.length < n then none
  else
    match number? 16 0 ds with
    | some v => if v.isValidChar then some (Char.ofNat v, cs.drop n) else none
    | none => none

/-- The character that stands behind a backslash. -/
def escape? : List Char → Option (Char × List Char)
  | 'b' :: cs => some ('\x08', cs)
  | 't' :: cs => some ('\t', cs)
  | 'n' :: cs => some ('\n', cs)
  | 'f' :: cs => some ('\x0c', cs)
  | 'r' :: cs => some ('\r', cs)
  | 'e' :: cs => some ('\x1b', cs)
  | '\x22' :: cs => some ('\x22', cs)
  | '\\' :: cs => some ('\\', cs)
  | 'x' :: cs => codePoint? 2 cs
  | 'u' :: cs => codePoint? 4 cs
  | 'U' :: cs => codePoint? 8 cs
  | _ => none

/-- The content up to the closing quote, and what follows it; `fuel` bounds the characters read. -/
def basic? : Nat → List Char → Option (List Char × List Char)
  | 0, _ => none
  | _ + 1, [] => none
  | _ + 1, '\x22' :: cs => some ([], cs)
  | fuel + 1, '\\' :: cs => do
    let (c, cs) ← escape? cs
    let (s, cs) ← basic? fuel cs
    return (c :: s, cs)
  | fuel + 1, c :: cs =>
    if isText c then (basic? fuel cs).map fun r => (c :: r.1, r.2) else none

def literal? (cs : List Char) : Option (List Char × List Char) :=
  match cs.dropWhile fun c => isText c && c ≠ '\x27' with
  | '\x27' :: rest => some (cs.takeWhile fun c => isText c && c ≠ '\x27', rest)
  | _ => none

/-- What closes a string of several lines: three quotes `q`. Up to two more in front of them belong
to the content. -/
def closing? (q : Char) (cs : List Char) : Option (List Char × List Char) :=
  let n := min (cs.takeWhile (· = q)).length 5
  if 3 ≤ n then some (List.replicate (n - 3) q, cs.drop n) else none

/-- A line end right behind the opening quotes does not count. -/
def afterOpening (cs : List Char) : List Char := (newline? cs).getD cs

/-- What follows a backslash at the end of a line: the spaces and line ends after it are skipped. -/
def continued? (fuel : Nat) (cs : List Char) : Option (List Char) :=
  (newline? (skipSpaces cs)).map fun cs => skipBlankLines fuel cs
where
  skipBlankLines : Nat → List Char → List Char
    | 0, cs => cs
    | fuel + 1, cs =>
      match newline? (skipSpaces cs) with
      | some cs => skipBlankLines fuel cs
      | none => skipSpaces cs

/-- Content between three quotes `q`, with escapes in it or without. Line ends are kept as they
are. -/
def lines? (q : Char) (escapes : Bool) : Nat → List Char → Option (List Char × List Char)
  | 0, _ => none
  | fuel + 1, cs =>
    match closing? q cs with
    | some r => some r
    | none =>
      match cs with
      | [] => none
      | '\r' :: '\n' :: cs =>
        (lines? q escapes fuel cs).map fun r => ('\r' :: '\n' :: r.1, r.2)
      | c :: cs =>
        if escapes && c = '\\' then
          match continued? fuel cs with
          | some cs => lines? q escapes fuel cs
          | none => do
            let (c, cs) ← escape? cs
            let (s, cs) ← lines? q escapes fuel cs
            return (c :: s, cs)
        else if isText c || c = '\n' then
          (lines? q escapes fuel cs).map fun r => (c :: r.1, r.2)
        else none

/-- A string of one line. -/
def string? (cs : List Char) : Option (String × List Char) :=
  match cs with
  | '\x22' :: rest => (basic? rest.length.succ rest).map fun r => (String.ofList r.1, r.2)
  | '\x27' :: rest => (literal? rest).map fun r => (String.ofList r.1, r.2)
  | _ => none

/-- A string of any kind. -/
def text? (cs : List Char) : Option (String × List Char) :=
  match cs with
  | '\x22' :: '\x22' :: '\x22' :: rest =>
    (lines? '\x22' true rest.length.succ (afterOpening rest)).map fun r => (String.ofList r.1, r.2)
  | '\x27' :: '\x27' :: '\x27' :: rest =>
    (lines? '\x27' false rest.length.succ (afterOpening rest)).map fun r => (String.ofList r.1, r.2)
  | _ => string? cs

end TypedSql.Toml
