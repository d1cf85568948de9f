import TypedSql.Binary64
import TypedSql.Document
import TypedSql.Toml.Strings

namespace TypedSql.Toml

/-- A number of exactly `n` digits at the front. -/
def fixed? (n : Nat) (cs : List Char) : Option (Nat × List Char) :=
  if (cs.take n).length = n then (number? 10 0 (cs.take n)).map fun v => (v, cs.drop n) else none

def daysIn (year month : Nat) : Nat :=
  if month = 2 then if year % 4 = 0 ∧ (year % 100 ≠ 0 ∨ year % 400 = 0) then 29 else 28
  else if month = 4 ∨ month = 6 ∨ month = 9 ∨ month = 11 then 30
  else 31

/-- What follows a date. -/
def date? (cs : List Char) : Option (List Char) :=
  match fixed? 4 cs with
  | some (y, '-' :: cs) =>
    match fixed? 2 cs with
    | some (m, '-' :: cs) =>
      match fixed? 2 cs with
      | some (d, cs) =>
        if 1 ≤ m ∧ m ≤ 12 ∧ 1 ≤ d ∧ d ≤ daysIn y m then some cs else none
      | none => none
    | _ => none
  | _ => none

/-- What follows the seconds of a time and their fraction. -/
def seconds? (cs : List Char) : Option (List Char) :=
  match fixed? 2 cs with
  | some (s, cs) =>
    if 60 < s then none
    else
      match cs with
      | '.' :: cs =>
        if (cs.takeWhile Char.isDigit).isEmpty then none else some (cs.dropWhile Char.isDigit)
      | _ => some cs
  | none => none

/-- What follows hours and minutes. -/
def minutes? (cs : List Char) : Option (List Char) :=
  match fixed? 2 cs with
  | some (h, ':' :: cs) =>
    match fixed? 2 cs with
    | some (m, cs) => if h < 24 ∧ m < 60 then some cs else none
    | none => none
  | _ => none

/-- What follows a time. -/
def time? (cs : List Char) : Option (List Char) :=
  match minutes? cs with
  | some (':' :: cs) => seconds? cs
  | r => r

def isOffset : List Char → Bool
  | [] => true
  | ['Z'] | ['z'] => true
  | '+' :: cs | '-' :: cs => minutes? cs = some []
  | _ => false

def isDateMark (c : Char) : Bool := c = 'T' || c = 't' || c = ' '

/-- A date, a time, or a date with a time and perhaps an offset. -/
def isMoment (cs : List Char) : Bool :=
  match date? cs with
  | some [] => true
  | some (c :: cs) => isDateMark c && (time? cs).any isOffset
  | none => time? cs = some []

/-- Whether it is a minus, and what follows the sign. -/
def sign : List Char → Bool × List Char
  | '-' :: cs => (true, cs)
  | '+' :: cs => (false, cs)
  | cs => (false, cs)

/-- Every underscore has a digit on either side. `behindDigit` tells whether a digit stands in front
of the first character. -/
def separatedFrom (isDigit : Char → Bool) (behindDigit : Bool) : List Char → Bool
  | [] => true
  | c :: cs =>
    if c = '_' then behindDigit && cs.head?.any isDigit && separatedFrom isDigit false cs
    else separatedFrom isDigit (isDigit c) cs

def separated (isDigit : Char → Bool) (cs : List Char) : Bool := separatedFrom isDigit false cs

def withoutUnderscores (cs : List Char) : List Char := cs.filter (· ≠ '_')

/-- The numbers of 128 bits, with a sign or without. -/
def inRange (n : Int) : Bool := -Int.pow 2 127 ≤ n && n < Int.pow 2 128

/-- The integer that the digits write. -/
def integer (base : Nat) (negative : Bool) (cs : List Char) : Document :=
  let ds := withoutUnderscores cs
  let value := if ds.isEmpty then none else number? base 0 ds
  match value with
  | some v =>
    let n := if negative then -(v : Int) else v
    if inRange n then .integer n else .badNumber
  | none => .badNumber

def isHexDigit (c : Char) : Bool := (digit? 16 c).isSome

/-- The base that a number begins with, and its digits. -/
def base? : List Char → Option (Nat × List Char)
  | '0' :: 'x' :: cs => some (16, cs)
  | '0' :: 'o' :: cs => some (8, cs)
  | '0' :: 'b' :: cs => some (2, cs)
  | _ => none

/-- An integer in a base that it names. It may lack digits, but then it has no value. -/
def based? (base : Nat) (cs : List Char) : Option Document :=
  if cs.all (fun c => c = '_' || (digit? base c).isSome) && separated isHexDigit cs then
    some (integer base false cs)
  else none

/-- A zero in front of other digits. -/
def hasLeadingZero (cs : List Char) : Bool := cs.head? = some '0' && 1 < cs.length

/-- An integer without its sign. Behind an underscore and a digit other characters may follow, but
then the integer has no value. -/
def integer? (negative : Bool) (cs : List Char) : Option Document :=
  let rest := cs.dropWhile Char.isDigit
  if (rest.head? = some '_' || rest.isEmpty && !cs.isEmpty) && !hasLeadingZero cs
      && separated isHexDigit cs then
    some (integer 10 negative cs)
  else none

/-- Digits and underscores at the front, of which one at least is a digit. -/
def digitRun? (cs : List Char) : Option (List Char × List Char) :=
  let ds := cs.takeWhile fun c => c.isDigit || c = '_'
  if ds.any Char.isDigit then some (ds, cs.drop ds.length) else none

def fraction? : List Char → Option (List Char × List Char)
  | '.' :: cs => digitRun? cs
  | cs => some ([], cs)

def isExponentMark (c : Char) : Bool := c = 'e' || c = 'E'

def exponent? (cs : List Char) : Option (Int × List Char) :=
  if cs.head?.any isExponentMark then do
    let (negative, cs) := sign (cs.drop 1)
    let (ds, cs) ← digitRun? cs
    let e ← number? 10 0 (withoutUnderscores ds)
    return (if negative then -(e : Int) else e, cs)
  else some (0, cs)

/-- A number with a fraction, an exponent or both, without its sign. -/
def decimal? (cs : List Char) : Option Binary64.Decimal := do
  let (whole, cs) ← digitRun? cs
  let (frac, cs) ← fraction? cs
  let (e, cs) ← exponent? cs
  let frac := withoutUnderscores frac
  let digits ← number? 10 0 (withoutUnderscores whole ++ frac)
  let zero := whole.head? = some '0' && 1 < (withoutUnderscores whole).length
  if cs.isEmpty && !zero then some ⟨digits, e - frac.length⟩ else none

def real? (cs : List Char) : Option Document :=
  if separated Char.isDigit cs then
    (decimal? cs).map fun d => if d.overflows then .badNumber else .real
  else none

def isRealMark (c : Char) : Bool := c = '.' || isExponentMark c

/-- A number without a sign may name its base. -/
def numeral? (cs : List Char) : Option Document :=
  match base? cs with
  | some (base, ds) => based? base ds
  | none =>
    let (negative, body) := sign cs
    if body.any isRealMark then real? body else integer? negative body

/-- Infinity, or not a number. -/
def isNamedReal (cs : List Char) : Bool :=
  let cs := (sign cs).2
  cs = "inf".toList || cs = "nan".toList

/-- A word that begins like a date or a time is not taken for anything else. -/
def beginsMoment (cs : List Char) : Bool :=
  ((sign cs).2.dropWhile Char.isDigit).head?.any fun c => c = '-' || c = ':'

/-- Blanks count as characters of a word, but only a date and the time after it may have a space
between them. -/
def word? (cs : List Char) : Option Document :=
  if cs = "true".toList then some (.boolean true)
  else if cs = "false".toList then some (.boolean false)
  else if isNamedReal cs then some .real
  else if beginsMoment cs then if isMoment cs then some .moment else none
  else if cs.contains ' ' then none
  else numeral? cs

/-- Marks, blanks and line ends are not characters of a word by themselves. -/
def isWordChar (c : Char) : Bool := !"=,[]\x7b\x7d# \t\r\n".toList.contains c

/-- Behind blanks, a quote begins a string and a point begins nothing. -/
def beginsWord (c : Char) : Bool := isWordChar c && c ≠ '\x22' && c ≠ '\x27' && c ≠ '.'

/-- The word at the front. It goes on behind blanks where another word begins. -/
def splitWord : List Char → List Char × List Char
  | [] => ([], [])
  | c :: cs =>
    if isWordChar c || isSpace c && (skipSpaces cs).head?.any beginsWord then
      let r := splitWord cs
      (c :: r.1, r.2)
    else ([], c :: cs)

end TypedSql.Toml
