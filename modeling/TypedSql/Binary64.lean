namespace TypedSql

/-- A double by its bits, so that equality tells every two of them apart. -/
structure Binary64 where
  bits : UInt64
deriving DecidableEq

namespace Binary64

def isNegative (x : Binary64) : Bool := Nat.pow 2 63 ≤ x.bits.toNat

def biasedExponent (x : Binary64) : Nat := x.bits.toNat / Nat.pow 2 52 % Nat.pow 2 11

def fraction (x : Binary64) : Nat := x.bits.toNat % Nat.pow 2 52

def isFinite (x : Binary64) : Bool := x.biasedExponent ≠ Nat.pow 2 11 - 1

def isNaN (x : Binary64) : Bool := !x.isFinite && x.fraction ≠ 0

/-- The significand of a finite number, as a whole number. -/
def significand (x : Binary64) : Nat :=
  if x.biasedExponent = 0 then x.fraction else Nat.pow 2 52 + x.fraction

/-- The power of two that the significand of a finite number counts. -/
def exponent (x : Binary64) : Int :=
  if x.biasedExponent = 0 then -1074 else (x.biasedExponent : Int) - 1075

/-- The number `digits · 10 ^ exponent`. -/
structure Decimal where
  digits : Nat
  exponent : Int
deriving DecidableEq

/-- Which of two neighbours to take for a value half way between them. -/
inductive Tie
  | up
  | even

/-- Whether a value half way between `d` and `d + 1` goes to `d + 1`. -/
def Tie.upward (d : Nat) : Tie → Bool
  | .up => true
  | .even => d % 2 = 1

/-- A positive value and the interval that rounds to it, in multiples of one unit. -/
structure Span where
  value : Nat
  low : Nat
  high : Nat
  closed : Bool

def Span.contains (s : Span) (n : Nat) : Bool :=
  if s.closed then s.low ≤ n && n ≤ s.high else s.low < n && n < s.high

/-- The interval of a nonzero finite double in units of a quarter of the last place. Below a power
of two the neighbour is half as far. -/
def span (x : Binary64) : Span :=
  let m := x.significand
  { value := 4 * m
    low := 4 * m - if x.fraction = 0 ∧ 1 < x.biasedExponent then 1 else 2
    high := 4 * m + 2
    closed := m % 2 = 0 }

def Span.scale (k : Nat) (s : Span) : Span :=
  { s with value := k * s.value, low := k * s.low, high := k * s.high }

/-- The multiple of `unit` in the span that is nearest to its value. -/
def Span.nearest? (tie : Tie) (s : Span) (unit : Nat) : Option Nat :=
  let d := s.value / unit
  let below := s.contains (d * unit)
  let above := s.contains ((d + 1) * unit)
  let rest := 2 * (s.value % unit)
  let upward := unit < rest || unit = rest && tie.upward d
  if below && above then some (if upward then d + 1 else d)
  else if below then some d
  else if above then some (d + 1)
  else none

/-- The first grid with a hit, from `10 ^ k` down over `fuel` grids, on which the number has the
fewest digits. The unit of the span is `2 ^ q`. -/
def coarsest? (tie : Tie) (s : Span) (q : Int) : Nat → Int → Option Decimal
  | 0, _ => none
  | fuel + 1, k =>
    let unit := Nat.pow 2 (-q).toNat * Nat.pow 10 k.toNat
    match (s.scale (Nat.pow 2 q.toNat * Nat.pow 10 (-k).toNat)).nearest? tie unit with
    | some d => some ⟨d, k⟩
    | none => coarsest? tie s q fuel (k - 1)

def digitCount (n : Nat) : Nat := (Nat.toDigits 10 n).length

/-- The exponent of the leading digit of `n · 2 ^ q`, or one more. -/
def leading (n : Nat) (q : Int) : Int :=
  (digitCount (n * Nat.pow 2 q.toNat) : Int) - digitCount (Nat.pow 2 (-q).toNat)

def dropZeros : Nat → Decimal → Decimal
  | 0, d => d
  | fuel + 1, d => if d.digits % 10 = 0 then dropZeros fuel ⟨d.digits / 10, d.exponent + 1⟩ else d

/-- Seventeen digits tell all doubles apart; one grid more is for the leading digit's exponent. -/
def shortest (tie : Tie) (x : Binary64) : Decimal :=
  if x.significand = 0 then ⟨0, 0⟩
  else
    let s := x.span
    let q := x.exponent - 2
    match coarsest? tie s q 18 (leading s.value q) with
    | some d => dropZeros 18 d
    | none => ⟨0, 0⟩

/-- Where positional notation begins, and which way a tie between two shortest numbers goes. -/
structure Layout where
  least : Int
  tie : Tie

/-- Positional from `10 ^ -4` on. -/
def plain : Layout := ⟨-4, .up⟩

/-- Positional from `10 ^ -5` on. -/
def sql : Layout := ⟨-5, .even⟩

/-- The first power of ten that has an exponent. -/
def positionalEnd : Int := 16

def zeros (n : Nat) : List Char := List.replicate n '0'

/-- A fraction has at least one digit. -/
def withPoint (whole frac : List Char) : List Char :=
  whole ++ '.' :: if frac.isEmpty then ['0'] else frac

/-- The digits `ds`, of which the first counts `10 ^ e`, in positional notation. -/
def positional (ds : List Char) (e : Int) : List Char :=
  if e < 0 then withPoint ['0'] (zeros (-e - 1).toNat ++ ds)
  else
    let n := e.toNat + 1
    withPoint (ds.take n ++ zeros (n - ds.length)) (ds.drop n)

def scientific (ds : List Char) (e : Int) : List Char :=
  ds.take 1 ++ (if ds.length ≤ 1 then [] else '.' :: ds.drop 1) ++ 'e' :: (toString e).toList

def Layout.write (l : Layout) (x : Binary64) : List Char :=
  let d := x.shortest l.tie
  let ds := Nat.toDigits 10 d.digits
  let e := d.exponent + ds.length - 1
  (if x.isNegative then ['-'] else []) ++
    if l.least ≤ e ∧ e < positionalEnd then positional ds e else scientific ds e

/-- The text of any double; those that are not finite have names. -/
def text (x : Binary64) : String :=
  if x.isFinite then String.ofList (plain.write x)
  else if x.isNaN then "NaN"
  else if x.isNegative then "-inf"
  else "inf"

/-- The text of a finite double as a SQL literal. -/
def sqlText? (x : Binary64) : Option String :=
  if x.isFinite then some (String.ofList (sql.write x)) else none

/-- The number half way between the largest finite double and the next power of two. It rounds
beyond all finite doubles, as does everything above it. -/
def roundingLimit : Nat := Nat.pow 2 1024 - Nat.pow 2 970

/-- How many digits stand before the point of a number below the limit, at most. -/
def mostDigits : Int := 309

namespace Decimal

/-- Whether the number rounds beyond all finite doubles. Where the number of digits before the point
settles it, no power is computed. -/
def overflows (d : Decimal) : Bool :=
  let n := digitCount d.digits + d.exponent
  if d.digits = 0 ∨ n < mostDigits then false
  else if mostDigits < n then true
  else
    roundingLimit * Nat.pow 10 (-d.exponent).toNat ≤ d.digits * Nat.pow 10 d.exponent.toNat

end Decimal

end Binary64

end TypedSql
