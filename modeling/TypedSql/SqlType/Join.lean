import TypedSql.Error

namespace TypedSql

/-- The float that takes in an integer. -/
def IntWidth.toFloat : IntWidth → FloatWidth
  | w8 | w16 => .single
  | w32 | w64 => .double

namespace SqlType

/-- The decimal with the digits of both on either side of the point, as far as the precision
reaches. -/
def widen (p s q t : Nat) : SqlType :=
  let scale := max s t
  let precision := min maxPrecision (max (p - s) (q - t) + scale)
  decimal precision (min scale precision)

/-- The type to which two types widen. A float takes in the integers that its significand holds, and
a decimal takes in an integer with as many digits as that can have. -/
def join : SqlType → SqlType → Option SqlType
  | null, t => some t
  | t, null => some t
  | boolean, boolean => some boolean
  | string, string => some string
  | integer v, integer w => some (integer (v.max w))
  | floating v, floating w => some (floating (v.max w))
  | integer v, floating w => some (floating (v.toFloat.max w))
  | floating v, integer w => some (floating (w.toFloat.max v))
  | decimal p s, decimal q t => some (if p = q ∧ s = t then decimal p s else widen p s q t)
  | decimal p s, integer w => some (widen p s w.digits 0)
  | integer w, decimal p s => some (widen p s w.digits 0)
  | decimal _ _, floating _ => some (floating .double)
  | floating _, decimal _ _ => some (floating .double)
  | _, _ => none

def joinFrom (t : SqlType) : List SqlType → Option SqlType
  | [] => some t
  | u :: us => (t.join u).bind fun v => joinFrom v us

/-- The type to which every one of `ts` widens, for an operation that needs one. -/
def joinAll (operation : String) (ts : List SqlType) : Except Error SqlType :=
  match joinFrom null ts with
  | some t => .ok t
  | none => .error (.typeMismatch operation ts)

/-- The narrowest integer type of a number of at most 64 bits. -/
def ofInteger (n : Int) : SqlType :=
  integer (if IntWidth.w8.Holds n then .w8 else if IntWidth.w16.Holds n then .w16
    else if IntWidth.w32.Holds n then .w32 else .w64)

end SqlType

end TypedSql
