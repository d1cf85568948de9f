import Mathlib.Order.Lattice
import TypedSql.SqlType.Join

namespace TypedSql

namespace SqlType

/-- Digits before the point of the numbers that have the most of them. -/
def wholeDigits : SqlType → Nat
  | integer .w8 => 3
  | integer .w16 => 5
  | integer .w32 => 10
  | integer .w64 => 19
  | decimal p s => p - s
  | _ => 0

/-- Digits after the point. -/
def scale : SqlType → Nat
  | decimal _ s => s
  | _ => 0

def largest (f : SqlType → Nat) (ts : List SqlType) : Nat := (ts.map f).foldr max 0

/-- Whether no type but a double takes in all of these numbers. -/
def NeedDouble (ts : List SqlType) : Prop :=
  floating .double ∈ ts ∨ ((∃ t ∈ ts, t.isFloating) ∧ ∃ t ∈ ts, t.isDecimal) ∨
    (floating .single ∈ ts ∧ (integer .w32 ∈ ts ∨ integer .w64 ∈ ts))

instance (ts : List SqlType) : Decidable (NeedDouble ts) :=
  inferInstanceAs (Decidable (_ ∨ _ ∨ _))

/-- The widest of integers. -/
def widestWidth (ts : List SqlType) : IntWidth :=
  if integer .w64 ∈ ts then .w64
  else if integer .w32 ∈ ts then .w32
  else if integer .w16 ∈ ts then .w16
  else .w8

/-- The type that takes in all of these types of numbers. -/
def numberType (ts : List SqlType) : SqlType :=
  if NeedDouble ts then floating .double
  else if floating .single ∈ ts then floating .single
  else if ∃ t ∈ ts, t.isDecimal then
    decimal (min 38 (largest wholeDigits ts + largest scale ts)) (largest scale ts)
  else integer (widestWidth ts)

/-- The type that takes in all of these types, of which none is null. -/
def sharedType? (ts : List SqlType) : Option SqlType :=
  if ts = [] then some null
  else if ∀ t ∈ ts, t = boolean then some boolean
  else if ∀ t ∈ ts, t = string then some string
  else if ∀ t ∈ ts, t.isNumeric then some (numberType ts)
  else none

/-- The type that takes in all of these types. -/
def commonType? (ts : List SqlType) : Option SqlType := sharedType? (ts.filter (· ≠ null))

variable {t u v : SqlType} {ts us : List SqlType}

/-- The digits that an integer is given as a decimal. -/
theorem wholeDigits_integer (w : IntWidth) : (integer w).wholeDigits = w.digits := by
  cases w <;> rfl

theorem largest_cons (f : SqlType → Nat) (t : SqlType) (ts : List SqlType) :
    largest f (t :: ts) = max (f t) (largest f ts) := rfl

theorem largest_le_iff {f : SqlType → Nat} {n : Nat} :
    largest f ts ≤ n ↔ ∀ t ∈ ts, f t ≤ n := by
  induction ts with
  | nil => simp [largest]
  | cons t ts ih => rw [largest_cons, Nat.max_le, ih, List.forall_mem_cons]

theorem largest_congr (f : SqlType → Nat) (h : ∀ t, t ∈ ts ↔ t ∈ us) :
    largest f ts = largest f us := by
  refine eq_of_forall_ge_iff fun n => ?_
  simp only [largest_le_iff, h]

theorem numberType_congr (h : ∀ t, t ∈ ts ↔ t ∈ us) : numberType ts = numberType us := by
  have hdouble : NeedDouble ts ↔ NeedDouble us := by simp only [NeedDouble, h]
  have hwidest : widestWidth ts = widestWidth us := by simp only [widestWidth, h]
  simp only [numberType, hdouble, hwidest, largest_congr _ h, h]

theorem sharedType?_congr (h : ∀ t, t ∈ ts ↔ t ∈ us) : sharedType? ts = sharedType? us := by
  have hnil : ts = [] ↔ us = [] := by
    rw [List.eq_nil_iff_forall_not_mem, List.eq_nil_iff_forall_not_mem]
    simp only [h]
  simp only [sharedType?, hnil, numberType_congr h, h]

/-- Only the types that occur count, and null does not. -/
theorem commonType?_congr (h : ∀ t, t ≠ null → (t ∈ ts ↔ t ∈ us)) :
    commonType? ts = commonType? us := by
  refine sharedType?_congr fun t => ?_
  simp only [List.mem_filter, decide_eq_true_eq]
  constructor
  · rintro ⟨hm, hn⟩
    exact ⟨(h t hn).mp hm, hn⟩
  · rintro ⟨hm, hn⟩
    exact ⟨(h t hn).mpr hm, hn⟩

theorem commonType?_null (ts : List SqlType) : commonType? (null :: ts) = commonType? ts := by
  refine commonType?_congr fun t ht => ?_
  rw [List.mem_cons, or_iff_right ht]

end SqlType

namespace IntWidth

theorem max_comm (v w : IntWidth) : v.max w = w.max v := by
  cases v <;> cases w <;> rfl

theorem max_self (w : IntWidth) : w.max w = w := by
  cases w <;> rfl

theorem digits_max (v w : IntWidth) : (v.max w).digits = Nat.max v.digits w.digits := by
  cases v <;> cases w <;> rfl

end IntWidth

namespace SqlType

variable {t u v : SqlType} {ts us : List SqlType} {p s q r : Nat}

theorem widen_comm (p s q r : Nat) : widen p s q r = widen q r p s := by
  simp only [widen, Nat.max_comm s r, Nat.max_comm (p - s) (q - r)]

theorem join_comm (t u : SqlType) : t.join u = u.join t := by
  cases t with
  | null => cases u <;> rfl
  | boolean | string => cases u <;> rfl
  | integer v =>
    cases u with
    | integer w => simp only [join, IntWidth.max_comm v w]
    | _ => rfl
  | floating v =>
    cases u with
    | floating w => cases v <;> cases w <;> rfl
    | _ => rfl
  | decimal p s =>
    cases u with
    | decimal q r =>
      simp only [join]
      by_cases h : p = q ∧ s = r
      · rw [if_pos h, if_pos ⟨h.1.symm, h.2.symm⟩, h.1, h.2]
      · rw [if_neg h, if_neg fun hn => h ⟨hn.1.symm, hn.2.symm⟩, widen_comm]
    | _ => rfl

theorem join_self (t : SqlType) : t.join t = some t := by
  cases t with
  | integer w => rw [join, IntWidth.max_self]
  | floating w => cases w <;> rfl
  | decimal p s => rw [join, if_pos ⟨rfl, rfl⟩]
  | _ => rfl

theorem widen_eq {p s q r : Nat} (hs : s ≤ maxPrecision) (hr : r ≤ maxPrecision) :
    widen p s q r =
      decimal (min maxPrecision (max (p - s) (q - r) + max s r)) (max s r) := by
  have hscale : max s r ≤ min maxPrecision (max (p - s) (q - r) + max s r) := by omega
  simp only [widen, Nat.min_eq_left hscale]

/-- A valid decimal widens to itself, so that the test for equal decimals is of no account. -/
theorem join_decimals {p s q r : Nat} (h : (decimal p s).Valid) :
    (decimal p s).join (decimal q r) = some (widen p s q r) := by
  rw [join]
  by_cases heq : p = q ∧ s = r
  · obtain ⟨rfl, rfl⟩ := heq
    obtain ⟨-, hp, hs⟩ := h
    have hsum : max (p - s) (p - s) + max s s = p := by omega
    rw [if_pos ⟨rfl, rfl⟩, widen_eq (by omega) (by omega), hsum, Nat.min_eq_right hp, Nat.max_self]
  · rw [if_neg heq]

/-- What an integer or a decimal becomes with a decimal. -/
theorem join_decimal {p s : Nat} (h : (decimal p s).Valid) (ht : t.isInteger ∨ t.isDecimal)
    (hv : t.Valid) :
    (decimal p s).join t = some (decimal
      (min maxPrecision (max (p - s) t.wholeDigits + max s t.scale)) (max s t.scale)) := by
  have hs : s ≤ maxPrecision := Nat.le_trans h.2.2 h.2.1
  cases t with
  | integer w =>
    rw [wholeDigits_integer]
    exact congrArg some (widen_eq hs (Nat.zero_le _))
  | decimal q r =>
    rw [join_decimals h]
    exact congrArg some (widen_eq hs (Nat.le_trans hv.2.2 hv.2.1))
  | _ => rcases ht with ht | ht <;> cases ht

/-- A decimal cut off and then widened is widened and then cut off. -/
theorem cut_once {whole s n r : Nat} (hs : s ≤ maxPrecision) :
    min maxPrecision (max (min maxPrecision (whole + s) - s) n + max s r) =
      min maxPrecision (max whole n + max s r) := by
  omega

theorem numberType_integers (w x : IntWidth) (ts : List SqlType) :
    numberType (integer w :: integer x :: ts) = numberType (integer (w.max x) :: ts) := by
  have hdouble : NeedDouble (integer w :: integer x :: ts) ↔
      NeedDouble (integer (w.max x) :: ts) := by
    cases w <;> cases x <;>
      simp [NeedDouble, IntWidth.max, IntWidth.bits, isFloating, isDecimal, family]
  have hwidest : widestWidth (integer w :: integer x :: ts) =
      widestWidth (integer (w.max x) :: ts) := by
    cases w <;> cases x <;> simp [widestWidth, IntWidth.max, IntWidth.bits]
  have hwhole : largest wholeDigits (integer w :: integer x :: ts) =
      largest wholeDigits (integer (w.max x) :: ts) := by
    simp only [largest_cons, wholeDigits_integer, IntWidth.digits_max, Nat.max_assoc]
  simp [numberType, hdouble, hwidest, hwhole, largest_cons, scale, isDecimal, family]

theorem numberType_integer_floating (w : IntWidth) (x : FloatWidth) (ts : List SqlType) :
    numberType (integer w :: floating x :: ts) = numberType (floating (w.toFloat.max x) :: ts) := by
  cases w <;> cases x <;>
    simp [numberType, NeedDouble, isFloating, isDecimal, family, IntWidth.toFloat, FloatWidth.max]

theorem numberType_floatings (w x : FloatWidth) (ts : List SqlType) :
    numberType (floating w :: floating x :: ts) = numberType (floating (w.max x) :: ts) := by
  cases w <;> cases x <;>
    simp [numberType, NeedDouble, isFloating, isDecimal, family, FloatWidth.max]

theorem numberType_decimal_floating (p s : Nat) (w : FloatWidth) (ts : List SqlType) :
    numberType (decimal p s :: floating w :: ts) = numberType (floating .double :: ts) := by
  cases w <;> simp [numberType, NeedDouble, isFloating, isDecimal, family]

/-- With a decimal among the numbers, one float makes them doubles. -/
theorem numberType_of_decimal (h : ∃ t ∈ ts, t.isDecimal) :
    numberType ts =
      if ∃ t ∈ ts, t.isFloating then floating .double
      else decimal (min maxPrecision (largest wholeDigits ts + largest scale ts))
        (largest scale ts) := by
  have hfloat : ∀ w, floating w ∈ ts → ∃ t ∈ ts, t.isFloating := fun w hw => ⟨_, hw, rfl⟩
  have hdouble : NeedDouble ts ↔ ∃ t ∈ ts, t.isFloating := by
    constructor
    · rintro (hd | ⟨hf, -⟩ | ⟨hs, -⟩)
      · exact hfloat .double hd
      · exact hf
      · exact hfloat .single hs
    · intro hf
      exact .inr (.inl ⟨hf, h⟩)
  unfold numberType
  by_cases hf : ∃ t ∈ ts, t.isFloating
  · rw [if_pos (hdouble.mpr hf), if_pos hf]
  · have hsingle : floating .single ∉ ts := fun hs => hf (hfloat .single hs)
    rw [if_neg fun hd => hf (hdouble.mp hd), if_neg hsingle, if_pos h, if_neg hf]
    rfl

theorem numberType_decimal {p s : Nat} (h : (decimal p s).Valid) (ht : t.isInteger ∨ t.isDecimal)
    (hv : t.Valid) (ts : List SqlType) (hj : (decimal p s).join t = some v) :
    numberType (decimal p s :: t :: ts) = numberType (v :: ts) := by
  have hscale : max s t.scale ≤ maxPrecision := by
    have hs : s ≤ maxPrecision := Nat.le_trans h.2.2 h.2.1
    cases t with
    | decimal q r => exact Nat.max_le.mpr ⟨hs, Nat.le_trans hv.2.2 hv.2.1⟩
    | _ => exact Nat.max_le.mpr ⟨hs, Nat.zero_le _⟩
  have hfloat : t.isFloating = false := by
    cases t with
    | integer | decimal => rfl
    | _ => rcases ht with ht | ht <;> cases ht
  have hdecimal : ∀ q r (us : List SqlType), ∃ u ∈ decimal q r :: us, u.isDecimal :=
    fun q r us => ⟨_, List.mem_cons_self, rfl⟩
  rw [join_decimal h ht hv] at hj
  cases hj
  rw [numberType_of_decimal (hdecimal _ _ _), numberType_of_decimal (hdecimal _ _ _)]
  have hnone : ∀ q r, (decimal q r).isFloating = false := fun q r => rfl
  have hwhole : ∀ q r, (decimal q r).wholeDigits = q - r := fun q r => rfl
  have hplaces : ∀ q r, (decimal q r).scale = r := fun q r => rfl
  simp only [List.mem_cons, exists_eq_or_imp, hnone, hfloat, Bool.false_eq_true, false_or,
    largest_cons, hwhole, hplaces, ← Nat.max_assoc, cut_once hscale]

/-- Two numbers may be replaced by what they widen to. -/
theorem numberType_join (ht : t.isNumeric) (hu : u.isNumeric) (hvt : t.Valid) (hvu : u.Valid)
    (h : t.join u = some v) (ts : List SqlType) :
    numberType (t :: u :: ts) = numberType (v :: ts) := by
  have hswap : numberType (t :: u :: ts) = numberType (u :: t :: ts) :=
    numberType_congr fun x => by simp only [List.mem_cons, or_left_comm]
  cases t with
  | null | boolean | string => cases ht
  | integer w =>
    cases u with
    | null | boolean | string => cases hu
    | integer x =>
      cases h
      exact numberType_integers w x ts
    | floating x =>
      cases h
      exact numberType_integer_floating w x ts
    | decimal q r => exact hswap.trans (numberType_decimal hvu (.inl rfl) hvt ts h)
  | floating w =>
    cases u with
    | null | boolean | string => cases hu
    | integer x =>
      cases h
      exact hswap.trans (numberType_integer_floating x w ts)
    | floating x =>
      cases h
      exact numberType_floatings w x ts
    | decimal q r =>
      cases h
      exact hswap.trans (numberType_decimal_floating q r w ts)
  | decimal p s =>
    cases u with
    | null | boolean | string => cases hu
    | integer x => exact numberType_decimal hvt (.inl rfl) hvu ts h
    | floating x =>
      cases h
      exact numberType_decimal_floating p s x ts
    | decimal q r => exact numberType_decimal hvt (.inr rfl) hvu ts h

theorem boolean_or_string_or_number (h : t ≠ null) :
    t = boolean ∨ t = string ∨ t.isNumeric := by
  cases t with
  | null => exact absurd rfl h
  | boolean => exact .inl rfl
  | string => exact .inr (.inl rfl)
  | integer | floating | decimal => exact .inr (.inr rfl)

/-- The kinds of types that widen to each other, null apart. -/
theorem join_cases (ht : t ≠ null) (hu : u ≠ null) (h : t.join u = some v) :
    (t = boolean ∧ u = boolean ∧ v = boolean) ∨ (t = string ∧ u = string ∧ v = string) ∨
      (t.isNumeric ∧ u.isNumeric ∧ v.isNumeric) := by
  cases t with
  | null => exact absurd rfl ht
  | boolean =>
    cases u with
    | null => exact absurd rfl hu
    | boolean => exact .inl ⟨rfl, rfl, (Option.some.inj h).symm⟩
    | _ => cases h
  | string =>
    cases u with
    | null => exact absurd rfl hu
    | string => exact .inr (.inl ⟨rfl, rfl, (Option.some.inj h).symm⟩)
    | _ => cases h
  | integer | floating =>
    cases u with
    | null => exact absurd rfl hu
    | boolean | string => cases h
    | integer | floating | decimal =>
      cases h
      exact .inr (.inr ⟨rfl, rfl, rfl⟩)
  | decimal p s =>
    cases u with
    | null => exact absurd rfl hu
    | boolean | string => cases h
    | integer | floating =>
      cases h
      exact .inr (.inr ⟨rfl, rfl, rfl⟩)
    | decimal q r =>
      simp only [join, Option.some.injEq] at h
      refine .inr (.inr ⟨rfl, rfl, ?_⟩)
      rw [← h]
      split <;> rfl

/-- Numbers always widen to a number. -/
theorem join_numbers (ht : t.isNumeric) (hu : u.isNumeric) : ∃ v, t.join u = some v := by
  cases t with
  | null | boolean | string => cases ht
  | integer | floating | decimal =>
    cases u with
    | null | boolean | string => cases hu
    | integer | floating | decimal => exact ⟨_, rfl⟩

theorem join_decimal_valid {p s : Nat} (h : (decimal p s).Valid) (ht : t.isInteger ∨ t.isDecimal)
    (hv : t.Valid) (hj : (decimal p s).join t = some v) : v.Valid := by
  rw [join_decimal h ht hv] at hj
  cases hj
  have hscale : t.scale ≤ maxPrecision := by
    cases t with
    | decimal q r => exact Nat.le_trans hv.2.2 hv.2.1
    | _ => exact Nat.zero_le _
  simp only [Valid, maxPrecision] at *
  omega

/-- A decimal that cannot be does not come out of types that can. -/
theorem join_valid (ht : t.Valid) (hu : u.Valid) (h : t.join u = some v) : v.Valid := by
  cases t with
  | null =>
    cases h
    exact hu
  | boolean | string => cases u <;> cases h <;> trivial
  | floating w =>
    cases u with
    | boolean | string => cases h
    | _ =>
      cases h
      trivial
  | integer w =>
    cases u with
    | boolean | string => cases h
    | decimal q r => exact join_decimal_valid hu (.inl rfl) ht h
    | _ =>
      cases h
      trivial
  | decimal p s =>
    cases u with
    | null =>
      cases h
      exact ht
    | boolean | string => cases h
    | floating w =>
      cases h
      trivial
    | integer w => exact join_decimal_valid ht (.inl rfl) hu h
    | decimal q r => exact join_decimal_valid ht (.inr rfl) hu h

theorem joinFrom_valid {ts : List SqlType} (ht : t.Valid) (h : ∀ u ∈ ts, u.Valid)
    (hj : joinFrom t ts = some v) : v.Valid := by
  induction ts generalizing t with
  | nil =>
    cases hj
    exact ht
  | cons u ts ih =>
    obtain ⟨hu, hts⟩ := List.forall_mem_cons.mp h
    obtain ⟨w, hw, hj⟩ := Option.bind_eq_some_iff.mp hj
    exact ih (join_valid ht hu hw) hts hj

theorem sharedType?_boolean (ts : List SqlType) :
    sharedType? (boolean :: ts) = if ∀ t ∈ ts, t = boolean then some boolean else none := by
  simp [sharedType?, isNumeric, isInteger, isFloating, isDecimal, family]

theorem sharedType?_string (ts : List SqlType) :
    sharedType? (string :: ts) = if ∀ t ∈ ts, t = string then some string else none := by
  simp [sharedType?, isNumeric, isInteger, isFloating, isDecimal, family]

theorem sharedType?_number (ht : t.isNumeric) (ts : List SqlType) :
    sharedType? (t :: ts) =
      if ∀ u ∈ ts, u.isNumeric then some (numberType (t :: ts)) else none := by
  have hb : t ≠ boolean := by
    rintro rfl
    cases ht
  have hs : t ≠ string := by
    rintro rfl
    cases ht
  simp [sharedType?, hb, hs, ht]

/-- Two types may be replaced by what they widen to. -/
theorem sharedType?_join (ht : t ≠ null) (hu : u ≠ null) (hvt : t.Valid) (hvu : u.Valid)
    (ts : List SqlType) :
    sharedType? (t :: u :: ts) = (t.join u).bind fun v => sharedType? (v :: ts) := by
  cases hj : t.join u with
  | some v =>
    rw [Option.bind_some]
    rcases join_cases ht hu hj with ⟨rfl, rfl, rfl⟩ | ⟨rfl, rfl, rfl⟩ | ⟨hnt, hnu, hnv⟩
    · simp only [sharedType?_boolean, List.forall_mem_cons, true_and]
    · simp only [sharedType?_string, List.forall_mem_cons, true_and]
    · simp only [sharedType?_number hnt, sharedType?_number hnv, List.forall_mem_cons, hnu,
        true_and, numberType_join hnt hnu hvt hvu hj]
  | none =>
    rw [Option.bind_none]
    rcases boolean_or_string_or_number ht with rfl | rfl | hnt
    · have hne : u ≠ boolean := by
        rintro rfl
        cases hj
      simp only [sharedType?_boolean, List.forall_mem_cons, hne, false_and, if_false]
    · have hne : u ≠ string := by
        rintro rfl
        cases hj
      simp only [sharedType?_string, List.forall_mem_cons, hne, false_and, if_false]
    · have hne : ¬∀ x ∈ u :: ts, x.isNumeric := by
        intro hall
        obtain ⟨v, hv⟩ := join_numbers hnt (hall u List.mem_cons_self)
        rw [hj] at hv
        cases hv
      rw [sharedType?_number hnt, if_neg hne]

theorem commonType?_cons (ht : t ≠ null) (ts : List SqlType) :
    commonType? (t :: ts) = sharedType? (t :: ts.filter (· ≠ null)) := by
  rw [commonType?, List.filter_cons_of_pos (by simpa using ht)]

theorem join_null (t : SqlType) : t.join null = some t := by
  cases t <;> rfl

theorem join_ne_null (ht : t ≠ null) (h : t.join u = some v) : v ≠ null := by
  by_cases hu : u = null
  · rw [hu, join_null] at h
    exact Option.some.inj h ▸ ht
  · rintro rfl
    rcases join_cases ht hu h with ⟨-, -, hv⟩ | ⟨-, -, hv⟩ | ⟨-, -, hv⟩ <;> cases hv

/-- One step of the fold. -/
theorem commonType?_join (hvt : t.Valid) (hvu : u.Valid) (ts : List SqlType) :
    commonType? (t :: u :: ts) = (t.join u).bind fun v => commonType? (v :: ts) := by
  by_cases ht : t = null
  · subst ht
    exact commonType?_null _
  by_cases hu : u = null
  · subst hu
    rw [join_null, Option.bind_some]
    refine commonType?_congr fun x hx => ?_
    simp only [List.mem_cons, hx, false_or]
  have hstep : ∀ v, t.join u = some v →
      commonType? (v :: ts) = sharedType? (v :: ts.filter (· ≠ null)) :=
    fun v hv => commonType?_cons (join_ne_null ht hv) ts
  rw [commonType?_cons ht, List.filter_cons_of_pos (by simpa using hu),
    sharedType?_join ht hu hvt hvu]
  exact Option.bind_congr fun v hv => (hstep v hv).symm

theorem commonType?_single (h : t.Valid) : commonType? [t] = some t := by
  cases t with
  | null | boolean | string => rfl
  | integer w | floating w => cases w <;> rfl
  | decimal p s =>
    obtain ⟨-, hp, hs⟩ := h
    have hsum : max (p - s) 0 + max s 0 = p := by omega
    have hdecimal : ∃ t ∈ [decimal p s], t.isDecimal := ⟨_, List.mem_singleton_self _, rfl⟩
    have hnumber := numberType_of_decimal hdecimal
    have hfloat : ¬∃ t ∈ [decimal p s], t.isFloating := by simp [isFloating, family]
    have hlargest : largest wholeDigits [decimal p s] + largest scale [decimal p s] = p := hsum
    rw [if_neg hfloat, hlargest, Nat.min_eq_right hp] at hnumber
    have hcommon : commonType? [decimal p s] = some (numberType [decimal p s]) := rfl
    rw [hcommon, hnumber]
    exact congrArg (fun n => some (decimal p n)) (Nat.max_zero s)

/-- The fold comes to the closed form. -/
theorem joinFrom_eq (t : SqlType) {ts : List SqlType} (ht : t.Valid) (h : ∀ u ∈ ts, u.Valid) :
    joinFrom t ts = commonType? (t :: ts) := by
  -- The first type stands for all that the fold has taken in, which keeps it a type that can be.
  induction ts generalizing t with
  | nil => exact (commonType?_single ht).symm
  | cons u ts ih =>
    obtain ⟨hu, hts⟩ := List.forall_mem_cons.mp h
    rw [joinFrom, commonType?_join ht hu]
    exact Option.bind_congr fun v hv => ih v (join_valid ht hu hv) hts

theorem joinFrom_null {ts : List SqlType} (h : ∀ t ∈ ts, t.Valid) :
    joinFrom null ts = commonType? ts := by
  rw [joinFrom_eq null trivial h, commonType?_null]

/-- Widening is associative where decimals are what they can be. -/
theorem join_assoc {a b c : SqlType} (ha : a.Valid) (hb : b.Valid) (hc : c.Valid) :
    ((a.join b).bind fun v => v.join c) = (b.join c).bind fun v => a.join v := by
  have hfold {a b c : SqlType} (ha : a.Valid) (hb : b.Valid) (hc : c.Valid) :
      ((a.join b).bind fun v => v.join c) = commonType? [a, b, c] := by
    rw [← joinFrom_eq a ha (by simp [hb, hc])]
    simp [joinFrom]
  have hrotate : commonType? [a, b, c] = commonType? [b, c, a] := by
    refine commonType?_congr fun t _ => ?_
    simp only [List.mem_cons, List.not_mem_nil, or_false]
    exact or_comm.trans or_assoc
  rw [hfold ha hb hc, hrotate, ← hfold hb hc ha]
  simp only [join_comm a]

/-- Widening a list is one look at the types that occur in it: their order, how often they occur and
nulls among them make no difference. -/
theorem joinAll_closed_form (operation : String) {ts : List SqlType} (h : ∀ t ∈ ts, t.Valid) :
    (joinAll operation ts =
      match commonType? ts with
      | some t => .ok t
      | none => .error (.typeMismatch operation ts)) ∧
    (∀ us : List SqlType, (∀ t, t ≠ null → (t ∈ ts ↔ t ∈ us)) →
      joinFrom null us = joinFrom null ts) ∧
    (∀ t u : SqlType, t.join u = u.join t) ∧
    (∀ t : SqlType, t.join t = some t) ∧
    ∀ t u v : SqlType, t.Valid → u.Valid → v.Valid →
      ((t.join u).bind fun x => x.join v) = (u.join v).bind fun x => t.join x := by
  refine ⟨?_, fun us hus => ?_, join_comm, join_self, fun t u v => join_assoc⟩
  · cases hc : commonType? ts with
    | none => simp [joinAll, joinFrom_null h, hc]
    | some t => simp [joinAll, joinFrom_null h, hc]
  · have hvalid : ∀ u ∈ us, u.Valid := by
      intro u hu
      by_cases hn : u = null
      · subst hn
        exact True.intro
      · exact h u ((hus u hn).mpr hu)
    rw [joinFrom_null hvalid, joinFrom_null h]
    exact (commonType?_congr hus).symm

/-- Decimals that are cut off on the way, with an integer and a null between them. -/
def prices : List SqlType := [decimal 38 10, null, integer .w64, decimal 30 20]

theorem prices_widen :
    (∀ t ∈ prices, t.Valid) ∧ joinAll "Coalesce" prices = .ok (decimal 38 20) ∧
      joinFrom null (prices.reverse ++ prices) = joinFrom null prices ∧
      joinAll "Add" [decimal 5 2, integer .w64] = .ok (decimal 21 2) := by
  have hvalid : ∀ t ∈ prices, t.Valid := by decide
  have hsum : ∀ t ∈ [decimal 5 2, integer .w64], t.Valid := by decide
  obtain ⟨hall, hfree, -⟩ := joinAll_closed_form "Coalesce" hvalid
  refine ⟨hvalid, hall, hfree _ fun t _ => ?_, (joinAll_closed_form "Add" hsum).1⟩
  rw [List.mem_append, List.mem_reverse, or_self]

end SqlType

end TypedSql
