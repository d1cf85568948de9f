import Mathlib.Algebra.Order.Ring.Abs
import Mathlib.Algebra.Order.Ring.Rat
import Mathlib.Tactic.FieldSimp
import Mathlib.Tactic.NormNum
import TypedSql.Proofs.Construction
import TypedSql.Proofs.Promotion

namespace TypedSql

namespace IntWidth

/-- How far from zero the numbers of this width go. -/
def reach (w : IntWidth) : Nat := 2 ^ (w.bits - 1)

variable {v w : IntWidth} {n : ℤ}

theorem holds_iff : w.Holds n ↔ -(w.reach : ℤ) ≤ n ∧ n < w.reach := by
  cases w <;> rfl

/-- The table of digits is that of the numbers furthest from zero. -/
theorem digits_of_reach (w : IntWidth) : (Nat.toDigits 10 w.reach).length = w.digits := by
  cases w <;> decide

theorem reach_pos (w : IntWidth) : 0 < w.reach := Nat.two_pow_pos _

theorem reach_lt (w : IntWidth) : w.reach < 10 ^ w.digits := by
  cases w <;> decide

theorem lt_reach (w : IntWidth) : 10 ^ (w.digits - 1) < w.reach := by
  cases w <;> decide

theorem reach_le_iff : w.reach ≤ v.reach ↔ w.bits ≤ v.bits := by
  cases w <;> cases v <;> decide

theorem digits_pos (w : IntWidth) : 0 < w.digits := by
  cases w <;> decide

theorem abs_le_of_holds (h : w.Holds n) : |n| ≤ w.reach :=
  abs_le.mpr ⟨(holds_iff.mp h).1, (holds_iff.mp h).2.le⟩

end IntWidth

namespace SqlType

/-- Numbers that are values of the type. -/
def Holds : SqlType → ℚ → Prop
  | integer w, x => ∃ n : ℤ, w.Holds n ∧ x = n
  | decimal p s, x => ∃ m : ℤ, |m| < 10 ^ p ∧ x = m / 10 ^ s
  | _, _ => False

/-- No number of `u` is lost in `t`. -/
def Includes (t u : SqlType) : Prop := ∀ x, u.Holds x → t.Holds x

/-- Digits before the point of the values that have the most of them. -/
def integralDigits : SqlType → Nat
  | integer w => (Nat.toDigits 10 w.reach).length
  | decimal p s => p - s
  | _ => 0

theorem integralDigits_eq (t : SqlType) : t.integralDigits = t.wholeDigits := by
  cases t with
  | integer w => exact w.digits_of_reach.trans (wholeDigits_integer w).symm
  | _ => rfl

/-- Integers have no digits after the point. -/
theorem integer_digits (w : IntWidth) : (integer w).wholeDigits + (integer w).scale = w.digits :=
  wholeDigits_integer w

variable {t u : SqlType} {ts : List SqlType} {p s q r n : Nat} {x : ℚ}

/-- Digits may be added after the point, and further ones before it. -/
theorem Holds.more_digits (h : (decimal p s).Holds x) (hs : s ≤ r) (hp : p + (r - s) ≤ q) :
    (decimal q r).Holds x := by
  obtain ⟨m, hm, rfl⟩ := h
  obtain ⟨k, rfl⟩ := Nat.exists_eq_add_of_le hs
  rw [Nat.add_sub_cancel_left] at hp
  refine ⟨m * 10 ^ k, ?_, ?_⟩
  · have hten : (0 : ℤ) < 10 := by norm_num
    calc |m * 10 ^ k| = |m| * 10 ^ k := by rw [abs_mul, abs_pow, abs_of_pos hten]
      _ < 10 ^ p * 10 ^ k := mul_lt_mul_of_pos_right hm (by positivity)
      _ = 10 ^ (p + k) := (pow_add 10 p k).symm
      _ ≤ 10 ^ q := pow_le_pow_right₀ (by norm_num) hp
  · push_cast
    rw [pow_add]
    field_simp

/-- Every number is a decimal with the digits that its type needs on either side of the point. -/
theorem Holds.as_decimal (hv : t.Valid) (h : t.Holds x) :
    (decimal (t.wholeDigits + t.scale) t.scale).Holds x := by
  cases t with
  | integer w =>
    obtain ⟨n, hn, rfl⟩ := h
    refine ⟨n, ?_, by simp [scale]⟩
    rw [integer_digits]
    calc |n| ≤ w.reach := IntWidth.abs_le_of_holds hn
      _ < 10 ^ w.digits := by exact_mod_cast w.reach_lt
  | decimal p s =>
    have hsum : p - s + s = p := Nat.sub_add_cancel hv.2.2
    simpa only [wholeDigits, scale, hsum] using h
  | _ => exact h.elim

/-- A one in the last place. -/
theorem holds_last_place (ht : t.isInteger ∨ t.isDecimal) (hv : t.Valid) :
    t.Holds (1 / 10 ^ t.scale) := by
  cases t with
  | integer w => exact ⟨1, by cases w <;> decide, by simp [scale]⟩
  | decimal p s =>
    refine ⟨1, ?_, by simp [scale]⟩
    rw [abs_one]
    exact one_lt_pow₀ (by norm_num) (Nat.one_le_iff_ne_zero.mp hv.1)
  | _ => simp [isInteger, isDecimal, family] at ht

/-- A one in the first place. -/
theorem holds_first_place (ht : t.isInteger ∨ t.isDecimal) (hv : t.Valid) :
    0 < t.wholeDigits + t.scale ∧
      t.Holds (10 ^ (t.wholeDigits + t.scale - 1) / 10 ^ t.scale) := by
  cases t with
  | integer w =>
    rw [integer_digits]
    refine ⟨w.digits_pos, 10 ^ (w.digits - 1), ?_, by simp [scale]⟩
    have hlt : (10 : ℤ) ^ (w.digits - 1) < w.reach := by exact_mod_cast w.lt_reach
    have hpos : (0 : ℤ) < 10 ^ (w.digits - 1) := by positivity
    exact IntWidth.holds_iff.mpr ⟨by omega, hlt⟩
  | decimal p s =>
    have hsum : p - s + s = p := Nat.sub_add_cancel hv.2.2
    have hp := hv.1
    simp only [wholeDigits, scale, hsum]
    refine ⟨hp, 10 ^ (p - 1), ?_, by simp⟩
    rw [abs_of_nonneg (by positivity)]
    exact pow_lt_pow_right₀ (by norm_num) (by omega)
  | _ => simp [isInteger, isDecimal, family] at ht

theorem scale_le_of_holds (h : (decimal q r).Holds (1 / 10 ^ s)) : s ≤ r := by
  obtain ⟨m, -, hx⟩ := h
  have hm : (10 : ℚ) ^ r = m * 10 ^ s := by
    field_simp at hx
    rw [hx, mul_comm]
  have hdvd : (10 : ℤ) ^ s ∣ 10 ^ r := Dvd.intro_left m (by exact_mod_cast hm.symm)
  exact (Nat.pow_dvd_pow_iff_le_right (by norm_num : 1 < 10)).mp (by exact_mod_cast hdvd)

theorem digits_lt_of_holds (h : (decimal q r).Holds (10 ^ n / 10 ^ s)) (hs : s ≤ r) :
    n + (r - s) < q := by
  obtain ⟨m, hm, hx⟩ := h
  obtain ⟨k, rfl⟩ := Nat.exists_eq_add_of_le hs
  have hmq : (m : ℚ) = 10 ^ (n + k) := by
    rw [pow_add] at hx ⊢
    field_simp at hx
    exact hx.symm
  have hmz : m = 10 ^ (n + k) := by exact_mod_cast hmq
  rw [hmz, abs_of_nonneg (by positivity)] at hm
  rw [Nat.add_sub_cancel_left]
  exact (pow_lt_pow_iff_right₀ (by norm_num)).mp hm

/-- A decimal includes a type when it has as many digits after the point, and room for those before
it. -/
theorem decimal_includes_iff (ht : t.isInteger ∨ t.isDecimal) (hv : t.Valid) :
    (decimal q r).Includes t ↔ t.scale ≤ r ∧ t.wholeDigits + r ≤ q := by
  constructor
  · intro h
    have hs : t.scale ≤ r := scale_le_of_holds (h _ (holds_last_place ht hv))
    obtain ⟨hpos, hfirst⟩ := holds_first_place ht hv
    have hq := digits_lt_of_holds (h _ hfirst) hs
    exact ⟨hs, by omega⟩
  · rintro ⟨hs, hq⟩ x hx
    exact (hx.as_decimal hv).more_digits hs (by omega)

theorem integer_includes_iff {v w : IntWidth} :
    (integer v).Includes (integer w) ↔ w.bits ≤ v.bits := by
  constructor
  · intro h
    -- The lowest number is the one furthest from zero.
    have hpos := w.reach_pos
    have hholds : w.Holds (-(w.reach : ℤ)) := IntWidth.holds_iff.mpr (by omega)
    obtain ⟨n, hn, hx⟩ := h _ ⟨_, hholds, rfl⟩
    have hlow : -(w.reach : ℤ) = n := by exact_mod_cast hx
    have := IntWidth.holds_iff.mp hn
    exact IntWidth.reach_le_iff.mp (by omega)
  · rintro h _ ⟨n, hn, rfl⟩
    have hreach := IntWidth.reach_le_iff.mpr h
    have := IntWidth.holds_iff.mp hn
    exact ⟨n, IntWidth.holds_iff.mpr (by omega), rfl⟩

/-- No number of any of these types is lost in `t`. -/
def Covers (t : SqlType) (ts : List SqlType) : Prop := ∀ u ∈ ts, t.Includes u

theorem decimal_covers_iff (hne : ts ≠ [])
    (h : ∀ t ∈ ts, (t.isInteger ∨ t.isDecimal) ∧ t.Valid) :
    (decimal q r).Covers ts ↔ largest scale ts ≤ r ∧ largest wholeDigits ts + r ≤ q := by
  have heach : (decimal q r).Covers ts ↔ ∀ t ∈ ts, t.scale ≤ r ∧ t.wholeDigits + r ≤ q :=
    forall₂_congr fun t ht => decimal_includes_iff (h t ht).1 (h t ht).2
  rw [heach, largest_le_iff]
  constructor
  · intro hall
    -- Some type is there, so that there is room for the digits after the point.
    obtain ⟨t, ht⟩ := List.exists_mem_of_ne_nil ts hne
    have hq : r ≤ q := le_trans (Nat.le_add_left _ _) (hall t ht).2
    have hwhole : largest wholeDigits ts ≤ q - r :=
      largest_le_iff.mpr fun t ht => Nat.le_sub_of_add_le (hall t ht).2
    exact ⟨fun t ht => (hall t ht).1, by omega⟩
  · rintro ⟨hscale, hq⟩ t ht
    have hwhole : t.wholeDigits ≤ largest wholeDigits ts := largest_le_iff.mp le_rfl t ht
    exact ⟨hscale t ht, by omega⟩

theorem widestWidth_le_iff {v : IntWidth} :
    (widestWidth ts).bits ≤ v.bits ↔ ∀ w, integer w ∈ ts → w.bits ≤ v.bits := by
  have hall : (∀ w, integer w ∈ ts → w.bits ≤ v.bits) ↔
      (integer .w64 ∈ ts → v = .w64) ∧ (integer .w32 ∈ ts → v ≠ .w8 ∧ v ≠ .w16) ∧
        (integer .w16 ∈ ts → v ≠ .w8) := by
    constructor
    · intro h
      have h64 := h .w64
      have h32 := h .w32
      have h16 := h .w16
      cases v <;> simp_all [IntWidth.bits]
    · rintro ⟨h64, h32, h16⟩ w hw
      cases w <;> cases v <;> simp_all [IntWidth.bits]
  rw [hall]
  unfold widestWidth
  split_ifs <;> cases v <;> simp_all [IntWidth.bits]

theorem integer_covers_iff {v : IntWidth} (h : ∀ t ∈ ts, t.isInteger) :
    (integer v).Covers ts ↔ (widestWidth ts).bits ≤ v.bits := by
  rw [widestWidth_le_iff]
  constructor
  · intro hall w hw
    exact integer_includes_iff.mp (hall _ hw)
  · intro hall t ht
    cases t with
    | integer w => exact integer_includes_iff.mpr (hall w ht)
    | _ => exact absurd (h _ ht) (by simp [isInteger, family])

/-- Numbers widen to the type of numbers that takes all of them in. -/
theorem joinAll_numbers (operation : String) (hne : ts ≠ [])
    (h : ∀ t ∈ ts, t.isNumeric ∧ t.Valid) : joinAll operation ts = .ok (numberType ts) := by
  have hnull : ∀ t ∈ ts, t ≠ null := by
    rintro _ ht rfl
    cases (h _ ht).1
  have hfilter : ts.filter (· ≠ null) = ts := List.filter_eq_self.mpr (by simpa using hnull)
  rw [joinAll_eq_ok, joinFrom_null fun t ht => (h t ht).2, commonType?, hfilter]
  obtain ⟨t, us, rfl⟩ := List.exists_cons_of_ne_nil hne
  obtain ⟨ht, hus⟩ := List.forall_mem_cons.mp h
  rw [sharedType?_number ht.1, if_pos fun u hu => (hus u hu).1]

/-- Integers and decimals widen to the least type that includes them. -/
theorem numberType_exact (h : ∀ t ∈ ts, t.isInteger ∨ t.isDecimal) :
    numberType ts = if ∃ t ∈ ts, t.isDecimal then
      decimal (min maxPrecision (largest wholeDigits ts + largest scale ts)) (largest scale ts)
    else integer (widestWidth ts) := by
  have hfloat : ∀ w, floating w ∉ ts := fun w hw => by
    simpa [isInteger, isDecimal, family] using h _ hw
  have hnone : ¬∃ t ∈ ts, t.isFloating := by
    rintro ⟨t, ht, hf⟩
    cases t with
    | floating w => exact hfloat w ht
    | _ => cases hf
  by_cases hd : ∃ t ∈ ts, t.isDecimal
  · rw [numberType_of_decimal hd, if_neg hnone, if_pos hd]
  · simp [numberType, NeedDouble, hfloat, hnone, hd]

theorem numberType_covers (hne : ts ≠ []) (h : ∀ t ∈ ts, (t.isInteger ∨ t.isDecimal) ∧ t.Valid)
    (hroom : largest wholeDigits ts + largest scale ts ≤ maxPrecision) :
    (numberType ts).Covers ts := by
  rw [numberType_exact fun t ht => (h t ht).1]
  split
  · rw [Nat.min_eq_right hroom]
    exact (decimal_covers_iff hne h).mpr ⟨le_rfl, le_rfl⟩
  · rename_i hnone
    refine (integer_covers_iff fun t ht => ?_).mpr le_rfl
    exact (h t ht).1.resolve_right fun hd => hnone ⟨t, ht, hd⟩

theorem integer_covers_least {v w : IntWidth} (h : ∀ t ∈ ts, t.isInteger ∨ t.isDecimal)
    (hw : numberType ts = integer w) (hc : (integer v).Covers ts) : w.bits ≤ v.bits := by
  rw [numberType_exact h] at hw
  split at hw
  · cases hw
  · rename_i hnone
    cases hw
    refine (integer_covers_iff fun t ht => ?_).mp hc
    exact (h t ht).resolve_right fun hd => hnone ⟨t, ht, hd⟩

theorem decimal_covers_least (hne : ts ≠ [])
    (h : ∀ t ∈ ts, (t.isInteger ∨ t.isDecimal) ∧ t.Valid) (hd : numberType ts = decimal p s)
    (hc : (decimal q r).Covers ts) : p ≤ q ∧ s ≤ r := by
  rw [numberType_exact fun t ht => (h t ht).1] at hd
  split at hd
  · cases hd
    obtain ⟨hs, hq⟩ := (decimal_covers_iff hne h).mp hc
    exact ⟨by omega, hs⟩
  · cases hd

/-- Integers that become single floats are of at most 16 bits. -/
theorem narrow_of_single {operation : String} (h : ∀ t ∈ ts, t.isInteger ∨ t.isFloating)
    (hj : joinAll operation ts = .ok (floating .single)) {w : IntWidth} (hw : integer w ∈ ts) :
    w = .w8 ∨ w = .w16 := by
  have hnumbers : ∀ t ∈ ts, t.isNumeric ∧ t.Valid := by
    intro t ht
    cases t with
    | integer | floating => exact ⟨rfl, trivial⟩
    | _ => simpa [isInteger, isFloating, family] using h _ ht
  rw [joinAll_numbers operation (List.ne_nil_of_mem hw) hnumbers, Except.ok.injEq] at hj
  have hdouble : ¬NeedDouble ts := by
    intro hd
    rw [numberType, if_pos hd] at hj
    cases hj
  have hsingle : floating .single ∈ ts := by
    by_contra hs
    rw [numberType, if_neg hdouble, if_neg hs] at hj
    split at hj <;> cases hj
  -- A wider one among single floats needs a double.
  have hwide : ∀ v, integer v ∈ ts → v ≠ .w32 ∧ v ≠ .w64 := fun v hv =>
    ⟨fun he => hdouble (.inr (.inr ⟨hsingle, .inl (he ▸ hv)⟩)),
      fun he => hdouble (.inr (.inr ⟨hsingle, .inr (he ▸ hv)⟩))⟩
  have := hwide w hw
  cases w <;> simp_all

theorem ofInteger_holds (n : Int64) : ∃ w, ofInteger n.toInt = integer w ∧ w.Holds n.toInt ∧
    ∀ v : IntWidth, v.Holds n.toInt → w.bits ≤ v.bits := by
  have hbits : ∀ v : IntWidth, 8 ≤ v.bits ∧ (v ≠ .w8 → 16 ≤ v.bits) ∧
      (v ≠ .w8 → v ≠ .w16 → 32 ≤ v.bits) := by
    intro v
    cases v <;> decide
  refine ⟨_, rfl, ?_⟩
  split_ifs with h8 h16 h32
  · exact ⟨h8, fun v _ => (hbits v).1⟩
  · exact ⟨h16, fun v hv => (hbits v).2.1 fun he => h8 (he ▸ hv)⟩
  · exact ⟨h32, fun v hv => (hbits v).2.2 (fun he => h8 (he ▸ hv)) fun he => h16 (he ▸ hv)⟩
  · refine ⟨⟨n.le_toInt, n.toInt_lt⟩, fun v hv => ?_⟩
    cases v with
    | w8 => exact absurd hv h8
    | w16 => exact absurd hv h16
    | w32 => exact absurd hv h32
    | w64 => exact le_rfl

/-- The narrowest types of integers widen to a type that holds every one of them. -/
theorem joinAll_integers (operation : String) {ns : List Int64} (hne : ns ≠ []) :
    ∃ w, joinAll operation (ns.map fun n => ofInteger n.toInt) = .ok (integer w) ∧
      ∀ n ∈ ns, w.Holds n.toInt := by
  have hinteger : ∀ t ∈ ns.map fun n => ofInteger n.toInt, t.isInteger := by
    simp only [List.forall_mem_map]
    exact fun n _ => rfl
  have hnumbers : ∀ t ∈ ns.map fun n => ofInteger n.toInt, t.isNumeric ∧ t.Valid := by
    simp only [List.forall_mem_map]
    exact fun n _ => ⟨rfl, trivial⟩
  have hnone : ¬∃ t ∈ ns.map fun n => ofInteger n.toInt, t.isDecimal := by
    simp [ofInteger, isDecimal, family]
  refine ⟨widestWidth (ns.map fun n => ofInteger n.toInt), ?_, fun n hn => ?_⟩
  · rw [joinAll_numbers operation (by simpa using hne) hnumbers,
      numberType_exact fun t ht => .inl (hinteger t ht), if_neg hnone]
  · obtain ⟨w, hw, hholds, -⟩ := ofInteger_holds n
    have hmem : integer w ∈ ns.map fun n => ofInteger n.toInt := hw ▸ List.mem_map_of_mem hn
    have hreach := IntWidth.reach_le_iff.mpr (widestWidth_le_iff.mp le_rfl w hmem)
    have := IntWidth.holds_iff.mp hholds
    exact IntWidth.holds_iff.mpr (by omega)

/-- Widening loses no integer and no decimal, and gives no digit or bit more than it must. -/
theorem joinAll_least (operation : String) :
    (∀ ts : List SqlType, ts ≠ [] →
      (∀ t ∈ ts, (t.isInteger ∨ t.isDecimal) ∧ t.checked = .ok t) →
      largest integralDigits ts + largest scale ts ≤ maxPrecision →
      ∃ c, joinAll operation ts = .ok c ∧ c.Covers ts ∧
        (∀ w, c = integer w → ∀ v : IntWidth, (integer v).Covers ts → w.bits ≤ v.bits) ∧
        ∀ p s, c = decimal p s → ∀ q r, (decimal q r).Covers ts → p ≤ q ∧ s ≤ r) ∧
    (∀ ts : List SqlType, (∀ t ∈ ts, t.isInteger ∨ t.isFloating) →
      joinAll operation ts = .ok (floating .single) →
      ∀ w, integer w ∈ ts → ∀ n, w.Holds n → |n| ≤ 2 ^ 24) ∧
    (∀ n : Int64, ∃ w, ofInteger n.toInt = integer w ∧ w.Holds n.toInt ∧
      ∀ v : IntWidth, v.Holds n.toInt → w.bits ≤ v.bits) ∧
    ∀ ns : List Int64, ns ≠ [] →
      ∃ w, joinAll operation (ns.map fun n => ofInteger n.toInt) = .ok (integer w) ∧
        ∀ n ∈ ns, w.Holds n.toInt := by
  refine ⟨fun ts hne h hroom => ?_, fun ts h hj w hw n hn => ?_, ofInteger_holds,
    fun ns => joinAll_integers operation⟩
  · have hvalid : ∀ t ∈ ts, (t.isInteger ∨ t.isDecimal) ∧ t.Valid := fun t ht =>
      ⟨(h t ht).1, (Expr.checked_eq_ok.mp (h t ht).2).1⟩
    have hnumbers : ∀ t ∈ ts, t.isNumeric ∧ t.Valid := by
      intro t ht
      refine ⟨?_, (hvalid t ht).2⟩
      rcases (hvalid t ht).1 with hi | hd
      · simp [isNumeric, hi]
      · simp [isNumeric, hd]
    rw [funext integralDigits_eq] at hroom
    exact ⟨_, joinAll_numbers operation hne hnumbers, numberType_covers hne hvalid hroom,
      fun w hw v => integer_covers_least (fun t ht => (hvalid t ht).1) hw,
      fun p s hd q r => decimal_covers_least hne hvalid hd⟩
  · have habs := IntWidth.abs_le_of_holds hn
    rcases narrow_of_single h hj hw with rfl | rfl
    · exact habs.trans (by decide)
    · exact habs.trans (by decide)

/-- Decimals of which neither includes the other, and an integer with room in what they need. -/
def amounts : List SqlType := [decimal 12 2, integer .w32, decimal 10 4]

theorem amounts_widen :
    (joinAll "Coalesce" amounts = .ok (decimal 14 4) ∧ (decimal 14 4).Covers amounts ∧
      ∀ q r, (decimal q r).Covers amounts → 14 ≤ q ∧ 4 ≤ r) ∧
    (joinAll "Coalesce" [integer .w16, floating .single] = .ok (floating .single) ∧
      ∀ n, IntWidth.w16.Holds n → |n| ≤ 2 ^ 24) ∧
    ∃ w, joinAll "Coalesce" [ofInteger 5, ofInteger (-300)] = .ok (integer w) ∧
      w.Holds 5 ∧ w.Holds (-300) := by
  obtain ⟨hexact, hsingle, -, hintegers⟩ := joinAll_least "Coalesce"
  refine ⟨?_, ⟨rfl, ?_⟩, ?_⟩
  · have hvalid : ∀ t ∈ amounts, (t.isInteger ∨ t.isDecimal) ∧ t.Valid := by decide
    have hchecked : ∀ t ∈ amounts, (t.isInteger ∨ t.isDecimal) ∧ t.checked = .ok t := fun t ht =>
      ⟨(hvalid t ht).1, Expr.checked_eq_ok.mpr ⟨(hvalid t ht).2, rfl⟩⟩
    obtain ⟨c, hc, hcovers, -, hleast⟩ := hexact amounts (by decide) hchecked (by decide)
    cases hc
    exact ⟨rfl, hcovers, hleast 14 4 rfl⟩
  · exact hsingle [integer .w16, floating .single] (by decide) rfl .w16 (by decide)
  · obtain ⟨w, hw, hholds⟩ := hintegers [5, -300] (by decide)
    exact ⟨w, hw, hholds 5 (by decide), hholds (-300) (by decide)⟩

end SqlType

end TypedSql
