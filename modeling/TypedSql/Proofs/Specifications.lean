import Mathlib.Data.List.TakeWhile
import TypedSql.Proofs.Construction

namespace TypedSql

namespace Text

/-- Blanks alone, or nothing. -/
def Blank (s : List Char) : Prop := ∀ c ∈ s, isBlank c

/-- One or more of the digits `0` to `9` that write the number, perhaps with zeros in front. -/
structure Numeral (ds : List Char) (n : Nat) : Prop where
  ne_nil : ds ≠ []
  digits : ∀ c ∈ ds, c.isDigit
  value : Nat.ofDigitChars 10 ds 0 = n

/-- A text with nothing but blanks around it. -/
def Padded (s q : List Char) : Prop := ∃ b c, Blank b ∧ Blank c ∧ q = b ++ (s ++ c)

theorem blank_nil : Blank [] := nofun

section Characters

variable {c : Char}

/-- The code points between the first edge and the second, between the third and the fourth, and so
on. -/
def CharSet.codes : List Nat → List Nat
  | a :: b :: edges => List.range' a (b - a) ++ codes edges
  | _ => []

theorem CharSet.mem_codes {n : Nat} : {edges : List Nat} → edges.length % 2 = 0 →
    side n false edges = true → n ∈ codes edges
  | [], _, h => nomatch h
  | [_], hlen, _ => nomatch hlen
  | a :: b :: edges, hlen, h => by
    simp only [side, Bool.not_false, Bool.not_true] at h
    have heven : edges.length % 2 = 0 := by
      simp only [List.length_cons] at hlen
      omega
    rw [codes, List.mem_append, List.mem_range'_1]
    split at h
    · cases h
    · split at h
      · exact .inl (by omega)
      · exact .inr (mem_codes heven h)

/-- No script has a blank among its digits. -/
theorem not_isDigit_of_isBlank (h : isBlank c) : isDigit c = false := by
  have hcodes : ∀ n ∈ CharSet.codes blanks.edges, CharSet.side n false digits.edges = false := by
    decide
  exact hcodes c.toNat (CharSet.mem_codes rfl h)

theorem toNat_of_isDigit (h : c.isDigit) : 0x30 ≤ c.toNat ∧ c.toNat < 0x3a := by
  have hc := Char.isDigit_iff_toNat.mp h
  exact ⟨hc.1, Nat.lt_succ_of_le hc.2⟩

theorem isDigit_of_ascii (h : c.isDigit) : isDigit c := by
  obtain ⟨hl, hr⟩ := toNat_of_isDigit h
  simp [isDigit, CharSet.contains, digits, CharSet.side, Nat.not_lt.mpr hl, hr]

theorem not_isBlank_of_isDigit (h : c.isDigit) : isBlank c = false := by
  cases hb : isBlank c with
  | false => rfl
  | true => exact absurd (isDigit_of_ascii h) (by simp [not_isDigit_of_isBlank hb])

theorem digitValue?_eq_some {n : Nat} :
    digitValue? c = some n ↔ c.isDigit ∧ c.toNat - '0'.toNat = n := by
  rw [Char.isDigit_iff_toNat, digitValue?]
  split
  · rename_i h
    simp only [Option.some.injEq, h, and_self, true_and]
  · rename_i h
    simp only [reduceCtorEq, h, false_and]

/-- Characters that are their own lower case: the first half of ASCII, and its small letters. -/
def isPlain (c : Char) : Bool := c.toNat < 0x41 || (0x61 ≤ c.toNat && c.toNat < 0x7b)

theorem lowercase_of_isPlain (h : isPlain c) : Case.lowercase.apply c = [c] := by
  have hrange : c.toNat < 0x41 ∨ 0x61 ≤ c.toNat ∧ c.toNat < 0x7b := by simpa [isPlain] using h
  have hexpanded : Case.expanded? c.toNat Case.lowercase.expansions = none := by
    have hlow : c.toNat < 0x130 := by omega
    simp [Case.lowercase, Case.expanded?, hlow]
  have hshifted : Case.shifted c.toNat Case.lowercase.runs = c.toNat := by
    rcases hrange with hlow | ⟨hl, hr⟩
    · simp [Case.lowercase, Case.shifted, hlow]
    · have hfirst : ¬c.toNat < 0x41 := by omega
      have hlast : ¬c.toNat ≤ 0x5a := by omega
      have hnext : c.toNat < 0xc0 := by omega
      simp [Case.lowercase, Case.shifted, hfirst, hlast, hnext]
  rw [Case.CaseMap.apply, hexpanded, hshifted, Char.ofNat_toNat]

end Characters

section Lists

variable {s ds : List Char}

theorem numeral?_eq_some {k n : Nat} :
    numeral? k ds = some n ↔ (∀ c ∈ ds, c.isDigit) ∧ Nat.ofDigitChars 10 ds k = n := by
  induction ds generalizing k with
  | nil => simp [numeral?]
  | cons c ds ih =>
    rw [numeral?, Option.bind_eq_some_iff, List.forall_mem_cons, Nat.ofDigitChars_cons]
    simp only [digitValue?_eq_some, ih]
    constructor
    · rintro ⟨d, ⟨hc, rfl⟩, hds, hn⟩
      exact ⟨⟨hc, hds⟩, hn⟩
    · rintro ⟨⟨hc, hds⟩, hn⟩
      exact ⟨_, ⟨hc, rfl⟩, hds, hn⟩

theorem numeral_toDigits (n : Nat) : Numeral (Nat.toDigits 10 n) n where
  ne_nil := Nat.toDigits_ne_nil
  digits _ hc := Nat.isDigit_of_mem_toDigits (by decide) (by decide) hc
  value := Nat.ofDigitChars_toDigits (by decide) (by decide)

/-- Where no character is a capital sigma or becomes several, lower case is taken character by
character. -/
theorem lower_eq_map {f : Char → Char}
    (h : ∀ c ∈ s, c ≠ '\u03a3' ∧ Case.lowercase.apply c = [f c]) : lower s = s.map f := by
  suffices hafter : ∀ before, lowerAfter before s = s.map f from hafter []
  induction s with
  | nil => exact fun _ => rfl
  | cons c s ih =>
    intro before
    obtain ⟨⟨hsigma, hc⟩, hs⟩ := List.forall_mem_cons.mp h
    rw [lowerAfter, if_neg hsigma, hc, ih hs, List.singleton_append, List.map_cons]

theorem lower_of_isPlain (h : ∀ c ∈ s, isPlain c) : lower s = s := by
  have hself : ∀ c ∈ s, c ≠ '\u03a3' ∧ Case.lowercase.apply c = [id c] := by
    intro c hc
    refine ⟨?_, lowercase_of_isPlain (h c hc)⟩
    rintro rfl
    exact absurd (h _ hc) (by decide)
  exact (lower_eq_map hself).trans s.map_id

theorem dropWhile_of_head {p : Char → Bool} (h : ∀ c ∈ s.head?, p c = false) :
    s.dropWhile p = s := by
  cases s with
  | nil => rfl
  | cons c s => exact List.dropWhile_cons_of_neg (by simp [h c rfl])

/-- A text that neither begins nor ends with a blank. -/
theorem trim_between {c d : Char} (hc : isBlank c = false) (hd : isBlank d = false)
    (s : List Char) : trim (c :: (s ++ [d])) = c :: (s ++ [d]) := by
  have hlast : (c :: (s ++ [d])).reverse = d :: (c :: s).reverse := by simp
  rw [trim, List.dropWhile_cons_of_neg (by simp [hc]), hlast,
    List.dropWhile_cons_of_neg (by simp [hd]), ← hlast, List.reverse_reverse]

end Lists

end Text

namespace SqlType

open Text

/-- The words for a decimal. -/
def decimalWords : List String := ["decimal", "numeric"]

/-- The words that stand for a type by themselves. -/
def words : SqlType → List String
  | null => ["null"]
  | boolean => ["bool", "boolean"]
  | integer .w8 => ["int8", "tinyint"]
  | integer .w16 => ["int16", "smallint", "int2"]
  | integer .w32 => ["int32", "int", "integer", "int4"]
  | integer .w64 => ["int64", "bigint"]
  | floating .single => ["float32", "float4", "real"]
  | floating .double => ["float64", "float8", "double", "double precision", "float"]
  | decimal _ _ => []
  | string => ["string", "text", "varchar"]

/-- What a specification without blanks around it and in lower case means: a word of a type, a
decimal word alone, or one with a precision and perhaps a scale between parentheses. -/
inductive Denotes (defaults : DecimalDefaults) : List Char → SqlType → Prop
  | word {n : String} {t : SqlType} (h : n ∈ t.words) : Denotes defaults n.toList t
  | bare {w : String} (hw : w ∈ decimalWords)
      (hv : (decimal defaults.precision defaults.scale).Valid) :
      Denotes defaults w.toList (decimal defaults.precision defaults.scale)
  | precision {w : String} {b q ds : List Char} {p : Nat} (hw : w ∈ decimalWords) (hb : Blank b)
      (hq : Padded ds q) (hp : Numeral ds p) (hv : (decimal p 0).Valid) :
      Denotes defaults (w.toList ++ (b ++ '(' :: (q ++ [')']))) (decimal p 0)
  | scale {w : String} {b q r ds es : List Char} {p s : Nat} (hw : w ∈ decimalWords) (hb : Blank b)
      (hq : Padded ds q) (hp : Numeral ds p) (hr : Padded es r) (hs : Numeral es s)
      (hv : (decimal p s).Valid) :
      Denotes defaults (w.toList ++ (b ++ '(' :: (q ++ ',' :: (r ++ [')'])))) (decimal p s)

section Reading

variable {s r q ds b : List Char}

theorem afterDecimal?_eq_some {rest : List Char} :
    afterDecimal? s = some rest ↔ ∃ w ∈ decimalWords, s = w.toList ++ rest := by
  have hword : ∀ w : String, w.toList.isPrefixOf? s = some rest ↔ s = w.toList ++ rest := by
    intro w
    rw [List.isPrefixOf?_eq_some_iff_append_eq]
    exact eq_comm
  simp only [afterDecimal?, decimalWords, List.mem_cons, List.not_mem_nil, or_false,
    exists_eq_or_imp, exists_eq_left]
  cases hd : "decimal".toList.isPrefixOf? s with
  | none =>
    have hnot : ¬s = "decimal".toList ++ rest := by
      rw [← hword, hd]
      exact nofun
    rw [or_iff_right hnot]
    exact hword "numeric"
  | some rest' =>
    have hs : s = "decimal".toList ++ rest' := by
      rw [List.isPrefixOf?_eq_some_iff_append_eq] at hd
      exact hd.symm
    have hnot : ¬s = "numeric".toList ++ rest := by
      rw [hs]
      exact fun h => absurd (List.cons.inj h).1 (by decide)
    rw [or_iff_left hnot, ← hword, hd]

theorem skipBlanks_append (hb : Blank b) (s : List Char) :
    skipBlanks (b ++ s) = skipBlanks s :=
  List.dropWhile_append_of_pos hb

theorem skipBlanks_cons {c : Char} (hc : isBlank c = false) (s : List Char) :
    skipBlanks (c :: s) = c :: s :=
  List.dropWhile_cons_of_neg (by simp [hc])

theorem exists_skipBlanks (s : List Char) : ∃ b, Blank b ∧ s = b ++ skipBlanks s :=
  ⟨s.takeWhile isBlank, fun _ hc => List.mem_takeWhile_imp hc,
    List.takeWhile_append_dropWhile.symm⟩

/-- What is read as a parameter is one, with blanks around it. -/
theorem parameter?_sound (h : parameter? s = some (ds, r)) :
    ds ≠ [] ∧ ∃ q, Padded ds q ∧ s = q ++ r := by
  obtain ⟨b, hb, hs⟩ := exists_skipBlanks s
  obtain ⟨c, hc, hr⟩ := exists_skipBlanks ((skipBlanks s).dropWhile isDigit)
  unfold parameter? at h
  dsimp only at h
  cases hds : (skipBlanks s).takeWhile isDigit with
  | nil => simp [hds] at h
  | cons d ds' =>
    simp only [hds, Option.some.injEq, Prod.mk.injEq] at h
    obtain ⟨rfl, rfl⟩ := h
    refine ⟨List.cons_ne_nil d ds', b ++ ((d :: ds') ++ c), ⟨b, c, hb, hc, rfl⟩, ?_⟩
    calc s = b ++ (skipBlanks s).takeWhile isDigit ++ (skipBlanks s).dropWhile isDigit := by
          rw [List.append_assoc, List.takeWhile_append_dropWhile, ← hs]
      _ = b ++ ((d :: ds') ++ c) ++ skipBlanks ((skipBlanks s).dropWhile isDigit) := by
          rw [hds]
          nth_rewrite 1 [hr]
          simp only [List.append_assoc]

/-- A parameter is read up to a character that is neither a blank nor a digit. -/
theorem parameter?_complete {x : Char} (hq : Padded ds q) (hne : ds ≠ [])
    (hds : ∀ c ∈ ds, c.isDigit) (hx : isBlank x = false) (hd : isDigit x = false) :
    parameter? (q ++ x :: r) = some (ds, x :: r) := by
  obtain ⟨b, c, hb, hc, rfl⟩ := hq
  obtain ⟨d, ds, rfl⟩ := List.exists_cons_of_ne_nil hne
  have hskip : skipBlanks (b ++ ((d :: ds) ++ c) ++ x :: r) = (d :: ds) ++ (c ++ x :: r) := by
    rw [List.append_assoc, skipBlanks_append hb, List.append_assoc, List.cons_append]
    exact skipBlanks_cons (not_isBlank_of_isDigit (hds d List.mem_cons_self)) _
  have hdigits : ∀ e ∈ d :: ds, isDigit e := fun e he => isDigit_of_ascii (hds e he)
  have hhead : ∀ e ∈ (c ++ x :: r).head?, isDigit e = false := by
    cases c with
    | nil => simpa using hd
    | cons e c => simpa using not_isDigit_of_isBlank (hc e List.mem_cons_self)
  have hnone : (c ++ x :: r).takeWhile isDigit = [] := by
    cases hrest : c ++ x :: r with
    | nil => rfl
    | cons e rest =>
      rw [hrest] at hhead
      exact List.takeWhile_cons_of_neg (by simp [hhead e rfl])
  have htake : ((d :: ds) ++ (c ++ x :: r)).takeWhile isDigit = d :: ds := by
    rw [List.takeWhile_append_of_pos hdigits, hnone, List.append_nil]
  have hdrop : ((d :: ds) ++ (c ++ x :: r)).dropWhile isDigit = c ++ x :: r := by
    rw [List.dropWhile_append_of_pos hdigits, dropWhile_of_head hhead]
  have hrest : skipBlanks (c ++ x :: r) = x :: r := by
    rw [skipBlanks_append hc, skipBlanks_cons hx]
  unfold parameter?
  simp only [hskip, htake, hdrop, hrest]

/-- One or two lists of characters between parentheses, with blanks around each and in front. -/
inductive Parenthesized : List Char → List Char → Option (List Char) → Prop
  | one {b q ds : List Char} (hb : Blank b) (hq : Padded ds q) :
      Parenthesized (b ++ '(' :: (q ++ [')'])) ds none
  | two {b q r ds es : List Char} (hb : Blank b) (hq : Padded ds q) (hr : Padded es r) :
      Parenthesized (b ++ '(' :: (q ++ ',' :: (r ++ [')']))) ds (some es)

theorem parameters?_sound {es : Option (List Char)} (h : parameters? s = some (ds, es)) :
    Parenthesized s ds es ∧ ds ≠ [] ∧ ∀ e ∈ es, e ≠ [] := by
  obtain ⟨b, hb, hs⟩ := exists_skipBlanks s
  unfold parameters? at h
  split at h
  · rename_i s' hskip
    rw [hskip] at hs
    split at h
    · rename_i hone
      cases h
      obtain ⟨hne, q, hq, rfl⟩ := parameter?_sound hone
      exact ⟨hs ▸ .one hb hq, hne, nofun⟩
    · rename_i hfirst
      obtain ⟨hne, q, hq, rfl⟩ := parameter?_sound hfirst
      split at h
      · rename_i hsecond
        cases h
        obtain ⟨hne', r, hr, rfl⟩ := parameter?_sound hsecond
        exact ⟨hs ▸ .two hb hq hr, hne, by simpa using hne'⟩
      · cases h
    · cases h
  · cases h

theorem parameters?_complete {es : Option (List Char)} {p : Nat} (h : Parenthesized s ds es)
    (hp : Numeral ds p) (he : ∀ e ∈ es, ∃ n, Numeral e n) : parameters? s = some (ds, es) := by
  cases h with
  | one hb hq =>
    have hread := parameter?_complete (r := []) (x := ')') hq hp.ne_nil hp.digits
      (by decide) (by decide)
    unfold parameters?
    rw [skipBlanks_append hb, skipBlanks_cons (by decide)]
    simp only [hread]
  | two hb hq hr =>
    obtain ⟨n, hn⟩ := he _ rfl
    have hsecond := parameter?_complete (r := []) (x := ')') hr hn.ne_nil hn.digits
      (by decide) (by decide)
    have hfirst := fun rest => parameter?_complete (r := rest) (x := ',') hq hp.ne_nil hp.digits
      (by decide) (by decide)
    unfold parameters?
    rw [skipBlanks_append hb, skipBlanks_cons (by decide)]
    simp only [hfirst, hsecond]

theorem parameterValue?_eq_some {n : Nat} (hne : ds ≠ []) :
    parameterValue? ds = some n ↔ Numeral ds n ∧ n ≤ 255 := by
  rw [parameterValue?, Option.filter_eq_some_iff, numeral?_eq_some, decide_eq_true_eq]
  exact and_congr_left fun _ => ⟨fun h => ⟨hne, h.1, h.2⟩, fun h => ⟨h.digits, h.value⟩⟩

theorem ofParameters_eq_ok {es : Option (List Char)} {t : SqlType} :
    ofParameters ds es = .ok t ↔ ∃ p s, parameterValue? ds = some p ∧
      es.elim (some 0) parameterValue? = some s ∧ (decimal p s).Valid ∧ decimal p s = t := by
  unfold ofParameters
  cases parameterValue? ds with
  | none => simp
  | some p => cases es.elim (some 0) parameterValue? <;> simp [checkDecimal_eq_ok]

/-- The table of names holds the words of each type. -/
theorem mem_names {n : String} {t : SqlType} : (n, t) ∈ names ↔ n ∈ t.words := by
  constructor
  · intro h
    have hnames : ∀ e ∈ names, e.1 ∈ e.2.words := by decide
    exact hnames (n, t) h
  · revert n
    cases t with
    | integer w | floating w => cases w <;> decide
    | decimal p s =>
      intro n h
      exact absurd h List.not_mem_nil
    | _ => decide

theorem named?_sound {t : SqlType} (h : named? s = some t) :
    ∃ n : String, n.toList = s ∧ n ∈ t.words := by
  obtain ⟨⟨n, u⟩, hn, rfl⟩ := Option.map_eq_some_iff.mp h
  exact ⟨n, by simpa using List.find?_some hn, mem_names.mp (List.mem_of_find?_eq_some hn)⟩

/-- No word stands for two types or begins with a decimal word. -/
theorem named?_complete {n : String} {t : SqlType} (h : n ∈ t.words) :
    afterDecimal? n.toList = none ∧ named? n.toList = some t := by
  have hnames : ∀ e ∈ names, afterDecimal? e.1.toList = none ∧ named? e.1.toList = some e.2 := by
    decide +kernel
  exact hnames (n, t) (mem_names.mpr h)

end Reading

variable {defaults : DecimalDefaults} {s ds rest : List Char} {t : SqlType}

/-- The parameters of a decimal that can be are small enough to be read. -/
theorem numeral_le_of_valid {p n : Nat} (hv : (decimal p n).Valid) : p ≤ 255 ∧ n ≤ 255 := by
  obtain ⟨-, hp, hn⟩ := hv
  simp only [maxPrecision] at hp
  omega

theorem denotes_of_parameters {w : String} {es : Option (List Char)} (hw : w ∈ decimalWords)
    (h : parameters? rest = some (ds, es)) (ht : ofParameters ds es = .ok t) :
    Denotes defaults (w.toList ++ rest) t := by
  obtain ⟨hrest, hne, hes⟩ := parameters?_sound h
  obtain ⟨p, s, hp, hs, hv, rfl⟩ := ofParameters_eq_ok.mp ht
  have hds := ((parameterValue?_eq_some hne).mp hp).1
  cases hrest with
  | one hb hq =>
    cases hs
    exact .precision hw hb hq hds hv
  | two hb hq hr =>
    have hnumber := ((parameterValue?_eq_some (hes _ rfl)).mp hs).1
    exact .scale hw hb hq hds hr hnumber hv

theorem denotes_of_ofTrimmed (h : ofTrimmed defaults s = .ok t) : Denotes defaults s t := by
  unfold ofTrimmed at h
  split at h
  · rename_i hword
    obtain ⟨w, hw, rfl⟩ := afterDecimal?_eq_some.mp hword
    obtain ⟨hv, rfl⟩ := checkDecimal_eq_ok.mp h
    rw [List.append_nil]
    exact .bare hw hv
  · rename_i hword
    obtain ⟨w, hw, rfl⟩ := afterDecimal?_eq_some.mp hword
    split at h
    · rename_i hparameters
      exact denotes_of_parameters hw hparameters h
    · cases h
  · split at h
    · rename_i hnamed
      cases h
      obtain ⟨n, rfl, hn⟩ := named?_sound hnamed
      exact .word hn
    · cases h

theorem ofTrimmed_word {w : String} (hw : w ∈ decimalWords) (rest : List Char) :
    afterDecimal? (w.toList ++ rest) = some rest :=
  afterDecimal?_eq_some.mpr ⟨w, hw, rfl⟩

theorem ofTrimmed_parenthesized {w : String} {es : Option (List Char)} {p n : Nat}
    (hw : w ∈ decimalWords) (h : Parenthesized rest ds es) (hp : Numeral ds p)
    (hes : ∀ e ∈ es, Numeral e n) (hnone : es = none → n = 0) (hv : (decimal p n).Valid) :
    ofTrimmed defaults (w.toList ++ rest) = .ok (decimal p n) := by
  obtain ⟨hp255, hn255⟩ := numeral_le_of_valid hv
  have hread := parameters?_complete h hp fun e he => ⟨n, hes e he⟩
  have hvalue : es.elim (some 0) parameterValue? = some n := by
    cases es with
    | none => rw [Option.elim_none, hnone rfl]
    | some e => exact (parameterValue?_eq_some (hes e rfl).ne_nil).mpr ⟨hes e rfl, hn255⟩
  have hds := (parameterValue?_eq_some hp.ne_nil).mpr ⟨hp, hp255⟩
  have hne : rest ≠ [] := by
    rintro rfl
    cases hread
  unfold ofTrimmed
  rw [ofTrimmed_word hw]
  cases rest with
  | nil => exact absurd rfl hne
  | cons c rest =>
    simp only [hread]
    exact ofParameters_eq_ok.mpr ⟨p, n, hds, hvalue, hv, rfl⟩

theorem ofTrimmed_of_denotes (h : Denotes defaults s t) : ofTrimmed defaults s = .ok t := by
  cases h with
  | word hn =>
    obtain ⟨hword, hnamed⟩ := named?_complete hn
    simp only [ofTrimmed, hword, hnamed]
  | bare hw hv =>
    have hword := ofTrimmed_word hw []
    rw [List.append_nil] at hword
    simp only [ofTrimmed, hword]
    exact checkDecimal_eq_ok.mpr ⟨hv, rfl⟩
  | precision hw hb hq hp hv =>
    exact ofTrimmed_parenthesized hw (.one hb hq) hp nofun (fun _ => rfl) hv
  | scale hw hb hq hp hr hs hv =>
    exact ofTrimmed_parenthesized hw (.two hb hq hr) hp (by simpa using hs) nofun hv

theorem ofTrimmed_eq_ok : ofTrimmed defaults s = .ok t ↔ Denotes defaults s t :=
  ⟨denotes_of_ofTrimmed, ofTrimmed_of_denotes⟩

theorem ofSpec_eq_ok {spec : String} :
    ofSpec defaults spec = .ok t ↔ Denotes defaults (lower (trim spec.toList)) t := by
  rw [← ofTrimmed_eq_ok, ofSpec]
  cases ofTrimmed defaults (lower (trim spec.toList)) <;> simp [Except.mapError]

/-- What is not read is refused as it was given, blanks and case included. -/
theorem ofSpec_eq_error {spec : String}
    (h : ¬∃ t, Denotes defaults (lower (trim spec.toList)) t) :
    ∃ fault, ofSpec defaults spec = .error (.badSpec spec fault) := by
  unfold ofSpec
  cases hr : ofTrimmed defaults (lower (trim spec.toList)) with
  | ok t => exact absurd ⟨t, ofTrimmed_eq_ok.mp hr⟩ h
  | error fault => exact ⟨fault, rfl⟩

theorem Denotes.valid (h : Denotes defaults s t) : t.Valid := by
  cases h with
  | word hn =>
    cases t with
    | decimal p s => cases hn
    | _ => trivial
  | bare _ hv | precision _ _ _ _ hv | scale _ _ _ _ _ _ hv => exact hv

section Texts

theorem text_decimal (p s : Nat) :
    (decimal p s).text.toList = "decimal".toList ++ ([] ++ '(' ::
      (Nat.toDigits 10 p ++ ',' :: ((' ' :: Nat.toDigits 10 s) ++ [')']))) := by
  simp [text]

theorem denotes_text (h : t.Valid) : Denotes defaults t.text.toList t := by
  cases t with
  | null => exact .word (n := "null") (by decide)
  | boolean => exact .word (n := "boolean") (by decide)
  | string => exact .word (n := "string") (by decide)
  | integer w =>
    cases w with
    | w8 => exact .word (n := "int8") (by decide)
    | w16 => exact .word (n := "int16") (by decide)
    | w32 => exact .word (n := "int32") (by decide)
    | w64 => exact .word (n := "int64") (by decide)
  | floating w =>
    cases w with
    | single => exact .word (n := "float32") (by decide)
    | double => exact .word (n := "float64") (by decide)
  | decimal p s =>
    have hprecision : Padded (Nat.toDigits 10 p) (Nat.toDigits 10 p) :=
      ⟨[], [], blank_nil, blank_nil, by simp⟩
    have hscale : Padded (Nat.toDigits 10 s) (' ' :: Nat.toDigits 10 s) :=
      ⟨[' '], [], List.forall_mem_singleton.mpr (by decide), blank_nil, by simp⟩
    rw [text_decimal]
    exact .scale (w := "decimal") (by decide) blank_nil hprecision (numeral_toDigits p) hscale
      (numeral_toDigits s) h

theorem isPlain_of_isDigit {c : Char} (h : c.isDigit) : isPlain c := by
  have hc := (toNat_of_isDigit h).2
  have hlow : c.toNat < 0x41 := by omega
  simp [isPlain, hlow]

theorem isPlain_text (t : SqlType) : ∀ c ∈ t.text.toList, isPlain c := by
  cases t with
  | null | boolean | string => exact List.all_eq_true.mp (by decide)
  | integer w | floating w => cases w <;> exact List.all_eq_true.mp (by decide)
  | decimal p s =>
    have hword : ∀ c ∈ "decimal".toList, isPlain c := List.all_eq_true.mp (by decide)
    have hnumber : ∀ n, ∀ c ∈ Nat.toDigits 10 n, isPlain c :=
      fun n c hc => isPlain_of_isDigit ((numeral_toDigits n).digits c hc)
    rw [text_decimal]
    simp only [List.forall_mem_append, List.forall_mem_cons]
    exact ⟨hword, nofun, by decide, hnumber p, by decide, ⟨by decide, hnumber s⟩, by decide,
      nofun⟩

theorem trim_text (t : SqlType) : trim t.text.toList = t.text.toList := by
  cases t with
  | null | boolean | string => decide
  | integer w | floating w => cases w <;> decide
  | decimal p s =>
    have hends : (decimal p s).text.toList = 'd' :: ("ecimal(".toList ++
        (Nat.toDigits 10 p ++ ',' :: ' ' :: Nat.toDigits 10 s) ++ [')']) := by
      rw [text_decimal]
      simp
    rw [hends]
    exact trim_between (by decide) (by decide) _

/-- The text of a type is a specification of the type. -/
theorem ofSpec_text (h : t.Valid) : ofSpec defaults t.text = .ok t := by
  rw [ofSpec_eq_ok, trim_text, lower_of_isPlain (isPlain_text t)]
  exact denotes_text h

end Texts

/-- A specification is read as a type exactly when the grammar gives it that type, and is refused as
it was given otherwise. Only types that pass their own check are read, and the text of each of these
is read as the type, whatever a bare decimal means. -/
theorem ofSpec_iff_denotes (defaults : DecimalDefaults) :
    (∀ spec : String,
      (∀ t, ofSpec defaults spec = .ok t ↔ Denotes defaults (lower (trim spec.toList)) t) ∧
      ((¬∃ t, Denotes defaults (lower (trim spec.toList)) t) →
        ∃ fault, ofSpec defaults spec = .error (.badSpec spec fault)) ∧
      ∀ t, ofSpec defaults spec = .ok t → t.checked = .ok t) ∧
    ∀ t : SqlType, t.checked = .ok t → ofSpec defaults t.text = .ok t := by
  refine ⟨fun spec => ⟨fun t => ofSpec_eq_ok, ofSpec_eq_error, fun t h => ?_⟩, fun t h => ?_⟩
  · exact Expr.checked_eq_ok.mpr ⟨(ofSpec_eq_ok.mp h).valid, rfl⟩
  · exact ofSpec_text (Expr.checked_eq_ok.mp h).1

def paddedNumeric : String := " NUMERIC\u2003( 0038 ,\t02 )\n"

/-- A digit of another script between the parentheses. -/
def arabicDecimal : String := "Decimal(\u0663)"

theorem paddedNumeric_denotes :
    Denotes {} (lower (trim paddedNumeric.toList)) (decimal 38 2) ∧
      (decimal 38 2).checked = .ok (decimal 38 2) ∧
      ofSpec ⟨0, 7⟩ (decimal 38 2).text = .ok (decimal 38 2) ∧
      (¬∃ t, Denotes {} (lower (trim arabicDecimal.toList)) t) ∧
      ∃ fault, ofSpec {} arabicDecimal = .error (.badSpec arabicDecimal fault) := by
  obtain ⟨hread, -⟩ := ofSpec_iff_denotes {}
  have hpadded : ofSpec {} paddedNumeric = .ok (decimal 38 2) := by decide +kernel
  have harabic : ∀ t, ofSpec {} arabicDecimal ≠ .ok t := by
    intro t ht
    have hnone : (ofSpec {} arabicDecimal).toOption = none := by decide +kernel
    rw [ht] at hnone
    cases hnone
  have hnot : ¬∃ t, Denotes {} (lower (trim arabicDecimal.toList)) t :=
    fun ⟨t, ht⟩ => harabic t (((hread arabicDecimal).1 t).mpr ht)
  have hchecked := (hread paddedNumeric).2.2 _ hpadded
  exact ⟨((hread paddedNumeric).1 _).mp hpadded, hchecked,
    (ofSpec_iff_denotes ⟨0, 7⟩).2 _ hchecked, hnot, (hread arabicDecimal).2.1 hnot⟩

end SqlType

end TypedSql
