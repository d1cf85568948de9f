import TypedSql.Compile
import TypedSql.Proofs.Scanner

namespace TypedSql

variable {ds : List Char}

/-- Text that begins no identifier and no string. -/
def Unquoted (s : List Char) : Prop := ∀ c ∈ s, c ∉ delimiters

instance (s : List Char) : Decidable (Unquoted s) :=
  List.decidableBAll (fun c => c ∉ delimiters) s

theorem unquoted_append {es : List Char} : Unquoted (ds ++ es) ↔ Unquoted ds ∧ Unquoted es :=
  List.forall_mem_append

theorem unquoted_cons {c : Char} : Unquoted (c :: ds) ↔ c ∉ delimiters ∧ Unquoted ds :=
  List.forall_mem_cons

theorem Unquoted.take (h : Unquoted ds) (n : Nat) : Unquoted (ds.take n) :=
  fun c hc => h c (List.mem_of_mem_take hc)

theorem Unquoted.drop (h : Unquoted ds) (n : Nat) : Unquoted (ds.drop n) :=
  fun c hc => h c (List.mem_of_mem_drop hc)

theorem unquoted_digits (h : ∀ c ∈ ds, c.isDigit) : Unquoted ds := by
  intro c hc hd
  have := h c hc
  simp only [delimiters, List.mem_cons, List.not_mem_nil, or_false] at hd
  rcases hd with rfl | rfl | rfl | rfl <;> cases this

theorem unquoted_toDigits (n : Nat) : Unquoted (Nat.toDigits 10 n) :=
  unquoted_digits fun _ hc => Nat.isDigit_of_mem_toDigits (by decide) (by decide) hc

theorem unquoted_nat (n : Nat) : Unquoted (toString n).toList := by
  rw [Nat.toString_eq_repr, Nat.toList_repr]
  exact unquoted_toDigits n

theorem unquoted_int (n : Int) : Unquoted (toString n).toList := by
  rw [Int.toString_eq_repr, Int.repr_eq_if]
  split
  · rw [Nat.toList_repr]
    exact unquoted_toDigits _
  · rw [String.toList_append, Nat.toList_repr, unquoted_append]
    exact ⟨by decide, unquoted_toDigits _⟩

namespace Binary64

theorem unquoted_zeros (n : Nat) : Unquoted (zeros n) := by
  intro c hc
  rw [List.eq_of_mem_replicate hc]
  decide

theorem unquoted_withPoint {whole frac : List Char} (hw : Unquoted whole) (hf : Unquoted frac) :
    Unquoted (withPoint whole frac) := by
  rw [withPoint, unquoted_append, unquoted_cons]
  refine ⟨hw, by decide, ?_⟩
  split
  · decide
  · exact hf

theorem unquoted_positional (h : Unquoted ds) (e : Int) : Unquoted (positional ds e) := by
  unfold positional
  split
  · exact unquoted_withPoint (by decide) (unquoted_append.mpr ⟨unquoted_zeros _, h⟩)
  · exact unquoted_withPoint (unquoted_append.mpr ⟨h.take _, unquoted_zeros _⟩) (h.drop _)

theorem unquoted_scientific (h : Unquoted ds) (e : Int) : Unquoted (scientific ds e) := by
  have hfrac : Unquoted (if ds.length ≤ 1 then [] else '.' :: ds.drop 1) := by
    split
    · exact nofun
    · exact unquoted_cons.mpr ⟨by decide, h.drop 1⟩
  rw [scientific, unquoted_append, unquoted_append, unquoted_cons]
  exact ⟨⟨h.take 1, hfrac⟩, by decide, unquoted_int e⟩

theorem unquoted_write (l : Layout) (x : Binary64) : Unquoted (l.write x) := by
  have hdigits := unquoted_toDigits (x.shortest l.tie).digits
  rw [Layout.write, unquoted_append]
  constructor
  · split <;> decide
  · split
    · exact unquoted_positional hdigits _
    · exact unquoted_scientific hdigits _

end Binary64

theorem unquoted_sized {n : String} (hn : Unquoted n.toList) (p s : Nat) :
    Unquoted (TypeNames.sized n p s).toList := by
  simp only [TypeNames.sized, String.toList_append, unquoted_append]
  exact ⟨⟨⟨⟨⟨hn, by decide⟩, unquoted_nat p⟩, by decide⟩, unquoted_nat s⟩, by decide⟩

/-- The names of decimal types, before their sizes. -/
def decimalNames : List String := ["DECIMAL", "NUMERIC", "NUMBER", "BIGNUMERIC"]

theorem decimal_typeName (d : Dialect) (p s : Nat) :
    ∃ n ∈ decimalNames,
      d.typeName (.decimal p s) = TypeNames.sized n p s ∨ d.typeName (.decimal p s) = n := by
  cases d with
  | duckdb | mssql | mysql | redshift | databricks | trino =>
    exact ⟨"DECIMAL", by decide, .inl rfl⟩
  | postgres => exact ⟨"NUMERIC", by decide, .inl rfl⟩
  | snowflake => exact ⟨"NUMBER", by decide, .inl rfl⟩
  | sqlite => exact ⟨"NUMERIC", by decide, .inr rfl⟩
  | bigquery =>
    by_cases h : p - s ≤ 29 ∧ s ≤ 9
    · exact ⟨"NUMERIC", by decide, .inl (congrArg (TypeNames.sized · p s) (if_pos h))⟩
    · exact ⟨"BIGNUMERIC", by decide, .inl (congrArg (TypeNames.sized · p s) (if_neg h))⟩

theorem unquoted_typeName (d : Dialect) (t : SqlType) : Unquoted (d.typeName t).toList := by
  cases t with
  | decimal p s =>
    obtain ⟨n, hn, h⟩ := decimal_typeName d p s
    have hu : ∀ n ∈ decimalNames, Unquoted n.toList := by decide +kernel
    rcases h with h | h <;> rw [h]
    · exact unquoted_sized (hu n hn) p s
    · exact hu n hn
  | integer w | floating w => cases w <;> cases d <;> decide +kernel
  | _ => cases d <;> decide +kernel

/-- The functions that expressions are compiled to. -/
def functionNames : List String :=
  ["Abs", "Ceil", "Floor", "Sign", "round", "Coalesce", "Greatest", "Least", "string_agg",
    "group_concat", "listagg", "array_join", "collect_list", "array_agg"]

theorem renamed_mem (d : Dialect) (f : String) :
    (d.renamed? f).getD f ∈ [f, "CEILING", "MAX", "MIN"] := by
  have hnames : ∀ p ∈ d.rules.renamed, p.2 ∈ ["CEILING", "MAX", "MIN"] := by
    cases d <;> decide
  cases h : d.renamed? f with
  | none => exact List.mem_cons_self
  | some n =>
    obtain ⟨l, r, hl, -⟩ := List.lookup_eq_some_iff.mp h
    exact List.mem_cons_of_mem _ (hnames (capitals f, n) (by simp [hl]))

theorem unquoted_functionText (d : Dialect) {f : String} (hf : f ∈ functionNames) :
    Unquoted (d.functionText f).toList := by
  have hcapitals : ∀ n ∈ functionNames ++ ["CEILING", "MAX", "MIN"],
      Unquoted (capitals n).toList := by
    decide +kernel
  refine hcapitals _ ?_
  rcases List.mem_cons.mp (renamed_mem d f) with h | h
  · rw [h]
    exact List.mem_append_left _ hf
  · exact List.mem_append_right _ h

end TypedSql
