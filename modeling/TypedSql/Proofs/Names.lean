import TypedSql.Compile
import TypedSql.Proofs.Specifications

namespace TypedSql

namespace Text

/-- The letters of ASCII, which are no blanks and have one small letter each. -/
theorem ascii_letters : ∀ n < 0x80, (Char.ofNat n).isAlpha →
    Case.lowercase.apply (Char.ofNat n) = [(Char.ofNat n).toLower] ∧
      isBlank (Char.ofNat n) = false := by
  decide +kernel

variable {c : Char} {s : List Char}

theorem toNat_of_isAlpha (h : c.isAlpha) : c.toNat < 0x80 := by
  rcases Bool.or_eq_true_iff.mp h with h | h
  · have hle : c.val ≤ 'Z'.val := (of_decide_eq_true h).2
    exact Nat.lt_of_le_of_lt (UInt32.le_iff_toNat_le.mp hle) (by decide)
  · have hle : c.val ≤ 'z'.val := of_decide_eq_true (Bool.and_eq_true_iff.mp h).2
    exact Nat.lt_of_le_of_lt (UInt32.le_iff_toNat_le.mp hle) (by decide)

theorem lowercase_of_isAlpha (h : c.isAlpha) :
    Case.lowercase.apply c = [c.toLower] ∧ isBlank c = false := by
  have hc := ascii_letters c.toNat (toNat_of_isAlpha h)
  rw [Char.ofNat_toNat] at hc
  exact hc h

theorem isAlpha_of_toLower (h : c.toLower.isLower) : c.isAlpha := by
  refine Bool.or_eq_true_iff.mpr ?_
  unfold Char.toLower at h
  split at h
  · rename_i hupper
    exact .inl (decide_eq_true hupper)
  · exact .inr h

theorem toList_toLower (s : String) : s.toLower.toList = s.toList.map Char.toLower :=
  String.toList_map

theorem lower_of_letters (h : ∀ c ∈ s, c.isAlpha) : lower s = s.map Char.toLower := by
  refine lower_eq_map fun c hc => ⟨?_, (lowercase_of_isAlpha (h c hc)).1⟩
  rintro rfl
  exact absurd (toNat_of_isAlpha (h _ hc)) (by decide)

theorem trim_of_letters (h : ∀ c ∈ s, c.isAlpha) : trim s = s := by
  have hends : ∀ s : List Char, (∀ c ∈ s, c.isAlpha) → s.dropWhile isBlank = s := fun s hs =>
    dropWhile_of_head fun c hc => (lowercase_of_isAlpha (hs c (List.mem_of_mem_head? hc))).2
  rw [trim, hends s h, hends s.reverse (by simpa using h), List.reverse_reverse]

end Text

namespace Dialect

open Text

/-- The identifier and the aliases. -/
def keys (d : Dialect) : List String := d.id :: d.rules.aliases

/-- The words that a dialect is called by: its keys, alone and with `compiler` behind them. -/
def words (d : Dialect) : List (List Char) :=
  d.keys.flatMap fun k => [k.toList, k.toList ++ compilerWord]

/-- A name without the blanks around it and in lower case. -/
def wordOf (name : String) : List Char := lower (trim name.toList)

variable {d e : Dialect} {k name : String} {s w : List Char}

theorem mem_all (d : Dialect) : d ∈ all := by
  cases d <;> decide

theorem keys_letters (d : Dialect) :
    ∀ k ∈ d.keys, k.toList ≠ [] ∧ k.toList.all Char.isLower ∧ ¬compilerWord <:+ k.toList := by
  cases d <;> decide +kernel

theorem keys_apart : ∀ d ∈ all, ∀ e ∈ all, ∀ k ∈ d.keys, k ∈ e.keys → d = e := by
  decide +kernel

theorem ids_eq : ids = ["duckdb", "postgres", "mssql", "mysql", "snowflake", "bigquery", "redshift",
    "databricks", "sqlite", "trino"] := by
  decide +kernel

theorem id_of_compilerName (d : Dialect) :
    d.rules.compilerName.toList.map Char.toLower = d.id.toList ++ compilerWord := by
  cases d <;> decide +kernel

section Stem

/-- What the whole of a text is when it does not end in `compiler`. -/
theorem stem_of_not_suffix (h : ¬compilerWord <:+ s) : stem s = s := by
  unfold stem
  split
  · rename_i c cs hread
    rw [List.isPrefixOf?_eq_some_iff_append_eq] at hread
    exact absurd ⟨(c :: cs).reverse, List.reverse_injective (by simpa using hread)⟩ h
  · rfl

theorem stem_append (h : s ≠ []) : stem (s ++ compilerWord) = s := by
  have hread : compilerWord.reverse.isPrefixOf? (s ++ compilerWord).reverse = some s.reverse := by
    rw [List.isPrefixOf?_eq_some_iff_append_eq, List.reverse_append]
  obtain ⟨c, cs, hs⟩ := List.exists_cons_of_ne_nil (List.reverse_ne_nil_iff.mpr h)
  rw [stem, hread, hs]
  exact (congrArg List.reverse hs).symm.trans s.reverse_reverse

theorem stem_compilerWord : stem compilerWord = compilerWord := by decide

theorem stem_eq_iff {k : List Char} (hne : k ≠ []) (hk : ¬compilerWord <:+ k) :
    stem w = k ↔ w = k ∨ w = k ++ compilerWord := by
  constructor
  · rintro rfl
    by_cases hw : compilerWord <:+ w
    · obtain ⟨s, rfl⟩ := hw
      cases s with
      | nil =>
        rw [List.nil_append, stem_compilerWord] at hk
        exact absurd List.suffix_rfl hk
      | cons c s => exact .inr (by rw [stem_append (List.cons_ne_nil c s)])
    · exact .inl (stem_of_not_suffix hw).symm
  · rintro (rfl | rfl)
    · exact stem_of_not_suffix hk
    · exact stem_append hne

end Stem

section Lookup

theorem mem_words : w ∈ d.words ↔ ∃ k ∈ d.keys, w = k.toList ∨ w = k.toList ++ compilerWord := by
  simp [words]

theorem answersTo_iff : d.answersTo k ↔ k ∈ d.keys := by
  rw [answersTo, keys, List.mem_cons, Bool.or_eq_true, decide_eq_true_eq, List.contains_iff_mem,
    eq_comm]

theorem idOf_mem_keys : idOf name ∈ d.keys ↔ wordOf name ∈ d.words := by
  have hid : ∀ k, idOf name = k ↔ stem (wordOf name) = k.toList := by
    intro k
    rw [idOf, ← String.toList_inj, String.toList_ofList, wordOf]
  rw [mem_words]
  constructor
  · intro h
    obtain ⟨hne, -, hk⟩ := keys_letters d _ h
    exact ⟨_, h, (stem_eq_iff hne hk).mp ((hid _).mp rfl)⟩
  · rintro ⟨k, hmem, h⟩
    obtain ⟨hne, -, hk⟩ := keys_letters d k hmem
    rw [(hid k).mpr ((stem_eq_iff hne hk).mpr h)]
    exact hmem

theorem words_apart (hd : w ∈ d.words) (he : w ∈ e.words) : d = e := by
  obtain ⟨k, hkd, hk⟩ := mem_words.mp hd
  obtain ⟨l, hle, hl⟩ := mem_words.mp he
  obtain ⟨hkne, -, hks⟩ := keys_letters d k hkd
  obtain ⟨hlne, -, hls⟩ := keys_letters e l hle
  have hkl : k.toList = l.toList := by
    rw [← (stem_eq_iff hkne hks).mpr hk, (stem_eq_iff hlne hls).mpr hl]
  exact keys_apart d (mem_all d) e (mem_all e) k hkd (String.toList_inj.mp hkl ▸ hle)

theorem ofName_eq_ok : ofName name = .ok d ↔ wordOf name ∈ d.words := by
  have hanswers : ∀ d, answersTo d (idOf name) ↔ wordOf name ∈ d.words := fun d =>
    answersTo_iff.trans idOf_mem_keys
  unfold ofName
  cases hf : all.find? (answersTo · (idOf name)) with
  | none =>
    simp only [reduceCtorEq, false_iff]
    exact fun h => List.find?_eq_none.mp hf d (mem_all d) ((hanswers d).mpr h)
  | some e =>
    have he := (hanswers e).mp (by simpa using List.find?_some hf)
    simp only [Except.ok.injEq]
    exact ⟨fun h => h ▸ he, fun h => words_apart he h⟩

theorem ofName_eq_error (h : ∀ d : Dialect, wordOf name ∉ d.words) :
    ofName name = .error (.unknownDialect name ids) := by
  cases hn : ofName name with
  | ok d => exact absurd (ofName_eq_ok.mp hn) (h d)
  | error x =>
    unfold ofName at hn
    split at hn
    · cases hn
    · exact hn.symm

end Lookup

section Spellings

theorem words_letters (hw : w ∈ d.words) : ∀ c ∈ w, c.isLower := by
  have hcompiler : ∀ c ∈ compilerWord, c.isLower := List.all_eq_true.mp (by decide)
  obtain ⟨k, hk, h⟩ := mem_words.mp hw
  have hletters := List.all_eq_true.mp (keys_letters d k hk).2.1
  rcases h with rfl | rfl
  · exact hletters
  · exact List.forall_mem_append.mpr ⟨hletters, hcompiler⟩

/-- A word is one in capitals too, and in any mixture of both. -/
theorem wordOf_spelling (h : name.toList.map Char.toLower ∈ d.words) : wordOf name ∈ d.words := by
  have hletters : ∀ c ∈ name.toList, c.isAlpha := fun c hc =>
    isAlpha_of_toLower (words_letters h _ (List.mem_map_of_mem hc))
  rw [wordOf, trim_of_letters hletters, lower_of_letters hletters]
  exact h

theorem identifier_mem_words (d : Dialect) : d.id.toList ∈ d.words :=
  mem_words.mpr ⟨d.id, List.mem_cons_self, .inl rfl⟩

theorem compilerName_mem_words (d : Dialect) :
    d.rules.compilerName.toList.map Char.toLower ∈ d.words :=
  mem_words.mpr ⟨d.id, List.mem_cons_self, .inr (id_of_compilerName d)⟩

/-- What comes close to a word: nothing, `compiler` alone or twice at the end, or a blank inside. -/
inductive NearMiss : List Char → Prop
  | empty : NearMiss []
  | suffixAlone : NearMiss compilerWord
  | suffixTwice (s : List Char) : NearMiss (s ++ compilerWord ++ compilerWord)
  | blankInside {c : Char} (s r : List Char) (h : isBlank c) : NearMiss (s ++ c :: r)

theorem NearMiss.not_mem_words (h : NearMiss w) (d : Dialect) : w ∉ d.words := by
  intro hw
  obtain ⟨k, hk, hword⟩ := mem_words.mp hw
  obtain ⟨hne, -, hsuffix⟩ := keys_letters d k hk
  have hk : stem w = k.toList := (stem_eq_iff hne hsuffix).mpr hword
  cases h with
  | empty => exact hne (hk.symm.trans (stem_of_not_suffix (by decide)))
  | suffixAlone =>
    rw [stem_compilerWord] at hk
    exact hsuffix (hk ▸ List.suffix_rfl)
  | suffixTwice s =>
    have hlong : s ++ compilerWord ≠ [] := List.append_ne_nil_of_right_ne_nil s (by decide)
    rw [stem_append hlong] at hk
    exact hsuffix (hk ▸ List.suffix_append s compilerWord)
  | @blankInside c s r hc =>
    have hletter : c.isLower := words_letters hw c (by simp)
    have hblank := (lowercase_of_isAlpha (c := c) (Bool.or_eq_true_iff.mpr (.inr hletter))).2
    rw [hc] at hblank
    cases hblank

end Spellings

/-- A name finds a dialect exactly if it is one of the dialect's words, blanks around it and case
apart, and otherwise fails with the name as it is given and all identifiers. Whatever is compiled
comes out the same for any two names of a dialect. -/
theorem ofName_iff_word (name : String) :
    (∀ d, ofName name = .ok d ↔ wordOf name ∈ d.words) ∧
    (∀ w (d e : Dialect), w ∈ d.words → w ∈ e.words → d = e) ∧
    ((∀ d : Dialect, wordOf name ∉ d.words) ∨ NearMiss (wordOf name) →
      ofName name = .error (.unknownDialect name ["duckdb", "postgres", "mssql", "mysql",
        "snowflake", "bigquery", "redshift", "databricks", "sqlite", "trino"])) ∧
    (∀ (d : Dialect) (target : Target), wordOf name ∈ d.words →
      target.compileFor name = target.compile { dialect := d }) ∧
    ∀ (d : Dialect) (target : Target),
      name.toLower = d.id ∨ name.toLower = d.rules.compilerName.toLower →
      target.compileFor name = target.compile { dialect := d } := by
  have hcompile : ∀ (d : Dialect) (target : Target), wordOf name ∈ d.words →
      target.compileFor name = target.compile { dialect := d } := fun d target h => by
    rw [Target.compileFor, ofName_eq_ok.mpr h]
    rfl
  refine ⟨fun d => ofName_eq_ok, fun w d e => words_apart, fun h => ?_, hcompile,
    fun d target h => hcompile d target (wordOf_spelling ?_)⟩
  · rw [← ids_eq]
    exact ofName_eq_error (h.elim (fun h => h) NearMiss.not_mem_words)
  · rw [← toList_toLower]
    rcases h with h | h
    · rw [h]
      exact identifier_mem_words d
    · rw [h, toList_toLower]
      exact compilerName_mem_words d

/-- With a letter of another alphabet whose lower case is `k`, and blanks of two kinds around it. -/
def kelvinName : String := "\u3000DataBric\u212asCOMPILER\n"

theorem kelvinName_finds :
    ofName kelvinName = .ok .databricks ∧
      (Target.table people).compileFor kelvinName =
        (Target.table people).compile { dialect := .databricks } ∧
      (Target.table people).compileFor "DATABRICKSCompiler" =
        (Target.table people).compile { dialect := .databricks } ∧
      NearMiss (wordOf "Pg compiler") ∧
      ofName "Pg compiler" = .error (.unknownDialect "Pg compiler" ["duckdb", "postgres", "mssql",
        "mysql", "snowflake", "bigquery", "redshift", "databricks", "sqlite", "trino"]) := by
  have hword : wordOf kelvinName ∈ words .databricks := by decide +kernel
  have hcapitals : "DATABRICKSCompiler".toLower = (rules .databricks).compilerName.toLower := by
    rw [← String.toList_inj, toList_toLower, toList_toLower]
    decide +kernel
  have hmiss : NearMiss (wordOf "Pg compiler") := by
    have hblank : wordOf "Pg compiler" = "pg".toList ++ ' ' :: compilerWord := by decide +kernel
    rw [hblank]
    exact .blankInside _ _ (by decide)
  obtain ⟨hfound, -, -, hcompile, -⟩ := ofName_iff_word kelvinName
  obtain ⟨-, -, -, -, hspelled⟩ := ofName_iff_word "DATABRICKSCompiler"
  obtain ⟨-, -, hrefused, -, -⟩ := ofName_iff_word "Pg compiler"
  exact ⟨(hfound .databricks).mpr hword, hcompile .databricks _ hword,
    hspelled .databricks _ (.inr hcapitals), hmiss, hrefused (.inr hmiss)⟩

end Dialect

end TypedSql
