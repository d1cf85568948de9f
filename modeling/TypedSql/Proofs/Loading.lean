import TypedSql.Proofs.Failures
import TypedSql.Proofs.Names
import TypedSql.Settings

namespace TypedSql

namespace Text

theorem trim_eq_nil {s : List Char} : trim s = [] ↔ Blank s := by
  have hsplit := s.takeWhile_append_dropWhile (p := isBlank)
  rw [trim, List.reverse_eq_nil_iff, List.dropWhile_eq_nil_iff]
  simp only [List.mem_reverse]
  constructor
  · intro h
    rw [← hsplit]
    exact List.forall_mem_append.mpr ⟨fun c hc => List.mem_takeWhile_imp hc, h⟩
  · exact fun h c hc => h c ((List.dropWhile_sublist _).subset hc)

end Text

namespace Target

variable {o o' : CompileOptions} {target : Target}

theorem exists_compile_table (t : Table) (o : CompileOptions) :
    ∃ sql, (table t).compile o = .ok sql := by
  have hquery : (table t).query o.dialect =
      .ok { select := Query.star, source := some t.name } := rfl
  obtain ⟨sql, hsql⟩ := render_of_finite o.dialect (assembled_target hquery o.pretty).finite
  exact ⟨sql, bind_eq_ok.mpr ⟨_, hquery, hsql⟩⟩

/-- No options make a target fail that compiles with others. -/
theorem verdict_compile_options (target : Target) (o o' : CompileOptions) :
    verdict (target.compile o) = verdict (target.compile o') := by
  cases target with
  | table t =>
    obtain ⟨sql, hsql⟩ := exists_compile_table t o
    obtain ⟨sql', hsql'⟩ := exists_compile_table t o'
    rw [hsql, hsql']
    rfl
  | expr e => rw [verdict_compile, verdict_compile, verdict_query o.dialect o'.dialect]

/-- What is compiled has its dialect already. -/
theorem compile_ne_unknownDialect (target : Target) (o : CompileOptions) (n : String)
    (ids : List String) : target.compile o ≠ .error (.unknownDialect n ids) := by
  intro h
  cases target with
  | table t =>
    obtain ⟨sql, hsql⟩ := exists_compile_table t o
    rw [hsql] at h
    cases h
  | expr e =>
    rw [compile_eq_error] at h
    by_cases hm : e.MixesTables
    · rw [Expr.query_of_mixesTables hm] at h
      cases h
    · obtain ⟨m, -, hf⟩ := tokens_eq_error ((query_of_one_eq_error hm).mp h)
      cases hf

end Target

namespace Settings

variable {s : Settings} {read : String → Option Settings} {application text : String} {w w' : World}
  {p : Place} {target : Target}

/-- Settings whose bare decimal is a type and whose dialect has a name. -/
structure Usable (s : Settings) : Prop where
  precision_pos : 1 ≤ s.types.precision
  precision_le : s.types.precision ≤ 38
  scale_le : s.types.scale ≤ s.types.precision
  dialect : ∃ c ∈ s.compile.defaultDialect.toList, Text.isBlank c = false

section Validity

theorem dialect_named_iff :
    (Text.trim s.compile.defaultDialect.toList).isEmpty = false ↔
      ∃ c ∈ s.compile.defaultDialect.toList, Text.isBlank c = false := by
  rw [← Bool.not_eq_true, List.isEmpty_iff, Text.trim_eq_nil]
  simp [Text.Blank]

theorem fault?_eq_none : s.fault? = none ↔ s.Usable := by
  have hmax : SqlType.maxPrecision = 38 := rfl
  simp only [fault?, ite_eq_iff, reduceCtorEq, and_false, false_or, and_true, Bool.not_eq_true,
    dialect_named_iff]
  constructor
  · rintro ⟨hprecision, hscale, hdialect⟩
    exact ⟨by omega, by omega, by omega, hdialect⟩
  · rintro ⟨hpos, hle, hscale, hdialect⟩
    exact ⟨by omega, by omega, hdialect⟩

theorem validate_eq_ok {t : Settings} : s.validate = .ok t ↔ s.Usable ∧ s = t := by
  rw [← fault?_eq_none, validate]
  cases s.fault? <;> simp

theorem ofText_eq_ok : ofText read text = .ok s ↔ read text = some s ∧ s.Usable := by
  unfold ofText
  cases read text with
  | none => simp
  | some t =>
    simp only [validate_eq_ok, Option.some.injEq]
    exact ⟨fun ⟨ht, h⟩ => ⟨h, h ▸ ht⟩, fun ⟨h, hs⟩ => ⟨h ▸ hs, h⟩⟩

theorem ofPlace_usable (h : ofPlace read w p = .ok s) : s.Usable := by
  unfold ofPlace at h
  split at h
  · cases h
  · cases h
  · exact (ofText_eq_ok.mp h).2

theorem default_usable : Usable {} where
  precision_pos := by decide
  precision_le := by decide
  scale_le := by decide
  dialect := ⟨'d', by decide, by decide⟩

end Validity

section Search

/-- The places in the order in which they are tried: what the environment names, if it names a
place, the working directory and the home directory. -/
def searched (application : String) (w : World) : List Place :=
  (w.named?.map Place.working).toList ++ [workingPlace application, homePlace application]

/-- What the environment names applies though nothing is there; the other places if something is. -/
def World.Applies (w : World) (p : Place) : Prop :=
  w.named?.map Place.working = some p ∨ (w.find? p).isSome

instance : Decidable (w.Applies p) := inferInstanceAs (Decidable (_ ∨ _))

theorem place?_eq :
    place? application w = (searched application w).find? fun p => w.Applies p := by
  unfold place? searched
  cases h : w.named? <;> simp [World.Applies, h]

theorem load_of_none (h : ∀ p ∈ searched application w, ¬w.Applies p) :
    load application read w = .ok {} := by
  have hnone : place? application w = none := by
    rw [place?_eq, List.find?_eq_none]
    simpa using h
  rw [load, hnone]

variable {before after : List Place}

theorem load_of_first (hs : searched application w = before ++ p :: after)
    (hbefore : ∀ q ∈ before, ¬w.Applies q) (hp : w.Applies p) :
    load application read w = ofPlace read w p := by
  have hplace : place? application w = some p := by
    rw [place?_eq, List.find?_eq_some_iff_append]
    exact ⟨decide_eq_true hp, before, after, hs, by simpa using hbefore⟩
  rw [load, hplace]

theorem searched_congr (hn : w'.named? = w.named?) :
    searched application w' = searched application w := by
  rw [searched, searched, hn]

theorem applies_congr (hn : w'.named? = w.named?) (hp : w'.find? p = w.find? p) :
    w'.Applies p ↔ w.Applies p := by
  rw [World.Applies, World.Applies, hn, hp]

/-- Nothing behind the first place that applies is looked at. -/
theorem load_congr (hs : searched application w = before ++ p :: after)
    (hbefore : ∀ q ∈ before, ¬w.Applies q) (hp : w.Applies p) (hn : w'.named? = w.named?)
    (hfind : ∀ q ∈ before ++ [p], w'.find? q = w.find? q) :
    load application read w' = load application read w := by
  obtain ⟨hbehind, hhere⟩ := List.forall_mem_append.mp hfind
  have hsame : w'.find? p = w.find? p := hhere p List.mem_cons_self
  have hbefore' : ∀ q ∈ before, ¬w'.Applies q := fun q hq h =>
    hbefore q hq ((applies_congr hn (hbehind q hq)).mp h)
  rw [load_of_first hs hbefore hp,
    load_of_first ((searched_congr hn).trans hs) hbefore' ((applies_congr hn hsame).mpr hp),
    ofPlace, ofPlace, hsame]

theorem load_usable (h : load application read w = .ok s) : s.Usable := by
  unfold load at h
  split at h
  · exact ofPlace_usable h
  · cases h
    exact default_usable

end Search

section Application

/-- A bare decimal means what the settings say. -/
theorem Usable.bare_decimal (hs : s.Usable) {spec word : String}
    (hword : word ∈ SqlType.decimalWords) (h : Text.lower (Text.trim spec.toList) = word.toList) :
    SqlType.ofSpec s.types spec = .ok (.decimal s.types.precision s.types.scale) := by
  rw [SqlType.ofSpec_eq_ok, h]
  exact .bare hword ⟨hs.precision_pos, hs.precision_le, hs.scale_le⟩

theorem compileOptions_of_word {d : Dialect}
    (h : Dialect.wordOf s.compile.defaultDialect ∈ d.words) :
    s.compileOptions = ({ dialect := d, pretty := s.compile.pretty }, []) := by
  rw [compileOptions, Dialect.ofName_eq_ok.mpr h]

theorem compileOptions_of_unknown
    (h : ∀ d : Dialect, Dialect.wordOf s.compile.defaultDialect ∉ d.words) :
    s.compileOptions = ({ dialect := .duckdb, pretty := s.compile.pretty },
      [(Error.unknownDialect s.compile.defaultDialect Dialect.ids).message ++
        "; falling back to duckdb"]) := by
  have hid : "; falling back to " ++ Dialect.standard.id = "; falling back to duckdb" := by
    decide +kernel
  rw [compileOptions, Dialect.ofName_eq_error h, ← hid, ← String.append_assoc]
  rfl

end Application

/-- Settings are those of the first place that applies, its errors included, whatever stands behind
it, and the standard ones if no place applies. Only settings that can be used are ever given. Under
these a bare decimal is the decimal that they name; a target compiles, or fails with the same error,
as it does without settings, and never for want of a dialect, since one that is not known gives way
to the standard one with a warning. -/
theorem load_first_usable (application : String) (read : String → Option Settings) :
    (∀ w before p after, searched application w = before ++ p :: after →
      (∀ q ∈ before, ¬w.Applies q) → w.Applies p →
      load application read w = ofPlace read w p ∧
      ∀ w', w'.named? = w.named? → (∀ q ∈ before ++ [p], w'.find? q = w.find? q) →
        load application read w' = load application read w) ∧
    (∀ w, (∀ p ∈ searched application w, ¬w.Applies p) → load application read w = .ok {}) ∧
    (∀ text s, ofText read text = .ok s ↔ read text = some s ∧ s.Usable) ∧
    (∀ w s, (load application read w = .ok s ∨ ∃ path, ofFile read w path = .ok s) → s.Usable) ∧
    ∀ s : Settings, s.Usable →
      (∀ spec, ∀ word ∈ SqlType.decimalWords, Text.lower (Text.trim spec.toList) = word.toList →
        SqlType.ofSpec s.types spec = .ok (.decimal s.types.precision s.types.scale)) ∧
      (∀ target : Target, verdict (target.compileWith s) = verdict (target.compile {}) ∧
        ∀ n ids, target.compileWith s ≠ .error (.unknownDialect n ids)) ∧
      (∀ d : Dialect, Dialect.wordOf s.compile.defaultDialect ∈ d.words →
        s.compileOptions = ({ dialect := d, pretty := s.compile.pretty }, [])) ∧
      ((∀ d : Dialect, Dialect.wordOf s.compile.defaultDialect ∉ d.words) →
        s.compileOptions = ({ dialect := .duckdb, pretty := s.compile.pretty },
          [(Error.unknownDialect s.compile.defaultDialect Dialect.ids).message ++
            "; falling back to duckdb"])) := by
  refine ⟨fun w before p after hs hbefore hp => ?_, fun w => load_of_none,
    fun text s => ofText_eq_ok, fun w s h => ?_,
    fun s hs => ⟨fun spec word => hs.bare_decimal, fun target => ?_,
      fun d => compileOptions_of_word, compileOptions_of_unknown⟩⟩
  · exact ⟨load_of_first hs hbefore hp, fun w' => load_congr hs hbefore hp⟩
  · rcases h with h | ⟨path, h⟩
    · exact load_usable h
    · exact ofPlace_usable h
  · exact ⟨target.verdict_compile_options _ _, fun n ids =>
      target.compile_ne_unknownDialect s.compileOptions.1 n ids⟩

def shopToml : String :=
  "[types]\ndecimal_precision = 20\ndecimal_scale = 4\n[compile]\ndefault_dialect = \"oracle\"\n"

def shopSettings : Settings := { compile := ⟨"oracle", true⟩, types := ⟨20, 4⟩ }

/-- What stands in the working directory and below the home directory. -/
def shop (here below : Option Entry) : World where
  named? := none
  find?
    | .working p => if p = "shop.toml" then here else none
    | .home p => if p = ".config/shop/config.toml" then below else none

theorem shop_loads :
    (∀ below, load "shop" readToml (shop (some (.file "[compile\n")) below) = .error .malformed) ∧
    load "shop" readToml (shop none (some (.file shopToml))) = .ok shopSettings ∧
    shopSettings.Usable ∧
    SqlType.ofSpec shopSettings.types " Numeric" = .ok (.decimal 20 4) ∧
    shopSettings.compileOptions.1 = {} ∧
    verdict ((Target.table people).compileWith shopSettings) =
      verdict ((Target.table people).compile {}) := by
  obtain ⟨hfirst, -, -, husable, happly⟩ := load_first_usable "shop" readToml
  have hbroken : ofText readToml "[compile\n" = .error .malformed := by decide +kernel
  have hshop : ofText readToml shopToml = .ok shopSettings := by decide +kernel
  have hhere : ∀ below,
      load "shop" readToml (shop (some (.file "[compile\n")) below) = .error .malformed := by
    intro below
    obtain ⟨hload, hsame⟩ := hfirst (shop (some (.file "[compile\n")) none) [] (workingPlace "shop")
      [homePlace "shop"] rfl nofun (.inr rfl)
    rw [hsame (shop _ below) rfl (by simp [shop, workingPlace]), hload]
    exact hbroken
  have hbelow : load "shop" readToml (shop none (some (.file shopToml))) = .ok shopSettings := by
    obtain ⟨hload, -⟩ := hfirst (shop none (some (.file shopToml))) [workingPlace "shop"]
      (homePlace "shop") [] rfl (by decide) (.inr rfl)
    rw [hload]
    exact hshop
  have hs := husable _ _ (.inl hbelow)
  obtain ⟨hdecimal, hcompile, -, hunknown⟩ := happly shopSettings hs
  have hnone : ∀ d : Dialect, Dialect.wordOf shopSettings.compile.defaultDialect ∉ d.words := by
    intro d
    cases d <;> decide +kernel
  refine ⟨hhere, hbelow, hs, hdecimal " Numeric" "numeric" (by decide) (by decide +kernel), ?_,
    (hcompile _).1⟩
  rw [hunknown hnone]
  rfl

end Settings

end TypedSql
