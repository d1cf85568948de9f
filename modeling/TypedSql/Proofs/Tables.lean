import Mathlib.Data.List.Nodup
import TypedSql.Proofs.Construction
import TypedSql.Template

namespace TypedSql

/-- Whether a text is a specification of some type. -/
def SqlType.IsSpec (defaults : DecimalDefaults) (spec : String) : Prop :=
  ∃ type, ofSpec defaults spec = .ok type

namespace Table

open SqlType (IsSpec ofSpec)

section Names

/-- The first name, in the order of the list, that occurs before its place already. -/
def FirstRepeat (ns : List String) (n : String) : Prop :=
  ∃ before after, ns = before ++ n :: after ∧ n ∈ before ∧ before.Nodup

theorem firstRepeated_eq_some {seen ns : List String} {n : String} :
    firstRepeated seen ns = some n ↔ ∃ before after, ns = before ++ n :: after ∧
      (n ∈ seen ∨ n ∈ before) ∧ before.Nodup ∧ ∀ m ∈ before, m ∉ seen := by
  induction ns generalizing seen with
  | nil => simp [firstRepeated]
  | cons m ns ih =>
    by_cases hm : m ∈ seen
    · simp only [firstRepeated, hm, if_true, Option.some.injEq]
      constructor
      · rintro rfl
        exact ⟨[], ns, rfl, .inl hm, .nil, List.forall_mem_nil _⟩
      · rintro ⟨_ | ⟨b, before⟩, after, h, -, -, hseen⟩
        · exact (List.cons.inj h).1
        · cases h
          exact absurd hm (hseen m List.mem_cons_self)
    -- The head joins the names seen: it moves from one of the two lists to the other.
    · simp only [firstRepeated, hm, if_false, ih]
      constructor
      · rintro ⟨before, after, rfl, hn, hbefore, hseen⟩
        refine ⟨m :: before, after, rfl, ?_, List.nodup_cons.mpr ⟨?_, hbefore⟩, ?_⟩
        · simpa only [List.mem_cons, or_assoc, or_left_comm] using hn
        · exact fun h => hseen m h List.mem_cons_self
        · exact List.forall_mem_cons.mpr
            ⟨hm, fun k hk h => hseen k hk (List.mem_cons_of_mem m h)⟩
      · rintro ⟨_ | ⟨b, before⟩, after, h, hn, hbefore, hseen⟩
        · cases h
          simp [hm] at hn
        · cases h
          obtain ⟨hb, hbefore⟩ := List.nodup_cons.mp hbefore
          refine ⟨before, after, rfl, ?_, hbefore, fun k hk h => ?_⟩
          · simpa only [List.mem_cons, or_assoc, or_left_comm] using hn
          · rcases List.mem_cons.mp h with rfl | h
            · exact hb hk
            · exact hseen k (List.mem_cons_of_mem m hk) h

theorem firstRepeated_nil {ns : List String} {n : String} :
    firstRepeated [] ns = some n ↔ FirstRepeat ns n := by
  simp [firstRepeated_eq_some, FirstRepeat]

end Names

section Definition

variable {defaults : DecimalDefaults} {name spec : String} {specs : List (String × String)}
  {columns : List Column} {c : Column} {t : Table} {x : Error}

theorem columnOfSpec_eq_ok :
    columnOfSpec defaults name spec = .ok c ↔
      c.name = name ∧ ofSpec defaults spec = .ok c.type := by
  rw [columnOfSpec, bind_eq_ok]
  constructor
  · rintro ⟨type, htype, hc⟩
    cases hc
    exact ⟨rfl, htype⟩
  · rintro ⟨rfl, htype⟩
    exact ⟨c.type, htype, rfl⟩

theorem columnOfSpec_eq_error :
    columnOfSpec defaults name spec = .error x ↔ ofSpec defaults spec = .error x := by
  rw [columnOfSpec, bind_eq_error]
  simp

theorem exists_columnOfSpec :
    (∃ c, columnOfSpec defaults name spec = .ok c) ↔ IsSpec defaults spec := by
  simp only [columnOfSpec_eq_ok]
  exact ⟨fun ⟨c, _, h⟩ => ⟨c.type, h⟩, fun ⟨type, h⟩ => ⟨⟨name, type⟩, rfl, h⟩⟩

theorem ofColumns_eq_ok :
    ofColumns name columns = .ok t ↔ t.name = name ∧ t.columns = columns := by
  unfold ofColumns
  split
  · rename_i n hn
    simp only [reduceCtorEq, false_iff]
    rintro ⟨-, rfl⟩
    have hnone := (firstRepeated_eq_none_iff [] _).mpr ⟨t.distinct, nofun⟩
    rw [hn] at hnone
    cases hnone
  · obtain ⟨tname, tcolumns, hdistinct⟩ := t
    simp [eq_comm]

theorem ofColumns_eq_error :
    ofColumns name columns = .error x ↔
      ∃ n, FirstRepeat (columns.map Column.name) n ∧ x = .duplicateColumn name n := by
  simp only [← firstRepeated_nil]
  unfold ofColumns
  split
  · rename_i n hn
    simp [hn, eq_comm]
  · rename_i hn
    simp [hn]

/-- The columns have the names and the types of the specifications, each in its place. -/
def Lists (defaults : DecimalDefaults) (specs : List (String × String)) (columns : List Column) :
    Prop :=
  List.Forall₂ (fun s c => c.name = s.1 ∧ ofSpec defaults s.2 = .ok c.type) specs columns

theorem lists_iff :
    specs.mapM (fun s => columnOfSpec defaults s.1 s.2) = .ok columns ↔
      Lists defaults specs columns := by
  simp only [mapM_eq_ok, columnOfSpec_eq_ok, Lists]

theorem Lists.names (h : Lists defaults specs columns) :
    columns.map Column.name = specs.map Prod.fst := by
  induction h with
  | nil => rfl
  | cons hc _ ih => rw [List.map_cons, List.map_cons, hc.1, ih]

theorem Lists.column_at {i : Nat} {n : String} (h : Lists defaults specs columns)
    (hi : specs[i]? = some (n, spec)) :
    ∃ c, columns[i]? = some c ∧ c.name = n ∧ ofSpec defaults spec = .ok c.type := by
  induction h generalizing i with
  | nil => cases hi
  | @cons s c _ _ hc _ ih =>
    cases i with
    | zero =>
      cases hi
      exact ⟨c, rfl, hc⟩
    | succ i => exact ih hi

theorem exists_lists :
    (∃ columns, Lists defaults specs columns) ↔ ∀ s ∈ specs, IsSpec defaults s.2 := by
  simp only [← lists_iff, exists_mapM_iff, exists_columnOfSpec]

theorem define_eq_ok :
    define defaults name specs = .ok t ↔ t.name = name ∧ Lists defaults specs t.columns := by
  simp only [define, bind_eq_ok, lists_iff, ofColumns_eq_ok]
  constructor
  · rintro ⟨columns, h, hname, rfl⟩
    exact ⟨hname, h⟩
  · rintro ⟨hname, h⟩
    exact ⟨t.columns, h, hname, rfl⟩

theorem exists_define :
    (∃ t, define defaults name specs = .ok t) ↔
      (∀ s ∈ specs, IsSpec defaults s.2) ∧ (specs.map Prod.fst).Nodup := by
  simp only [define_eq_ok]
  constructor
  · rintro ⟨t, -, h⟩
    exact ⟨exists_lists.mp ⟨_, h⟩, h.names ▸ t.distinct⟩
  · rintro ⟨hread, hdistinct⟩
    obtain ⟨columns, h⟩ := exists_lists.mpr hread
    exact ⟨⟨name, columns, h.names.symm ▸ hdistinct⟩, rfl, h⟩

/-- The error is that of the first specification that is not read. -/
def FirstUnread (defaults : DecimalDefaults) (specs : List (String × String)) (x : Error) : Prop :=
  ∃ before s after, specs = before ++ s :: after ∧ (∀ r ∈ before, IsSpec defaults r.2) ∧
    ofSpec defaults s.2 = .error x

theorem define_eq_error :
    define defaults name specs = .error x ↔ FirstUnread defaults specs x ∨
      (∀ s ∈ specs, IsSpec defaults s.2) ∧
        ∃ n, FirstRepeat (specs.map Prod.fst) n ∧ x = .duplicateColumn name n := by
  rw [define, bind_eq_error]
  refine or_congr ?_ ?_
  · simp only [mapM_eq_error_iff, exists_columnOfSpec, columnOfSpec_eq_error, FirstUnread]
  · simp only [lists_iff, ofColumns_eq_error, ← exists_lists]
    constructor
    · rintro ⟨columns, h, hrepeat⟩
      exact ⟨⟨columns, h⟩, h.names ▸ hrepeat⟩
    · rintro ⟨⟨columns, h⟩, hrepeat⟩
      exact ⟨columns, h, h.names.symm ▸ hrepeat⟩

end Definition

section Lookup

variable {t : Table} {c : Column} {n : String}

/-- No other column has the name. -/
theorem find?_of_mem (hc : c ∈ t.columns) : t.find? c.name = some c := by
  cases hd : t.find? c.name with
  | none => exact absurd (List.find?_eq_none.mp hd c hc) (by simp)
  | some d =>
    have hname : d.name = c.name := by simpa using List.find?_some hd
    rw [List.inj_on_of_nodup_map t.distinct (List.mem_of_find?_eq_some hd) hc hname]

theorem find?_eq_none : t.find? n = none ↔ n ∉ t.columns.map Column.name := by
  simp [find?]

theorem column_of_mem (hc : c ∈ t.columns) : t.column c.name = .ok (.ofColumn t c) := by
  rw [column, find?_of_mem hc]

theorem column_of_not_mem (hn : n ∉ t.columns.map Column.name) :
    t.column n = .error (.noSuchColumn t.name n) := by
  rw [column, find?_eq_none.mpr hn]

theorem resolve_col : (Template.col n).resolve t = t.column n := by
  rw [Template.col, Template.resolve]

end Lookup

/-- A table is defined exactly if all specifications are read and no name occurs twice. What is
wrong otherwise is the first specification that is not read, wherever a name is repeated, and the
first name that is repeated if all are read. The columns of a table are those of the list, in its
order; each is found by its place, by its name and as an attribute of the row, and nothing else is
found by name. -/
theorem define_and_lookup (defaults : DecimalDefaults) (name : String)
    (specs : List (String × String)) :
    ((∃ t, define defaults name specs = .ok t) ↔
      (∀ s ∈ specs, IsSpec defaults s.2) ∧ (specs.map Prod.fst).Nodup) ∧
    (∀ x, define defaults name specs = .error x ↔ FirstUnread defaults specs x ∨
      (∀ s ∈ specs, IsSpec defaults s.2) ∧
        ∃ n, FirstRepeat (specs.map Prod.fst) n ∧ x = .duplicateColumn name n) ∧
    ∀ t, define defaults name specs = .ok t →
      t.name = name ∧ Lists defaults specs t.columns ∧ t.columnExprs.length = specs.length ∧
      (∀ (i : Nat) (n spec : String), specs[i]? = some (n, spec) → ∃ e, t.columnExprs[i]? = some e ∧
        t.column n = .ok e ∧ (Template.col n).resolve t = .ok e ∧
        e.op = .column t n ∧ e.shape = .column ∧ ofSpec defaults spec = .ok e.type) ∧
      ∀ n ∉ specs.map Prod.fst, t.column n = .error (.noSuchColumn name n) ∧
        (Template.col n).resolve t = .error (.noSuchColumn name n) := by
  refine ⟨exists_define, fun x => define_eq_error, fun t h => ?_⟩
  obtain ⟨rfl, hlists⟩ := define_eq_ok.mp h
  refine ⟨rfl, hlists, ?_, fun i n spec hi => ?_, fun n hn => ?_⟩
  · rw [columnExprs, List.length_map, hlists.length_eq]
  · obtain ⟨c, hc, rfl, htype⟩ := hlists.column_at hi
    have hcolumn := column_of_mem (List.mem_of_getElem? hc)
    refine ⟨.ofColumn t c, ?_, hcolumn, resolve_col.trans hcolumn, rfl, rfl, htype⟩
    rw [columnExprs, List.getElem?_map, hc, Option.map_some]
  · have hcolumn := column_of_not_mem (t := t) (hlists.names ▸ hn)
    exact ⟨hcolumn, resolve_col.trans hcolumn⟩

/-- A table's columns, with a bare decimal and two names that differ in case alone. -/
def orderColumns : List (String × String) :=
  [("id", "int64"), ("total", " NUMERIC "), ("ID", "varchar")]

/-- Names repeated in front of a specification that is none. -/
def repeatedColumns : List (String × String) :=
  [("id", "int64"), ("total", "decimal"), ("total", "text"), ("id", "int8"), ("state", "blob")]

theorem orders_define :
    (∃ t, define ⟨10, 4⟩ "orders" orderColumns = .ok t ∧
      (∃ e, t.columnExprs[1]? = some e ∧ t.column "total" = .ok e ∧ e.type = .decimal 10 4) ∧
      t.column "Total" = .error (.noSuchColumn "orders" "Total")) ∧
    define {} "orders" repeatedColumns = .error (.badSpec "blob" .unknownName) ∧
    define {} "orders" (repeatedColumns.take 4) = .error (.duplicateColumn "orders" "total") := by
  have hspecs : ∀ s ∈ orderColumns, IsSpec ⟨10, 4⟩ s.2 := by
    intro s hs
    simp only [orderColumns, List.mem_cons, List.not_mem_nil, or_false] at hs
    rcases hs with rfl | rfl | rfl
    · exact ⟨.integer .w64, by decide +kernel⟩
    · exact ⟨.decimal 10 4, by decide +kernel⟩
    · exact ⟨.string, by decide +kernel⟩
  have hrepeated : ∀ s ∈ repeatedColumns.take 4, IsSpec {} s.2 := by
    intro s hs
    simp only [repeatedColumns, List.take, List.mem_cons, List.not_mem_nil, or_false] at hs
    rcases hs with rfl | rfl | rfl | rfl
    · exact ⟨.integer .w64, by decide +kernel⟩
    · exact ⟨.decimal 18 2, by decide +kernel⟩
    · exact ⟨.string, by decide +kernel⟩
    · exact ⟨.integer .w8, by decide +kernel⟩
  refine ⟨?_, ?_, ?_⟩
  · obtain ⟨hdefined, -, hlookup⟩ := define_and_lookup ⟨10, 4⟩ "orders" orderColumns
    obtain ⟨t, ht⟩ := hdefined.mpr ⟨hspecs, by decide⟩
    obtain ⟨-, -, -, hcolumns, hnone⟩ := hlookup t ht
    obtain ⟨e, he, hcolumn, -, -, -, htype⟩ := hcolumns 1 "total" " NUMERIC " rfl
    have hdecimal : ofSpec ⟨10, 4⟩ " NUMERIC " = .ok (.decimal 10 4) := by decide +kernel
    rw [hdecimal] at htype
    exact ⟨t, ht, ⟨e, he, hcolumn, (Except.ok.inj htype).symm⟩, (hnone "Total" (by decide)).1⟩
  · refine ((define_and_lookup {} "orders" repeatedColumns).2.1 _).mpr (.inl ?_)
    exact ⟨repeatedColumns.take 4, ("state", "blob"), [], rfl, hrepeated, by decide +kernel⟩
  · refine ((define_and_lookup {} "orders" _).2.1 _).mpr (.inr ⟨hrepeated, "total", ?_, rfl⟩)
    exact ⟨["id", "total"], ["id"], rfl, by decide, by decide⟩

end Table

end TypedSql
