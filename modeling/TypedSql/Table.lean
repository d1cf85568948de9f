import TypedSql.SqlType.Spec

namespace TypedSql

structure Column where
  name : String
  type : SqlType
deriving DecidableEq

structure Table where
  name : String
  columns : List Column
  distinct : (columns.map Column.name).Nodup
deriving DecidableEq

namespace Table

/-- The first name that is in `seen` or occurs before its place in the list. -/
def firstRepeated (seen : List String) : List String → Option String
  | [] => none
  | n :: ns => if n ∈ seen then some n else firstRepeated (n :: seen) ns

theorem firstRepeated_eq_none_iff (seen ns : List String) :
    firstRepeated seen ns = none ↔ ns.Nodup ∧ ∀ n ∈ ns, n ∉ seen := by
  induction ns generalizing seen with
  | nil => simp [firstRepeated]
  | cons n ns ih =>
    by_cases h : n ∈ seen
    · simp [firstRepeated, h]
    · simp only [firstRepeated, h, if_false, ih, List.nodup_cons, List.mem_cons, forall_eq_or_imp,
        not_false_eq_true, true_and, not_or]
      constructor
      · rintro ⟨hn, hs⟩
        exact ⟨⟨fun hm => (hs n hm).1 rfl, hn⟩, fun m hm => (hs m hm).2⟩
      · rintro ⟨⟨hm, hn⟩, hs⟩
        exact ⟨hn, fun m hm' => ⟨fun e => hm (e ▸ hm'), hs m hm'⟩⟩

/-- The table with these columns, unless two of them share a name. -/
def ofColumns (name : String) (columns : List Column) : Except Error Table :=
  match h : firstRepeated [] (columns.map Column.name) with
  | some c => .error (.duplicateColumn name c)
  | none => .ok ⟨name, columns, ((firstRepeated_eq_none_iff _ _).mp h).1⟩

/-- The column with this name and the type of this specification. -/
def columnOfSpec (defaults : DecimalDefaults) (name spec : String) : Except Error Column := do
  let type ← SqlType.ofSpec defaults spec
  return ⟨name, type⟩

/-- The table whose columns have these names and type specifications. All specifications are read
before the names are compared. -/
def define (defaults : DecimalDefaults) (name : String) (specs : List (String × String)) :
    Except Error Table := do
  let columns ← specs.mapM fun c => columnOfSpec defaults c.1 c.2
  ofColumns name columns

def find? (t : Table) (name : String) : Option Column := t.columns.find? fun c => c.name = name

/-- The name, and the columns with their types. -/
def text (t : Table) : String :=
  t.name ++ "(" ++ Error.commas (t.columns.map fun c => c.name ++ ": " ++ c.type.text) ++ ")"

end Table

end TypedSql
