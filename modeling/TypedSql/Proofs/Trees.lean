import TypedSql.Compile
import TypedSql.Proofs.Outcomes

namespace TypedSql.Expr

variable {α : Type} {op : Op} {args : List (Option Expr)} {t : SqlType} {s : Shape}

mutual

/-- What holds of a node when it holds of its arguments holds of every expression. -/
@[elab_as_elim]
theorem induction_on_args {motive : Expr → Prop}
    (node : ∀ op args t s, (∀ a, some a ∈ args → motive a) → motive ⟨op, args, t, s⟩) :
    (e : Expr) → motive e
  | ⟨op, args, t, s⟩ => node op args t s (induction_on_args_list node args)

theorem induction_on_args_list {motive : Expr → Prop}
    (node : ∀ op args t s, (∀ a, some a ∈ args → motive a) → motive ⟨op, args, t, s⟩) :
    (args : List (Option Expr)) → ∀ a, some a ∈ args → motive a
  | [], _, h => nomatch h
  | none :: args, a, h =>
    induction_on_args_list node args a ((List.mem_cons.mp h).resolve_left nofun)
  | some e :: args, a, h =>
    (List.mem_cons.mp h).elim (fun he => Option.some.inj he ▸ induction_on_args node e)
      (induction_on_args_list node args a)

end

mutual

/-- What `node` makes of each node, with what it made of the arguments. -/
def fold (node : Op → SqlType → List (Option (Expr × α)) → α) : Expr → α
  | ⟨op, args, t, _⟩ => node op t (foldArgs node args)

def foldArgs (node : Op → SqlType → List (Option (Expr × α)) → α) :
    List (Option Expr) → List (Option (Expr × α))
  | [] => []
  | none :: args => none :: foldArgs node args
  | some e :: args => some (e, e.fold node) :: foldArgs node args

end

theorem foldArgs_eq (node : Op → SqlType → List (Option (Expr × α)) → α)
    (args : List (Option Expr)) :
    foldArgs node args = args.map (Option.map fun e => (e, e.fold node)) := by
  induction args with
  | nil => rfl
  | cons a args ih => cases a <;> simp [foldArgs, ih]

mutual

/-- The nodes, each before its arguments and these from left to right. -/
def nodes : Expr → List Expr
  | ⟨op, args, t, s⟩ => ⟨op, args, t, s⟩ :: argNodes args

def argNodes : List (Option Expr) → List Expr
  | [] => []
  | none :: args => argNodes args
  | some e :: args => nodes e ++ argNodes args

end

theorem argNodes_eq (args : List (Option Expr)) :
    argNodes args = args.flatMap fun a => a.elim [] nodes := by
  induction args with
  | nil => rfl
  | cons a args ih => cases a <;> simp [argNodes, ih]

theorem mem_nodes {n : Expr} :
    n ∈ nodes ⟨op, args, t, s⟩ ↔ n = ⟨op, args, t, s⟩ ∨ ∃ a, some a ∈ args ∧ n ∈ a.nodes := by
  rw [nodes, argNodes_eq, List.mem_cons, List.mem_flatMap]
  refine or_congr_right ⟨?_, ?_⟩
  · rintro ⟨a, ha, hn⟩
    cases a with
    | none => cases hn
    | some a => exact ⟨a, ha, hn⟩
  · rintro ⟨a, ha, hn⟩
    exact ⟨some a, ha, hn⟩

/-- The table of a column. -/
def table? (e : Expr) : Option Table :=
  match e.op with
  | .column t _ => some t
  | _ => none

theorem columnTables_eq (e : Expr) : e.columnTables = e.nodes.filterMap table? := by
  induction e using induction_on_args with
  | node op args t s ih =>
    have hargs : argTables args = (argNodes args).filterMap table? := by
      induction args with
      | nil => rfl
      | cons a args iha =>
        have hrest := iha fun b hb => ih b (List.mem_cons_of_mem _ hb)
        cases a with
        | none => exact hrest
        | some a =>
          rw [argTables, argNodes, List.filterMap_append, hrest, ih a List.mem_cons_self]
    cases op with
    | column b n =>
      have hcolumn : table? ⟨.column b n, args, t, s⟩ = some b := rfl
      rw [columnTables, nodes, List.filterMap_cons_some hcolumn, hargs]
    | _ =>
      rw [nodes, List.filterMap_cons_none rfl, ← hargs]
      rfl

theorem tables_eq (e : Expr) : e.tables = (e.nodes.filterMap table?).eraseDups := by
  rw [tables, columnTables_eq]

theorem mem_tables {e : Expr} {b : Table} : b ∈ e.tables ↔ ∃ n ∈ e.nodes, n.table? = some b := by
  rw [tables_eq, List.mem_eraseDups, List.mem_filterMap]

/-- Two of the columns are of different tables. -/
def MixesTables (e : Expr) : Prop :=
  ∃ m ∈ e.nodes, ∃ n ∈ e.nodes, ∃ b c, m.table? = some b ∧ n.table? = some c ∧ b ≠ c

theorem mixesTables_iff {e : Expr} : e.MixesTables ↔ ∃ b ∈ e.tables, ∃ c ∈ e.tables, b ≠ c := by
  simp only [MixesTables, mem_tables]
  constructor
  · rintro ⟨m, hm, n, hn, b, c, hb, hc, hne⟩
    exact ⟨b, ⟨m, hm, hb⟩, c, ⟨n, hn, hc⟩, hne⟩
  · rintro ⟨b, ⟨m, hm, hb⟩, c, ⟨n, hn, hc⟩, hne⟩
    exact ⟨m, hm, n, hn, b, c, hb, hc, hne⟩

/-- The first two members of a list without repetitions differ. -/
theorem ne_of_eraseDups [DecidableEq α] {l r : List α} {a b : α}
    (h : l.eraseDups = a :: b :: r) : a ≠ b := by
  cases l with
  | nil => cases h
  | cons c l =>
    rw [List.eraseDups_cons] at h
    obtain ⟨hc, hl⟩ := List.cons.inj h
    have hb : b ∈ (l.filter fun x => !x == c).eraseDups := by simp [hl]
    rw [List.mem_eraseDups, List.mem_filter, hc] at hb
    rintro rfl
    simp at hb

theorem query_of_mixesTables {e : Expr} (h : e.MixesTables) (d : Dialect) :
    e.query d = .error (.multipleTables (e.tables.map Table.name)) := by
  obtain ⟨b, hb, c, hc, hne⟩ := mixesTables_iff.mp h
  unfold query
  cases ht : e.tables with
  | nil =>
    rw [ht] at hb
    cases hb
  | cons u us =>
    cases us with
    | nil =>
      rw [ht, List.mem_singleton] at hb hc
      exact absurd (hb.trans hc.symm) hne
    | cons v vs => rfl

theorem query_of_one {e : Expr} (h : ¬e.MixesTables) (d : Dialect) :
    e.query d = (do
      return { select := [⟨← e.tokens d, e.selectAlias⟩]
               source := e.tables.head?.map Table.name }) := by
  unfold query
  cases ht : e.tables with
  | nil => rfl
  | cons u us =>
    cases us with
    | nil => rfl
    | cons v vs =>
      have hne : u ≠ v := ne_of_eraseDups ht
      exact absurd (mixesTables_iff.mpr ⟨u, by simp [ht], v, by simp [ht], hne⟩) h

theorem query_eq_ok {e : Expr} {d : Dialect} {q : Query} (h : e.query d = .ok q) :
    ¬e.MixesTables ∧ ∃ ts, e.tokens d = .ok ts ∧ q.select = [⟨ts, e.selectAlias⟩] := by
  have hm : ¬e.MixesTables := by
    intro hm
    rw [query_of_mixesTables hm] at h
    cases h
  rw [query_of_one hm] at h
  obtain ⟨ts, hts, h⟩ := bind_eq_ok.mp h
  cases h
  exact ⟨hm, ts, hts, rfl⟩

end TypedSql.Expr
