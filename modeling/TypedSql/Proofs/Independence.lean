import TypedSql.Proofs.Nodes
import TypedSql.Proofs.Resolution
import TypedSql.Proofs.Trees

namespace TypedSql

open Compile

namespace Op

/-- The operation on a column of `u`, if it is one on a column. -/
def onto (u : Table) : Op → Op
  | column _ n => column u n
  | op => op

theorem name_onto (u : Table) (op : Op) : (op.onto u).name = op.name := by
  cases op <;> rfl

theorem functionName_onto (u : Table) (op : Op) : (op.onto u).functionName = op.functionName := by
  rw [functionName, name_onto, functionName]

theorem isArithmetic_onto (u : Table) (op : Op) :
    (op.onto u).isArithmetic = op.isArithmetic := by
  cases op <;> rfl

theorem onto_eq_divide (u : Table) (op : Op) : op.onto u = divide ↔ op = divide := by
  cases op <;> simp [onto]

end Op

namespace Expr

mutual

/-- The expression with every column moved to `u`. -/
def onto (u : Table) : Expr → Expr
  | ⟨op, args, t, s⟩ => ⟨op.onto u, argsOnto u args, t, s⟩

def argsOnto (u : Table) : List (Option Expr) → List (Option Expr)
  | [] => []
  | none :: args => none :: argsOnto u args
  | some e :: args => some (onto u e) :: argsOnto u args

end

variable {u : Table} {args : List (Option Expr)}

theorem argsOnto_eq (u : Table) (args : List (Option Expr)) :
    argsOnto u args = args.map (Option.map (onto u)) := by
  induction args with
  | nil => rfl
  | cons a args ih => cases a <;> simp [argsOnto, ih]

theorem onto_mk (u : Table) (op : Op) (args : List (Option Expr)) (t : SqlType) (s : Shape) :
    onto u ⟨op, args, t, s⟩ = ⟨op.onto u, args.map (Option.map (onto u)), t, s⟩ := by
  rw [onto, argsOnto_eq]

section Observables

variable (u : Table) (e : Expr)

theorem op_onto : (e.onto u).op = e.op.onto u := by
  cases e
  rfl

theorem type_onto : (e.onto u).type = e.type := by
  cases e
  rfl

theorem shape_onto : (e.onto u).shape = e.shape := by
  cases e
  rfl

theorem family_onto : (e.onto u).family = e.family := by
  rw [family, type_onto, family]

theorem literal?_onto : (e.onto u).literal? = e.literal? := by
  obtain ⟨op, args, t, s⟩ := e
  cases op <;> rfl

theorem argTexts_eq (args : List (Option Expr)) :
    argTexts args = args.filterMap (Option.map text) := by
  induction args with
  | nil => rfl
  | cons a args ih => cases a <;> simp [argTexts, ih]

theorem text_onto : (e.onto u).text = e.text := by
  induction e using induction_on_args with
  | node op args t s ih =>
    have hargs : argTexts (argsOnto u args) = argTexts args := by
      rw [argsOnto_eq, argTexts_eq, argTexts_eq, List.filterMap_map]
      refine List.filterMap_congr fun a ha => ?_
      cases a with
      | none => rfl
      | some a => exact congrArg some (ih a ha)
    cases op with
    | literal | column => rfl
    | _ => simp only [onto, Op.onto, text, hargs]

theorem name_onto : (e.onto u).name = e.name := by
  have htext := text_onto u e
  obtain ⟨op, args, t, s⟩ := e
  cases op with
  | aliased | column => rfl
  | _ => exact htext

theorem nodeCounts_eq (args : List (Option Expr)) :
    nodeCounts args = (args.filterMap (Option.map nodeCount)).foldr (· + ·) 0 := by
  induction args with
  | nil => rfl
  | cons a args ih => cases a <;> simp [nodeCounts, ih]

theorem nodeCount_onto : (e.onto u).nodeCount = e.nodeCount := by
  induction e using induction_on_args with
  | node op args t s ih =>
    have hargs : nodeCounts (argsOnto u args) = nodeCounts args := by
      rw [argsOnto_eq, nodeCounts_eq, nodeCounts_eq, List.filterMap_map]
      refine congrArg (List.foldr (· + ·) 0) (List.filterMap_congr fun a ha => ?_)
      cases a with
      | none => rfl
      | some a => exact congrArg some (ih a ha)
    simp only [onto, nodeCount, hargs]

end Observables

end Expr

section Compilation

variable {α β γ : Type} {d : Dialect} {u : Table} {op : Op}

theorem except_map_bind (x : Except Error α) (f : α → β) (g : β → Except Error γ) :
    (x.map f >>= g) = x >>= fun a => g (f a) := by
  cases x <;> rfl

def Compile.Part.onto (u : Table) (p : Part) : Part := ⟨p.expr.onto u, p.tokens⟩

theorem arg_onto (u : Table) (op : Op) (parts : List (Option Part)) (i : Nat) :
    arg op (parts.map (Option.map (Part.onto u))) i = (arg op parts i).map (Part.onto u) := by
  unfold arg
  rw [List.getElem?_map]
  cases parts[i]? with
  | none => rfl
  | some p => cases p <;> rfl

theorem rounded_onto (u : Table) (t : SqlType) (v n : Part) :
    rounded d t (v.onto u) (n.onto u) = rounded d t v n := by
  simp only [rounded, Part.onto, Expr.literal?_onto, Expr.type_onto]

theorem operand_onto (u : Table) (p : Part) : operand (p.onto u) = operand p := by
  simp only [operand, Part.onto, Expr.op_onto, Op.isArithmetic_onto]

theorem arithmetic_onto (u : Table) (t : SqlType) (l r : Part) :
    arithmetic d op t (l.onto u) (r.onto u) = arithmetic d op t l r := by
  have hneeds : needsDouble d op t (l.onto u).expr (r.onto u).expr =
      needsDouble d op t l.expr r.expr := by
    simp only [needsDouble, Part.onto, Expr.type_onto]
  simp only [arithmetic, operand_onto, hneeds]

theorem given_onto (u : Table) (parts : List (Option Part)) :
    given (parts.map (Option.map (Part.onto u))) = given parts := by
  have hparts : ((parts.map (Option.map (Part.onto u))).filterMap fun p => p) =
      (parts.filterMap fun p => p).map (Part.onto u) := by
    rw [List.filterMap_map, List.map_filterMap]
    rfl
  rw [given, given, hparts, List.mapM_map]
  rfl

/-- Of its arguments a node takes the tokens, and sees nothing of their tables. -/
theorem node_onto (u : Table) (op : Op) (t : SqlType) (parts : List (Option Part)) :
    node d (op.onto u) t (parts.map (Option.map (Part.onto u))) = node d op t parts := by
  cases op with
  | literal | column => rfl
  | aliased | cast | abs | sign =>
    simp only [Op.onto, node, arg_onto, except_map_bind]
    rfl
  | ceil | floor =>
    simp only [Op.onto, node, arg_onto, except_map_bind, Part.onto, Expr.type_onto]
  | round => simp only [Op.onto, node, arg_onto, except_map_bind, rounded_onto]
  | coalesce | greatest | least => simp only [Op.onto, node, given_onto]
  | stringAgg =>
    simp only [Op.onto, node, arg_onto, except_map_bind, List.getElem?_map]
    cases parts[2]? with
    | none => rfl
    | some p => cases p <;> rfl
  | add | subtract | multiply | divide =>
    simp only [Op.onto, node, arg_onto, except_map_bind, arithmetic_onto]

theorem tokens_onto (d : Dialect) (u : Table) (e : Expr) : (e.onto u).tokens d = e.tokens d := by
  induction e using Expr.induction_on_args with
  | node op args t s ih =>
    have hparts : argParts d (args.map (Option.map (Expr.onto u))) =
        (argParts d args).map (Option.map (Part.onto u)) := by
      rw [argParts_eq, argParts_eq, List.map_map, List.map_map]
      refine List.map_congr_left fun a ha => ?_
      cases a with
      | none => rfl
      | some a => simp only [Function.comp_apply, Option.map_some, Part.onto, ih a ha]
    rw [Expr.onto_mk, Expr.tokens, hparts, node_onto, Expr.tokens]

end Compilation

/-- What can be told of an expression without asking for the table of a column is the same of
both. -/
structure Expr.Alike (a b : Expr) : Prop where
  type : a.type = b.type
  shape : a.shape = b.shape
  text : a.text = b.text
  name : a.name = b.name
  nodeCount : a.nodeCount = b.nodeCount
  sql (d : Dialect) : a.sql d = b.sql d

theorem Expr.alike_of_onto {a b : Expr} {u : Table} (h : a.onto u = b.onto u) : a.Alike b where
  type := by rw [← type_onto u a, h, type_onto]
  shape := by rw [← shape_onto u a, h, shape_onto]
  text := by rw [← text_onto u a, h, text_onto]
  name := by rw [← name_onto u a, h, name_onto]
  nodeCount := by rw [← nodeCount_onto u a, h, nodeCount_onto]
  sql d := by rw [sql, ← tokens_onto d u a, h, tokens_onto, sql]

namespace Form

/-- The form with every column moved to `u`. -/
def onto (u : Table) : Form Expr → Form Expr
  | unary op a => unary (op.onto u) (a.onto u)
  | round a d => round (a.onto u) (d.map (Expr.onto u))
  | variadic op as => variadic (op.onto u) (as.map (Expr.onto u))
  | stringAgg a s p => stringAgg (a.onto u) (s.map (Expr.onto u)) (p.map (Expr.onto u))
  | cast a t => cast (a.onto u) t
  | binary op l r => binary (op.onto u) (l.onto u) (r.onto u)
  | aliased a n => aliased (a.onto u) n

variable (u : Table)

theorem getD_onto (a : Option Expr) (v : Literal) :
    (a.map (Expr.onto u)).getD (.ofLiteral v) = (a.getD (.ofLiteral v)).onto u := by
  cases a <;> rfl

theorem unary_onto (op : Op) (a : Expr) :
    Expr.unary (op.onto u) (a.onto u) = (Expr.unary op a).map (Expr.onto u) := by
  simp only [Expr.unary, Expr.type_onto, Expr.shape_onto, Op.name_onto]
  split
  · rfl
  · cases op <;> rfl

theorem round_onto (a : Expr) (d : Option Expr) :
    Expr.round (a.onto u) (d.map (Expr.onto u)) = (Expr.round a d).map (Expr.onto u) := by
  simp only [Expr.round, getD_onto, Expr.type_onto, Expr.shape_onto, Expr.roundType,
    Expr.literal?_onto]
  split
  · rfl
  · split
    · rfl
    · rfl

theorem variadic_onto (op : Op) (as : List Expr) :
    Expr.variadic (op.onto u) (as.map (Expr.onto u)) = (Expr.variadic op as).map (Expr.onto u) := by
  have htypes : (as.map (Expr.onto u)).map Expr.type = as.map Expr.type := by
    simp only [List.map_map, Function.comp_def, Expr.type_onto]
  have hshapes : (as.map (Expr.onto u)).map Expr.shape = as.map Expr.shape := by
    simp only [List.map_map, Function.comp_def, Expr.shape_onto]
  simp only [Expr.variadic, List.isEmpty_map, htypes, hshapes, Op.name_onto,
    Op.functionName_onto]
  split
  · rfl
  · cases SqlType.joinAll op.name (as.map Expr.type) with
    | error x => rfl
    | ok t =>
      simp only [except_ok_bind, except_pure, Except.map, Expr.onto_mk, List.map_map]
      rfl

theorem stringAgg_onto (a : Expr) (s p : Option Expr) :
    Expr.stringAgg (a.onto u) (s.map (Expr.onto u)) (p.map (Expr.onto u)) =
      (Expr.stringAgg a s p).map (Expr.onto u) := by
  have hfilter : (∀ f ∈ p.map (Expr.onto u), f.family = .boolean) ↔
      ∀ f ∈ p, f.family = .boolean := by
    cases p <;> simp [Expr.family_onto]
  have htypes : (p.map (Expr.onto u)).map Expr.type = p.map Expr.type := by
    cases p <;> simp [Expr.type_onto]
  simp only [Expr.stringAgg, getD_onto, Expr.family_onto, Expr.type_onto, hfilter, htypes]
  split
  · cases p <;> rfl
  · rfl

theorem cast_onto (a : Expr) (t : SqlType) :
    Expr.cast (a.onto u) t = (Expr.cast a t).map (Expr.onto u) := by
  simp only [Expr.cast, Expr.type_onto, Expr.shape_onto]
  cases t.checked with
  | error x => rfl
  | ok v =>
    simp only [except_ok_bind]
    split
    · rfl
    · split
      · rfl
      · rfl

theorem binary_onto (op : Op) (l r : Expr) :
    Expr.binary (op.onto u) (l.onto u) (r.onto u) = (Expr.binary op l r).map (Expr.onto u) := by
  simp only [Expr.binary, Expr.type_onto, Expr.shape_onto, Op.name_onto, Expr.arithmeticType,
    Op.onto_eq_divide]
  split
  · rfl
  · cases l.type.join r.type with
    | none => rfl
    | some t => rfl

/-- Building does not look at the tables of columns. -/
theorem build_onto (f : Form Expr) : (f.onto u).build = f.build.map (Expr.onto u) := by
  cases f with
  | unary op a => exact unary_onto u op a
  | round a d => exact round_onto u a d
  | variadic op as => exact variadic_onto u op as
  | stringAgg a s p => exact stringAgg_onto u a s p
  | cast a t => exact cast_onto u a t
  | binary op l r => exact binary_onto u op l r
  | aliased a n =>
    simp only [onto, build, Expr.aliased, Expr.type_onto, Expr.shape_onto]
    rfl

end Form

/-- Outcomes against two tables: values that `R` relates, or the same failure, but that a column
which is missing is missing from either table. -/
inductive Corresponds (b c : Table) {α : Type} (R : α → α → Prop) :
    Except Error α → Except Error α → Prop
  | ok {x y : α} (h : R x y) : Corresponds b c R (.ok x) (.ok y)
  | error (e : Error) : Corresponds b c R (.error e) (.error e)
  | noSuchColumn (n : String) :
      Corresponds b c R (.error (.noSuchColumn b.name n)) (.error (.noSuchColumn c.name n))

section Corresponds

variable {α β : Type} {R : α → α → Prop} {S : β → β → Prop} {b c u : Table}

theorem Corresponds.mono {R' : α → α → Prop} {x y : Except Error α} (h : Corresponds b c R x y)
    (hR : ∀ v w, R v w → R' v w) : Corresponds b c R' x y := by
  cases h with
  | ok h => exact .ok (hR _ _ h)
  | error e => exact .error e
  | noSuchColumn n => exact .noSuchColumn n

theorem Corresponds.map {x y : Except Error α} {f : α → β} (h : Corresponds b c R x y)
    (hf : ∀ v w, R v w → S (f v) (f w)) : Corresponds b c S (x.map f) (y.map f) := by
  cases h with
  | ok h => exact .ok (hf _ _ h)
  | error e => exact .error e
  | noSuchColumn n => exact .noSuchColumn n

theorem Corresponds.bind {x y : Except Error α} {f g : α → Except Error β}
    (h : Corresponds b c R x y) (hfg : ∀ v w, R v w → Corresponds b c S (f v) (g w)) :
    Corresponds b c S (x >>= f) (y >>= g) := by
  cases h with
  | ok h => exact hfg _ _ h
  | error e => exact .error e
  | noSuchColumn n => exact .noSuchColumn n

/-- Two outcomes that are one once their columns are in one table. -/
theorem Corresponds.of_map {x y : Except Error α} {f : α → β} (h : x.map f = y.map f) :
    Corresponds b c (fun v w => f v = f w) x y := by
  cases x with
  | ok v =>
    cases y with
    | ok w => exact .ok (Except.ok.inj h)
    | error e => cases h
  | error e =>
    cases y with
    | ok w => cases h
    | error e' =>
      cases h
      exact .error e

/-- Expressions, or lists and forms of them, that `f` moves to the same. -/
abbrev SameOnto (f : α → β) : α → α → Prop := fun x y => f x = f y

variable {f g : α → Except Error Expr}

theorem bindOption_corresponds {a : Option α}
    (h : ∀ x ∈ a, Corresponds b c (SameOnto (Expr.onto u)) (f x) (g x)) :
    Corresponds b c (SameOnto (Option.map (Expr.onto u))) (Form.bindOption f a)
      (Form.bindOption g a) := by
  cases a with
  | none => exact .ok rfl
  | some x => exact (h x rfl).map fun v w hvw => by simp only [SameOnto, Option.map_some, hvw]

theorem mapM_corresponds {as : List α}
    (h : ∀ x ∈ as, Corresponds b c (SameOnto (Expr.onto u)) (f x) (g x)) :
    Corresponds b c (SameOnto (List.map (Expr.onto u))) (as.mapM f) (as.mapM g) := by
  induction as with
  | nil => exact .ok rfl
  | cons a as ih =>
    rw [List.mapM_cons, List.mapM_cons]
    refine (h a List.mem_cons_self).bind fun v w hvw => ?_
    refine (ih fun x hx => h x (List.mem_cons_of_mem a hx)).bind fun vs ws hvs => ?_
    exact .ok (by simp only [SameOnto, List.map_cons, hvw, hvs])

/-- The arguments of a form fail alike or give alike forms when each of them does. -/
theorem bindArgs_corresponds {p : Form α}
    (h : ∀ x ∈ p.operands, Corresponds b c (SameOnto (Expr.onto u)) (f x) (g x)) :
    Corresponds b c (SameOnto (Form.onto u)) (p.bindArgs f) (p.bindArgs g) := by
  cases p with
  | unary op a | cast a t | aliased a n =>
    refine (h a (by simp [Form.operands])).bind fun v w hv => ?_
    exact .ok (by simp only [SameOnto, Form.onto, hv])
  | round a d =>
    have hd := bindOption_corresponds (a := d) fun x hx => h x (by simp_all [Form.operands])
    refine (h a (by simp [Form.operands])).bind fun v w hv => hd.bind fun m n hm => ?_
    exact .ok (by simp only [SameOnto, Form.onto, hv, hm])
  | variadic op as =>
    refine (mapM_corresponds h).bind fun vs ws hvs => ?_
    exact .ok (by simp only [SameOnto, Form.onto, hvs])
  | stringAgg a s q =>
    have hs := bindOption_corresponds (a := s) fun x hx => h x (by simp_all [Form.operands])
    have hq := bindOption_corresponds (a := q) fun x hx => h x (by simp_all [Form.operands])
    refine (h a (by simp [Form.operands])).bind fun v w hv => hs.bind fun m n hm =>
      hq.bind fun k l hk => ?_
    exact .ok (by simp only [SameOnto, Form.onto, hv, hm, hk])
  | binary op l r =>
    refine (h l (by simp [Form.operands])).bind fun v w hv =>
      (h r (by simp [Form.operands])).bind fun m n hm => ?_
    exact .ok (by simp only [SameOnto, Form.onto, hv, hm])

end Corresponds

mutual

/-- The names of the attributes of the row. An attribute of anything else has no value, whatever
the table is. -/
def Template.attributes : Template → List String
  | .row => []
  | .attr .row n => [n]
  | .attr _ _ => []
  | .call f => formAttributes f

def Operand.attributes : Operand → List String
  | .template t => t.attributes
  | .expr _ | .literal _ => []

def formAttributes : Form Operand → List String
  | .unary _ a | .cast a _ | .aliased a _ => a.attributes
  | .round a d => a.attributes ++ optionAttributes d
  | .variadic _ as => listAttributes as
  | .stringAgg a s f => a.attributes ++ optionAttributes s ++ optionAttributes f
  | .binary _ l r => l.attributes ++ r.attributes

def optionAttributes : Option Operand → List String
  | none => []
  | some a => a.attributes

def listAttributes : List Operand → List String
  | [] => []
  | a :: as => a.attributes ++ listAttributes as

end

theorem optionAttributes_eq (a : Option Operand) :
    optionAttributes a = a.toList.flatMap Operand.attributes := by
  cases a <;> simp [optionAttributes]

theorem listAttributes_eq (as : List Operand) :
    listAttributes as = as.flatMap Operand.attributes := by
  induction as with
  | nil => rfl
  | cons a as ih => rw [listAttributes, ih, List.flatMap_cons]

/-- The attributes of a form are those of its arguments. -/
theorem formAttributes_eq (f : Form Operand) :
    formAttributes f = f.operands.flatMap Operand.attributes := by
  cases f <;> simp [formAttributes, Form.operands, optionAttributes_eq, listAttributes_eq]

/-- A property of operands that a call takes over from its arguments. -/
structure Operand.Hereditary (P : Operand → Prop) : Prop where
  expr (e : Expr) : P (.expr e)
  literal (v : Literal) : P (.literal v)
  row : P (.template .row)
  attr {p : Template} (h : P (.template p)) (n : String) : P (.template (.attr p n))
  call {f : Form Operand} (h : ∀ a ∈ f.operands, P a) : P (.template (.call f))

section Hereditary

variable {P : Operand → Prop}

mutual

theorem Operand.Hereditary.operand (hP : Hereditary P) : (a : Operand) → P a
  | .expr e => hP.expr e
  | .literal v => hP.literal v
  | .template p => hP.template p

theorem Operand.Hereditary.template (hP : Hereditary P) : (p : Template) → P (.template p)
  | .row => hP.row
  | .attr p n => hP.attr (hP.template p) n
  | .call f => hP.call (hP.form f)

theorem Operand.Hereditary.form (hP : Hereditary P) : (f : Form Operand) → ∀ a ∈ f.operands, P a
  | .unary _ a | .cast a _ | .aliased a _ => List.forall_mem_singleton.mpr (hP.operand a)
  | .round a d => List.forall_mem_cons.mpr ⟨hP.operand a, hP.option d⟩
  | .variadic _ as => hP.list as
  | .stringAgg a s f =>
    List.forall_mem_append.mpr
      ⟨List.forall_mem_cons.mpr ⟨hP.operand a, hP.option s⟩, hP.option f⟩
  | .binary _ l r =>
    List.forall_mem_cons.mpr ⟨hP.operand l, List.forall_mem_singleton.mpr (hP.operand r)⟩

theorem Operand.Hereditary.option (hP : Hereditary P) : (a : Option Operand) → ∀ b ∈ a.toList, P b
  | none => nofun
  | some a => List.forall_mem_singleton.mpr (hP.operand a)

theorem Operand.Hereditary.list (hP : Hereditary P) : (as : List Operand) → ∀ a ∈ as, P a
  | [] => nofun
  | a :: as => List.forall_mem_cons.mpr ⟨hP.operand a, hP.list as⟩

end

end Hereditary

/-- The type of the column of this name. -/
def Table.columnType? (t : Table) (name : String) : Option SqlType :=
  (t.find? name).map Column.type

variable {b c : Table}

theorem column_corresponds (u : Table) {n : String} (h : b.columnType? n = c.columnType? n) :
    Corresponds b c (SameOnto (Expr.onto u)) (b.column n) (c.column n) := by
  unfold Table.columnType? at h
  unfold Table.column
  cases hb : b.find? n with
  | none =>
    cases hc : c.find? n with
    | none => exact .noSuchColumn n
    | some y => simp [hb, hc] at h
  | some x =>
    cases hc : c.find? n with
    | none => simp [hb, hc] at h
    | some y =>
      have hx : x.name = n := by simpa using List.find?_some hb
      have hy : y.name = n := by simpa using List.find?_some hc
      have htype : x.type = y.type := by simpa [hb, hc] using h
      refine .ok ?_
      simp only [SameOnto, Expr.ofColumn, Expr.onto_mk, Op.onto, hx, hy, htype]

/-- The operand comes out alike against tables that agree on the columns it names. -/
def Operand.Independent (b c u : Table) (a : Operand) : Prop :=
  (∀ n ∈ a.attributes, b.columnType? n = c.columnType? n) →
    Corresponds b c (SameOnto (Expr.onto u)) (a.resolve b) (a.resolve c)

theorem call_independent {u : Table} {f : Form Operand}
    (hf : ∀ a ∈ f.operands, a.Independent b c u) :
    (Operand.template (.call f)).Independent b c u := by
  intro h
  have hargs : ∀ a ∈ f.operands,
      Corresponds b c (SameOnto (Expr.onto u)) (a.resolve b) (a.resolve c) := by
    intro a ha
    refine hf a ha fun n hn => h n ?_
    rw [Operand.attributes, Template.attributes, formAttributes_eq]
    exact List.mem_flatMap.mpr ⟨a, ha, hn⟩
  simp only [Operand.resolve, Template.resolve, resolveForm_eq]
  refine (bindArgs_corresponds hargs).bind fun p q hpq => .of_map ?_
  rw [← Form.build_onto, hpq, Form.build_onto]

theorem independent_hereditary (b c u : Table) :
    Operand.Hereditary (Operand.Independent b c u) where
  expr e _ := .ok rfl
  literal v _ := .ok rfl
  row _ := .error _
  attr {p} _ n h := by
    cases p with
    | row => exact column_corresponds u (h n List.mem_cons_self)
    | attr | call => exact .error _
  call := call_independent

/-- Against two tables that have the columns it names with the same types, or lack them both, a
template comes out alike. The names of the tables, their other columns and the order of columns make
no difference. -/
theorem template_corresponds (p : Template) (b c : Table)
    (h : ∀ n ∈ p.attributes, b.columnType? n = c.columnType? n) :
    Corresponds b c Expr.Alike (p.resolve b) (p.resolve c) := by
  have honto : Corresponds b c (SameOnto (Expr.onto b)) (p.resolve b) (p.resolve c) :=
    (independent_hereditary b c b).template p h
  exact honto.mono fun x y => Expr.alike_of_onto

/-- People with more to them, in another order. -/
def staff : Table where
  name := "staff"
  columns := [⟨"age", .integer .w32⟩, ⟨"wage", .decimal 12 2⟩, ⟨"name", .string⟩]
  distinct := by decide

/-- The difference of an age to that of the people, which are bound already. -/
def ageGap : Template := .call (.binary .subtract (.template (.col "age")) (.expr age))

/-- The two expressions differ in the tables of their columns and in nothing else. -/
theorem ageGap_of_staff :
    (∀ n ∈ ageGap.attributes, people.columnType? n = staff.columnType? n) ∧
      ∃ x y, ageGap.resolve people = .ok x ∧ ageGap.resolve staff = .ok y ∧
        x.tables = [people] ∧ y.tables = [staff, people] ∧ x.Alike y := by
  have hcolumns : ∀ n ∈ ageGap.attributes, people.columnType? n = staff.columnType? n := by decide
  have h := template_corresponds ageGap people staff hcolumns
  obtain ⟨x, hx, hpeople⟩ : ∃ x, ageGap.resolve people = .ok x ∧ x.tables = [people] :=
    ⟨_, rfl, by decide⟩
  obtain ⟨y, hy, hstaff⟩ : ∃ y, ageGap.resolve staff = .ok y ∧ y.tables = [staff, people] :=
    ⟨_, rfl, by decide⟩
  rw [hx, hy] at h
  cases h with
  | ok halike => exact ⟨hcolumns, x, y, hx, hy, hpeople, hstaff, halike⟩

end TypedSql
