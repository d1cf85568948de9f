import TypedSql.Template

namespace TypedSql

mutual

def Template.same : Template → Template → Bool
  | .row, .row => true
  | .attr b m, .attr c n => m = n && b.same c
  | .call f, .call g => sameForm f g
  | _, _ => false

def Operand.same : Operand → Operand → Bool
  | .expr d, .expr e => d = e
  | .template t, .template u => t.same u
  | .literal v, .literal w => v = w
  | _, _ => false

def sameForm : Form Operand → Form Operand → Bool
  | .unary o a, .unary p b => o = p && a.same b
  | .round a d, .round b e => a.same b && sameOption d e
  | .variadic o as, .variadic p bs => o = p && sameList as bs
  | .stringAgg a s f, .stringAgg b t g => a.same b && sameOption s t && sameOption f g
  | .cast a s, .cast b t => s = t && a.same b
  | .binary o a c, .binary p b d => o = p && a.same b && c.same d
  | .aliased a m, .aliased b n => m = n && a.same b
  | _, _ => false

def sameOption : Option Operand → Option Operand → Bool
  | none, none => true
  | some a, some b => a.same b
  | _, _ => false

def sameList : List Operand → List Operand → Bool
  | [], [] => true
  | a :: as, b :: bs => a.same b && sameList as bs
  | _, _ => false

end

mutual

theorem Template.same_iff : (t u : Template) → (t.same u ↔ t = u)
  | .row, u => by cases u <;> simp [Template.same]
  | .attr b m, u => by
    cases u with
    | attr c n => simp [Template.same, Template.same_iff b c, and_comm]
    | _ => simp [Template.same]
  | .call f, u => by
    cases u with
    | call g => simp [Template.same, sameForm_iff f g]
    | _ => simp [Template.same]

theorem Operand.same_iff : (a b : Operand) → (a.same b ↔ a = b)
  | .expr d, b => by cases b <;> simp [Operand.same]
  | .template t, b => by
    cases b with
    | template u => simp [Operand.same, Template.same_iff t u]
    | _ => simp [Operand.same]
  | .literal v, b => by cases b <;> simp [Operand.same]

theorem sameForm_iff : (f g : Form Operand) → (sameForm f g ↔ f = g)
  | .unary o a, g => by
    cases g with
    | unary p b => simp [sameForm, Operand.same_iff a b]
    | _ => simp [sameForm]
  | .round a d, g => by
    cases g with
    | round b e => simp [sameForm, Operand.same_iff a b, sameOption_iff d e]
    | _ => simp [sameForm]
  | .variadic o as, g => by
    cases g with
    | variadic p bs => simp [sameForm, sameList_iff as bs]
    | _ => simp [sameForm]
  | .stringAgg a s f, g => by
    cases g with
    | stringAgg b t h =>
      simp [sameForm, Operand.same_iff a b, sameOption_iff s t, sameOption_iff f h, and_assoc]
    | _ => simp [sameForm]
  | .cast a s, g => by
    cases g with
    | cast b t => simp [sameForm, Operand.same_iff a b, and_comm]
    | _ => simp [sameForm]
  | .binary o a c, g => by
    cases g with
    | binary p b d => simp [sameForm, Operand.same_iff a b, Operand.same_iff c d, and_assoc]
    | _ => simp [sameForm]
  | .aliased a m, g => by
    cases g with
    | aliased b n => simp [sameForm, Operand.same_iff a b, and_comm]
    | _ => simp [sameForm]

theorem sameOption_iff : (a b : Option Operand) → (sameOption a b ↔ a = b)
  | none, b => by cases b <;> simp [sameOption]
  | some a, b => by
    cases b with
    | none => simp [sameOption]
    | some b => simp [sameOption, Operand.same_iff a b]

theorem sameList_iff : (as bs : List Operand) → (sameList as bs ↔ as = bs)
  | [], bs => by cases bs <;> simp [sameList]
  | a :: as, bs => by
    cases bs with
    | nil => simp [sameList]
    | cons b bs => simp [sameList, Operand.same_iff a b, sameList_iff as bs]

end

instance : DecidableEq Template := fun t u => decidable_of_iff _ (Template.same_iff t u)

instance : DecidableEq Operand := fun a b => decidable_of_iff _ (Operand.same_iff a b)

end TypedSql
