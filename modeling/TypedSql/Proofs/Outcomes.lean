import Mathlib.Data.List.Forall2

namespace TypedSql

variable {ε α β : Type}

@[simp]
theorem except_pure (a : α) : (pure a : Except ε α) = .ok a := rfl

@[simp]
theorem except_ok_bind (a : α) (f : α → Except ε β) : (Except.ok a >>= f) = f a := rfl

@[simp]
theorem except_error_bind (x : ε) (f : α → Except ε β) :
    ((Except.error x : Except ε α) >>= f) = .error x := rfl

theorem bind_eq_ok {x : Except ε α} {f : α → Except ε β} {b : β} :
    x >>= f = .ok b ↔ ∃ a, x = .ok a ∧ f a = .ok b := by
  cases x <;> simp

theorem bind_eq_error {x : Except ε α} {f : α → Except ε β} {e : ε} :
    x >>= f = .error e ↔ x = .error e ∨ ∃ a, x = .ok a ∧ f a = .error e := by
  cases x <;> simp

theorem map_eq_ok {x : Except ε α} {f : α → β} {b : β} :
    x.map f = .ok b ↔ ∃ a, x = .ok a ∧ f a = b := by
  cases x <;> simp [Except.map]

/-- A list is worked through when each of its members is. -/
theorem mapM_eq_ok {f : α → Except ε β} {as : List α} {bs : List β} :
    as.mapM f = .ok bs ↔ List.Forall₂ (fun a b => f a = .ok b) as bs := by
  induction as generalizing bs with
  | nil => cases bs <;> simp
  | cons a as ih =>
    simp only [List.mapM_cons, bind_eq_ok, except_pure, Except.ok.injEq, ih]
    constructor
    · rintro ⟨b, hb, cs, hcs, rfl⟩
      exact .cons hb hcs
    · rintro (_ | ⟨hb, hcs⟩)
      exact ⟨_, hb, _, hcs, rfl⟩

theorem mem_of_mapM {f : α → Except ε β} {as : List α} {bs : List β} (h : as.mapM f = .ok bs) :
    ∀ b ∈ bs, ∃ a ∈ as, f a = .ok b := by
  induction mapM_eq_ok.mp h with
  | nil => simp
  | @cons a b as bs hb hbs ih =>
    intro c hc
    rcases List.mem_cons.mp hc with rfl | hc
    · exact ⟨a, List.mem_cons_self, hb⟩
    · obtain ⟨d, hd, hf⟩ := ih (mapM_eq_ok.mpr hbs) c hc
      exact ⟨d, List.mem_cons_of_mem _ hd, hf⟩

theorem ok_of_mapM {f : α → Except ε β} {as : List α} {bs : List β} (h : as.mapM f = .ok bs) :
    ∀ a ∈ as, ∃ b, f a = .ok b := by
  induction mapM_eq_ok.mp h with
  | nil => simp
  | @cons a b as bs hb hbs ih =>
    intro c hc
    rcases List.mem_cons.mp hc with rfl | hc
    · exact ⟨b, hb⟩
    · exact ih (mapM_eq_ok.mpr hbs) c hc

/-- A list fails at the first of its members that does. -/
theorem mapM_eq_error_iff {f : α → Except ε β} {as : List α} {e : ε} :
    as.mapM f = .error e ↔ ∃ before a after, as = before ++ a :: after ∧
      (∀ b ∈ before, ∃ c, f b = .ok c) ∧ f a = .error e := by
  induction as with
  | nil => simp
  | cons a as ih =>
    rw [List.mapM_cons, bind_eq_error]
    constructor
    · rintro (h | ⟨b, hb, h⟩)
      · exact ⟨[], a, as, rfl, nofun, h⟩
      · rcases bind_eq_error.mp h with h | ⟨bs, -, h⟩
        · obtain ⟨before, c, after, rfl, hbefore, hc⟩ := ih.mp h
          exact ⟨a :: before, c, after, rfl, List.forall_mem_cons.mpr ⟨⟨b, hb⟩, hbefore⟩, hc⟩
        · cases h
    · rintro ⟨_ | ⟨c, before⟩, b, after, h, hbefore, hb⟩
      · cases h
        exact .inl hb
      · cases h
        obtain ⟨⟨d, hd⟩, hbefore⟩ := List.forall_mem_cons.mp hbefore
        exact .inr ⟨d, hd, bind_eq_error.mpr (.inl (ih.mpr ⟨before, b, after, rfl, hbefore, hb⟩))⟩

theorem mapM_eq_error {f : α → Except ε β} {as : List α} {e : ε} (h : as.mapM f = .error e) :
    ∃ a ∈ as, f a = .error e := by
  obtain ⟨before, a, after, rfl, -, ha⟩ := mapM_eq_error_iff.mp h
  exact ⟨a, List.mem_append_right before List.mem_cons_self, ha⟩

theorem exists_mapM_iff {f : α → Except ε β} {as : List α} :
    (∃ bs, as.mapM f = .ok bs) ↔ ∀ a ∈ as, ∃ b, f a = .ok b := by
  refine ⟨fun ⟨bs, h⟩ => ok_of_mapM h, fun h => ?_⟩
  cases hm : as.mapM f with
  | ok bs => exact ⟨bs, rfl⟩
  | error e =>
    obtain ⟨a, ha, he⟩ := mapM_eq_error hm
    obtain ⟨b, hb⟩ := h a ha
    rw [he] at hb
    cases hb

theorem mapM_congr {f g : α → Except ε β} {as : List α} (h : ∀ a ∈ as, f a = g a) :
    as.mapM f = as.mapM g := by
  induction as with
  | nil => rfl
  | cons a as ih =>
    rw [List.mapM_cons, List.mapM_cons, h a List.mem_cons_self,
      ih fun b hb => h b (List.mem_cons_of_mem a hb)]

theorem mapM_ok (as : List α) : as.mapM (.ok : α → Except ε α) = .ok as := by
  induction as with
  | nil => rfl
  | cons a as ih => simp [List.mapM_cons, ih]

end TypedSql
