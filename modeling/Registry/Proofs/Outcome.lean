import Mathlib.Data.List.Forall2

/-!
# Outcomes

When the outcome of a step that is mapped, or followed by another, is a success, what a run of
successful steps preserves, and how a step taken for each entry of a list ends: with all the results
(`mapM_eq_ok`) or with the first error (`mapM_eq_error`).
-/

namespace Registry

theorem map_eq_ok {ε α β : Type} {f : α → β} {x : Except ε α} {b : β} :
    x.map f = .ok b ↔ ∃ a, x = .ok a ∧ f a = b := by
  cases x with
  | error e => exact ⟨nofun, nofun⟩
  | ok a => simp [Except.map]

theorem exists_map_eq_ok_iff {ε α β : Type} {x : Except ε α} {f : α → β} :
    (∃ b, x.map f = .ok b) ↔ ∃ a, x = .ok a := by
  cases x <;> simp [Except.map]

theorem map_eq_error {ε α β : Type} {f : α → β} {x : Except ε α} {e : ε} :
    x.map f = .error e ↔ x = .error e := by
  cases x with
  | error e' => simp [Except.map]
  | ok a => exact ⟨nofun, nofun⟩

theorem mapError_ok {ε ε' α : Type} (a : α) (f : ε → ε') :
    (Except.ok a : Except ε α).mapError f = .ok a := rfl

theorem mapError_error {ε ε' α : Type} (e : ε) (f : ε → ε') :
    (Except.error e : Except ε α).mapError f = .error (f e) := rfl

theorem mapError_eq_ok {ε ε' α : Type} {x : Except ε α} {f : ε → ε'} {a : α} :
    x.mapError f = .ok a ↔ x = .ok a := by
  cases x with
  | error e => simp [mapError_error]
  | ok b => simp [mapError_ok]

theorem bind_eq_ok {ε α β : Type} {x : Except ε α} {f : α → Except ε β} {b : β} :
    x >>= f = .ok b ↔ ∃ a, x = .ok a ∧ f a = .ok b := by
  cases x <;> simp [bind, Except.bind]

/-- What each step over a list preserves, the whole run preserves. -/
theorem foldlM_preserves {ε α β : Type} {f : β → α → Except ε β} {P : β → Prop} {as : List α}
    (hstep : ∀ a ∈ as, ∀ b b', P b → f b a = .ok b' → P b') {b b' : β} (hb : P b)
    (h : as.foldlM f b = .ok b') : P b' := by
  induction as generalizing b with
  | nil =>
    cases h
    exact hb
  | cons a as ih =>
    rw [List.forall_mem_cons] at hstep
    rw [List.foldlM_cons] at h
    obtain ⟨c, hc, h⟩ := bind_eq_ok.mp h
    exact ih hstep.2 (hstep.1 b c hb hc) h

section Each

variable {ε α β : Type} {f : α → Except ε β}

theorem mapM_cons_ok {a : α} {b : β} (h : f a = .ok b) (as : List α) :
    (a :: as).mapM f = (as.mapM f).map (b :: ·) := by
  rw [List.mapM_cons, h]
  cases as.mapM f <;> rfl

theorem mapM_cons_error {a : α} {e : ε} (h : f a = .error e) (as : List α) :
    (a :: as).mapM f = .error e := by
  rw [List.mapM_cons, h]
  rfl

/-- Every entry is related to something exactly if the whole list is. -/
theorem exists_forall₂_iff {R : α → β → Prop} {l : List α} :
    (∃ m, List.Forall₂ R l m) ↔ ∀ a ∈ l, ∃ b, R a b := by
  induction l with
  | nil => simp
  | cons a l ih =>
    simp only [List.forall₂_cons_left_iff, List.forall_mem_cons, ← ih]
    constructor
    · rintro ⟨_, b, m, hb, hm, rfl⟩
      exact ⟨⟨b, hb⟩, m, hm⟩
    · rintro ⟨⟨b, hb⟩, m, hm⟩
      exact ⟨_, b, m, hb, hm, rfl⟩

/-- An entry of the second list is related to one of the first. -/
theorem exists_mem_of_forall₂ {R : α → β → Prop} {l : List α} {m : List β} {b : β}
    (h : List.Forall₂ R l m) (hb : b ∈ m) : ∃ a ∈ l, R a b := by
  induction h with
  | nil => cases hb
  | cons hab _ ih =>
    rcases List.mem_cons.mp hb with rfl | hb
    · exact ⟨_, List.mem_cons_self, hab⟩
    · obtain ⟨a, ha, hR⟩ := ih hb
      exact ⟨a, List.mem_cons_of_mem _ ha, hR⟩

theorem forall₂_append_left_iff {R : α → β → Prop} {l₁ l₂ : List α} {m : List β} :
    List.Forall₂ R (l₁ ++ l₂) m
      ↔ ∃ m₁ m₂, List.Forall₂ R l₁ m₁ ∧ List.Forall₂ R l₂ m₂ ∧ m = m₁ ++ m₂ := by
  induction l₁ generalizing m with
  | nil => simp
  | cons a l₁ ih =>
    rw [List.cons_append, List.forall₂_cons_left_iff]
    simp only [ih, List.forall₂_cons_left_iff]
    constructor
    · rintro ⟨b, _, hb, ⟨m₁, m₂, h₁, h₂, rfl⟩, rfl⟩
      exact ⟨b :: m₁, m₂, ⟨b, m₁, hb, h₁, rfl⟩, h₂, rfl⟩
    · rintro ⟨_, m₂, ⟨b, m₁, hb, h₁, rfl⟩, h₂, rfl⟩
      exact ⟨b, m₁ ++ m₂, hb, ⟨m₁, m₂, h₁, h₂, rfl⟩, rfl⟩

/-- A step for each entry succeeds exactly with the results of all. -/
theorem mapM_eq_ok {as : List α} {bs : List β} :
    as.mapM f = .ok bs ↔ List.Forall₂ (fun a b => f a = .ok b) as bs := by
  induction as generalizing bs with
  | nil => simp [pure, Except.pure, eq_comm]
  | cons a as ih =>
    rw [List.forall₂_cons_left_iff]
    cases ha : f a with
    | error e =>
      rw [mapM_cons_error ha]
      exact ⟨nofun, nofun⟩
    | ok b =>
      rw [mapM_cons_ok ha, map_eq_ok]
      simp only [ih, Except.ok.injEq]
      constructor
      · rintro ⟨bs, hbs, rfl⟩
        exact ⟨b, bs, rfl, hbs, rfl⟩
      · rintro ⟨b, bs, rfl, hbs, rfl⟩
        exact ⟨bs, hbs, rfl⟩

/-- A step for each entry fails exactly with the error of an entry before which all succeed. -/
theorem mapM_eq_error {as : List α} {e : ε} :
    as.mapM f = .error e
      ↔ ∃ before a after, as = before ++ a :: after ∧ (∀ x ∈ before, ∃ b, f x = .ok b)
        ∧ f a = .error e := by
  induction as with
  | nil => simp [pure, Except.pure]
  | cons a as ih =>
    simp only [List.cons_eq_append_iff]
    cases ha : f a with
    | error e' =>
      rw [mapM_cons_error ha]
      constructor
      · intro h
        obtain rfl : e' = e := Except.error.inj h
        exact ⟨[], a, as, .inl ⟨rfl, rfl⟩, nofun, ha⟩
      · rintro ⟨before, x, after, ⟨rfl, hx⟩ | ⟨more, rfl, -⟩, hbefore, herror⟩
        · obtain ⟨rfl, rfl⟩ := List.cons.inj hx
          obtain rfl : e' = e := Except.error.inj (ha.symm.trans herror)
          rfl
        · obtain ⟨b, hb⟩ := hbefore a List.mem_cons_self
          cases ha.symm.trans hb
    | ok b =>
      have hmap : (a :: as).mapM f = .error e ↔ as.mapM f = .error e := by
        rw [mapM_cons_ok ha, map_eq_error]
      rw [hmap, ih]
      constructor
      · rintro ⟨before, x, after, rfl, hbefore, herror⟩
        exact ⟨a :: before, x, after, .inr ⟨before, rfl, rfl⟩,
          List.forall_mem_cons.mpr ⟨⟨b, ha⟩, hbefore⟩, herror⟩
      · rintro ⟨before, x, after, ⟨rfl, hx⟩ | ⟨more, rfl, rfl⟩, hbefore, herror⟩
        · obtain ⟨rfl, rfl⟩ := List.cons.inj hx
          cases ha.symm.trans herror
        · exact ⟨more, x, after, rfl, (List.forall_mem_cons.mp hbefore).2, herror⟩

end Each

end Registry
