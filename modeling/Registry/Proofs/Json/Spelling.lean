import Registry.Proofs.Json.Grammar

/-!
# Strings are read by the grammar

The reader of a string takes what stands before the closing quote exactly if it spells a string, and
gives that string (`readString_eq_ok_iff`). The units that it reads first are a relation of their
own (`Units`); joining them is what tells a surrogate that is alone from one of a pair.
-/

namespace Registry.Json

/-! ## Units -/

/-- What stands between the quotes of a string, and its units. -/
inductive Units : Text → List StringUnit → Prop
  | nil : Units [] []
  | plain {c : CodePoint} {s : Text} {us : List StringUnit} (hquote : c.is '"' = false)
      (hescape : c.is '\\' = false) (hspace : 0x20 ≤ c.val) (h : Units s us) :
      Units (c :: s) (⟨false, c⟩ :: us)
  | escaped {e c : CodePoint} {s : Text} {us : List StringUnit} (he : unescape? e = some c)
      (h : Units s us) : Units (CodePoint.ofChar '\\' :: e :: s) (⟨false, c⟩ :: us)
  | numbered {n s : Text} {p : CodePoint} {us : List StringUnit} (hn : EscapesNumber n p)
      (h : Units s us) : Units (n ++ s) (⟨true, p⟩ :: us)

theorem consUnit_eq_ok {u : StringUnit} {us : List StringUnit} {x : Step (List StringUnit)}
    {r : Text} (h : consUnit u x = .ok (us, r)) : ∃ vs, x = .ok (vs, r) ∧ us = u :: vs := by
  cases x with
  | error e => cases h
  | ok p =>
    cases h
    exact ⟨_, rfl, rfl⟩

/-- The letter that begins an escape by number stands for nothing else. -/
theorem is_u_of_unescape? {e c : CodePoint} (h : unescape? e = some c) : e.is 'u' = false := by
  cases hu : e.is 'u' with
  | false => rfl
  | true =>
    obtain rfl := CodePoint.eq_ofChar_of_is hu
    cases h

theorem readUnits_numbered {n r : Text} {p : CodePoint} (hn : EscapesNumber n p) (hr : r ≠ [])
    (opening : Text) :
    readUnits opening (n ++ r) = consUnit ⟨true, p⟩ (readUnits opening r) := by
  obtain ⟨hp⟩ := hn
  exact readUnits_number hp hr

/-- What is read before the closing quote has the units that are read. -/
theorem readUnits_eq_ok {opening t r : Text} {us : List StringUnit}
    (h : readUnits opening t = .ok (us, r)) :
    ∃ s, t = s ++ CodePoint.ofChar '"' :: r ∧ Units s us := by
  fun_induction readUnits opening t generalizing us with
  | case2 c rest hquote =>
    cases h
    rw [CodePoint.eq_ofChar_of_is hquote]
    exact ⟨[], rfl, .nil⟩
  | case5 c hquote hescape e hu h₁ h₂ h₃ h₄ left p hp hleft ih =>
    obtain ⟨vs, hread, rfl⟩ := consUnit_eq_ok h
    obtain ⟨s, rfl, hs⟩ := ih hread
    rw [CodePoint.eq_ofChar_of_is hescape, CodePoint.eq_ofChar_of_is hu]
    exact ⟨_, rfl, .numbered (.intro hp) hs⟩
  | case8 c hquote hescape e digits hu p hp ih =>
    obtain ⟨vs, hread, rfl⟩ := consUnit_eq_ok h
    obtain ⟨s, rfl, hs⟩ := ih hread
    rw [CodePoint.eq_ofChar_of_is hescape]
    exact ⟨_, rfl, .escaped hp hs⟩
  | case11 c rest hquote hescape hspace ih =>
    obtain ⟨vs, hread, rfl⟩ := consUnit_eq_ok h
    obtain ⟨s, rfl, hs⟩ := ih hread
    rw [Bool.not_eq_true] at hquote hescape
    exact ⟨_, rfl, .plain hquote hescape (Nat.le_of_not_lt hspace) hs⟩
  | _ => cases h

/-- The units of what stands before the closing quote are read. -/
theorem readUnits_of_units {s : Text} {us : List StringUnit} (h : Units s us) (opening r : Text) :
    readUnits opening (s ++ CodePoint.ofChar '"' :: r) = .ok (us, r) := by
  induction h with
  | nil => exact readUnits_quote opening r
  | plain hquote hescape hspace _ ih =>
    rw [List.cons_append, readUnits_plain hquote hescape hspace, ih]
    rfl
  | escaped he _ ih =>
    rw [List.cons_append, List.cons_append, readUnits_escape (is_u_of_unescape? he) he, ih]
    rfl
  | numbered hn _ ih =>
    rw [List.append_assoc, readUnits_numbered hn (by simp), ih]
    rfl

/-! ## Joining units -/

theorem EscapesNumber.not_plain {n r s : Text} {c p : CodePoint} (hn : EscapesNumber n p)
    (h : c :: s = n ++ r) : c.is '\\' = true := by
  obtain ⟨-⟩ := hn
  cases h
  rfl

/-- Of two escapes by number at the beginning of a text one is the other. -/
theorem EscapesNumber.append_inj {n m s r : Text} {p q : CodePoint} (hn : EscapesNumber n p)
    (hm : EscapesNumber m q) (h : n ++ s = m ++ r) : p = q := by
  obtain ⟨hp⟩ := hn
  obtain ⟨hq⟩ := hm
  cases h
  exact Option.some.inj (hp.symm.trans hq)

/-- The units of a text that begins with the second half of a pair begin with it too. -/
theorem Units.beginsLowHalf_iff {s : Text} {us : List StringUnit} (h : Units s us) :
    BeginsLowHalf s ↔ ∃ u ∈ us.head?, u.numbered = true ∧ u.point.isLowSurrogate = true := by
  constructor
  · rintro ⟨n, q, r, rfl, hn, hlow⟩
    generalize hs : n ++ r = s at h
    cases h with
    | nil =>
      obtain ⟨-⟩ := hn
      cases hs
    | plain hquote hescape =>
      rw [hn.not_plain hs.symm] at hescape
      cases hescape
    | escaped he =>
      obtain ⟨-⟩ := hn
      cases hs
      cases he
    | @numbered m s' p us hm h =>
      obtain rfl := hn.append_inj hm hs
      exact ⟨⟨true, q⟩, rfl, rfl, hlow⟩
  · rintro ⟨u, hu, hnumbered, hlow⟩
    cases h with
    | nil => cases hu
    | plain | escaped =>
      cases hu
      cases hnumbered
    | @numbered n s p us hn h =>
      cases hu
      exact ⟨n, p, s, rfl, hn, hlow⟩

/-- A unit that is no first half of a pair stands for its code point. -/
theorem joinUnits_cons {u : StringUnit} {us : List StringUnit}
    (h : u.numbered = true → u.point.isHighSurrogate = true →
      ¬∃ v ∈ us.head?, v.numbered = true ∧ v.point.isLowSurrogate = true) :
    joinUnits (u :: us) = u.point :: joinUnits us := by
  cases us with
  | nil => rfl
  | cons v us =>
    rw [joinUnits, if_neg]
    simp only [Bool.and_eq_true]
    rintro ⟨⟨⟨hu, hv⟩, hhigh⟩, hlow⟩
    exact h hu hhigh ⟨v, rfl, hv, hlow⟩

/-- What has units spells what they are joined to. -/
theorem Units.spells {s : Text} {us : List StringUnit} (h : Units s us) :
    Spells s (joinUnits us) := by
  induction us using joinUnits.induct generalizing s with
  | case1 u v rest hpair ih =>
    rw [joinUnits, if_pos hpair]
    simp only [Bool.and_eq_true] at hpair
    obtain ⟨⟨⟨hu, hv⟩, hhigh⟩, hlow⟩ := hpair
    cases h with
    | plain | escaped => cases hu
    | numbered hn h =>
      cases h with
      | plain | escaped => cases hv
      | numbered hm h => exact .paired hn hm hhigh hlow (ih h)
  | case2 u v rest hpair ih =>
    rw [joinUnits, if_neg hpair]
    cases h with
    | plain hquote hescape hspace h => exact .plain hquote hescape hspace (ih h)
    | escaped he h => exact .escaped he (ih h)
    | numbered hn h =>
      refine .numbered hn (fun hhigh hlow => hpair ?_) (ih h)
      obtain ⟨w, ⟨⟩, hnumbered, hlow⟩ := h.beginsLowHalf_iff.mp hlow
      simp [hnumbered, hhigh, hlow]
  | case3 u =>
    cases h with
    | plain hquote hescape hspace h =>
      cases h
      exact .plain hquote hescape hspace .nil
    | escaped he h =>
      cases h
      exact .escaped he .nil
    | numbered hn h =>
      refine .numbered hn (fun _ hlow => ?_) (by cases h; exact .nil)
      obtain ⟨w, ⟨⟩, -⟩ := h.beginsLowHalf_iff.mp hlow
  | case4 =>
    cases h
    exact .nil

/-- What spells a string has units that are joined to it. -/
theorem Spells.exists_units {s x : Text} (h : Spells s x) :
    ∃ us, Units s us ∧ joinUnits us = x := by
  induction h with
  | nil => exact ⟨[], .nil, rfl⟩
  | plain hquote hescape hspace _ ih =>
    obtain ⟨us, hus, rfl⟩ := ih
    exact ⟨_, .plain hquote hescape hspace hus, joinUnits_cons fun h => nomatch h⟩
  | escaped he _ ih =>
    obtain ⟨us, hus, rfl⟩ := ih
    exact ⟨_, .escaped he hus, joinUnits_cons fun h => nomatch h⟩
  | numbered hn halone _ ih =>
    obtain ⟨us, hus, rfl⟩ := ih
    refine ⟨_, .numbered hn hus, joinUnits_cons fun _ hhigh hlow => ?_⟩
    exact halone hhigh (hus.beginsLowHalf_iff.mpr hlow)
  | paired hn hm hhigh hlow _ ih =>
    obtain ⟨us, hus, rfl⟩ := ih
    exact ⟨_, .numbered hn (.numbered hm hus), joinUnits_pair us hhigh hlow⟩

/-! ## Strings -/

/-- The reader of a string takes what stands before the closing quote exactly if it spells a string,
and gives that string. -/
theorem readString_eq_ok_iff {opening t x r : Text} :
    readString opening t = .ok (x, r) ↔ ∃ s, t = s ++ CodePoint.ofChar '"' :: r ∧ Spells s x := by
  rw [readString]
  constructor
  · intro h
    cases hread : readUnits opening t with
    | error e =>
      rw [hread] at h
      cases h
    | ok p =>
      obtain ⟨us, left⟩ := p
      rw [hread] at h
      cases h
      obtain ⟨s, ht, hs⟩ := readUnits_eq_ok hread
      exact ⟨s, ht, hs.spells⟩
  · rintro ⟨s, rfl, hs⟩
    obtain ⟨us, hus, rfl⟩ := hs.exists_units
    rw [readUnits_of_units hus]

end Registry.Json
