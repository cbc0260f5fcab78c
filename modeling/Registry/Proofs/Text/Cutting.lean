import Registry.Text

/-!
# Cutting texts

A text is cut at the first occurrence of a character that what stands before it has not
(`Text.splitFirst?_append`), and in general at the first occurrence of a separator
(`Text.splitFirst?_eq_some_iff`). Parts that do not have the character which separates them are
found again (`Text.splitOn_intersperse`), and searching a text finds its infixes
(`Text.hasInfix_iff`).
-/

namespace Registry.Text

variable {x : Char} {s : Text}

theorem splitFirst?_append (h : ∀ c ∈ s, c.is x = false) (r : Text) :
    splitFirst? [.ofChar x] (s ++ .ofChar x :: r) = some (s, r) := by
  induction s with
  | nil =>
    rw [List.nil_append, splitFirst?, dropPrefix?, if_pos rfl]
    rfl
  | cons c s ih =>
    obtain ⟨hc, hs⟩ := List.forall_mem_cons.mp h
    have hne : CodePoint.ofChar x ≠ c := (ne_of_beq_false hc).symm
    rw [List.cons_append, splitFirst?, dropPrefix?, if_neg hne, ih hs]
    rfl

theorem splitOn_append (h : ∀ c ∈ s, c.is x = false) (r : Text) :
    splitOn (.ofChar x) (s ++ .ofChar x :: r) = s :: splitOn (.ofChar x) r := by
  induction s with
  | nil => exact if_pos rfl
  | cons c s ih =>
    obtain ⟨hc, hs⟩ := List.forall_mem_cons.mp h
    have hne : c ≠ CodePoint.ofChar x := ne_of_beq_false hc
    rw [List.cons_append, splitOn, if_neg hne, ih hs]

theorem splitOn_eq_self (h : ∀ c ∈ s, c.is x = false) : splitOn (.ofChar x) s = [s] := by
  induction s with
  | nil => rfl
  | cons c s ih =>
    obtain ⟨hc, hs⟩ := List.forall_mem_cons.mp h
    have hne : c ≠ CodePoint.ofChar x := ne_of_beq_false hc
    rw [splitOn, if_neg hne, ih hs]

theorem splitOn_intersperse {parts : List Text} (hne : parts ≠ [])
    (h : ∀ p ∈ parts, ∀ c ∈ p, c.is x = false) :
    splitOn (.ofChar x) (parts.intersperse [.ofChar x]).flatten = parts := by
  induction parts with
  | nil => exact absurd rfl hne
  | cons p parts ih =>
    obtain ⟨hp, hparts⟩ := List.forall_mem_cons.mp h
    cases parts with
    | nil =>
      rw [List.intersperse_singleton, List.flatten_singleton]
      exact splitOn_eq_self hp
    | cons q parts =>
      rw [List.intersperse_cons_cons, List.flatten_cons, List.flatten_cons, List.singleton_append,
        splitOn_append hp, ih (List.cons_ne_nil q parts) hparts]

theorem mem_of_mem_splitOn {separator c : CodePoint} {t p : Text} (h : p ∈ splitOn separator t)
    (hc : c ∈ p) : c ∈ t := by
  induction t generalizing p with
  | nil =>
    obtain rfl := List.mem_singleton.mp h
    exact hc
  | cons d t ih =>
    rw [splitOn] at h
    split at h
    · rcases List.mem_cons.mp h with rfl | h
      · exact absurd hc List.not_mem_nil
      · exact List.mem_cons_of_mem d (ih h hc)
    split at h
    · obtain rfl := List.mem_singleton.mp h
      exact List.mem_cons.mpr ((List.mem_cons.mp hc).imp_right fun hc => absurd hc List.not_mem_nil)
    · next part parts heq =>
      rcases List.mem_cons.mp h with rfl | h
      · rcases List.mem_cons.mp hc with rfl | hc
        · exact List.mem_cons_self
        · exact List.mem_cons_of_mem d (ih (heq ▸ List.mem_cons_self) hc)
      · exact List.mem_cons_of_mem d (ih (heq ▸ List.mem_cons_of_mem part h) hc)

theorem splitFirst?_eq_some {separator before after : Text}
    (h : splitFirst? separator s = some (before, after)) : s = before ++ (separator ++ after) := by
  induction s generalizing before with
  | nil =>
    obtain ⟨r, hr, e⟩ := Option.map_eq_some_iff.mp h
    obtain ⟨rfl, rfl⟩ := Prod.mk.inj e
    rw [List.nil_append]
    exact dropPrefix?_eq_some_iff.mp hr
  | cons c s ih =>
    rw [splitFirst?] at h
    split at h
    · next r hr =>
      obtain ⟨rfl, rfl⟩ := Prod.mk.inj (Option.some.inj h)
      rw [List.nil_append]
      exact dropPrefix?_eq_some_iff.mp hr
    · obtain ⟨⟨b, a⟩, hsplit, e⟩ := Option.map_eq_some_iff.mp h
      obtain ⟨rfl, rfl⟩ := Prod.mk.inj e
      rw [ih hsplit, List.cons_append]

theorem splitFirst?_eq_none {separator : Text} (h : splitFirst? separator s = none) :
    ¬separator <:+: s := by
  induction s with
  | nil =>
    rw [List.infix_nil]
    rintro rfl
    cases h
  | cons c s ih =>
    rw [splitFirst?] at h
    split at h
    · cases h
    · next hnone =>
      rw [List.infix_cons_iff, not_or]
      refine ⟨?_, ih (Option.map_eq_none_iff.mp h)⟩
      rintro ⟨r, hr⟩
      rw [dropPrefix?_eq_some_iff.mpr hr.symm] at hnone
      cases hnone

theorem hasInfix_iff {part : Text} : hasInfix part s = true ↔ part <:+: s := by
  unfold hasInfix
  cases h : splitFirst? part s with
  | none => exact iff_of_false Bool.false_ne_true (splitFirst?_eq_none h)
  | some e =>
    refine iff_of_true rfl ⟨e.1, e.2, ?_⟩
    rw [splitFirst?_eq_some h, List.append_assoc]

theorem isSome_dropPrefix?_iff {p t : Text} : (dropPrefix? p t).isSome = true ↔ p <+: t := by
  simp only [Option.isSome_iff_exists, dropPrefix?_eq_some_iff]
  exact exists_congr fun r => eq_comm

theorem mem_of_mem_intersperse {sep : Text} {parts : List Text} (h : s ∈ parts.intersperse sep) :
    s = sep ∨ s ∈ parts := by
  induction parts with
  | nil => exact absurd h List.not_mem_nil
  | cons p parts ih =>
    cases parts with
    | nil => exact .inr h
    | cons q parts =>
      rw [List.intersperse_cons_cons] at h
      rcases List.mem_cons.mp h with rfl | h
      · exact .inr List.mem_cons_self
      rcases List.mem_cons.mp h with rfl | h
      · exact .inl rfl
      · exact (ih h).imp_right (List.mem_cons_of_mem p)

/-! ## The first occurrence -/

/-- The text is cut at the first occurrence of a separator: no other one begins before it. -/
structure CutsFirst (separator t before after : Text) : Prop where
  eq : t = before ++ (separator ++ after)
  first : ∀ b a : Text, t = b ++ (separator ++ a) → before.length ≤ b.length

theorem CutsFirst.unique {separator b a b' a' : Text} (h : CutsFirst separator s b a)
    (h' : CutsFirst separator s b' a') : b = b' ∧ a = a' := by
  have hlength : b.length = b'.length := Nat.le_antisymm (h.first b' a' h'.eq) (h'.first b a h.eq)
  obtain ⟨hb, ha⟩ := List.append_inj (h.eq.symm.trans h'.eq) hlength
  exact ⟨hb, List.append_cancel_left ha⟩

theorem splitFirst?_cutsFirst {separator before after : Text}
    (h : splitFirst? separator s = some (before, after)) : CutsFirst separator s before after := by
  refine ⟨splitFirst?_eq_some h, ?_⟩
  induction s generalizing before with
  | nil =>
    intro b a _
    obtain ⟨r, -, e⟩ := Option.map_eq_some_iff.mp h
    cases e
    exact Nat.zero_le _
  | cons c s ih =>
    intro b a hs
    rw [splitFirst?] at h
    split at h
    · cases h
      exact Nat.zero_le _
    · next hnone =>
      obtain ⟨⟨before, after⟩, hsplit, e⟩ := Option.map_eq_some_iff.mp h
      cases e
      cases b with
      | nil =>
        have hsome : dropPrefix? separator (c :: s) = some a := dropPrefix?_eq_some_iff.mpr hs
        rw [hsome] at hnone
        cases hnone
      | cons d b => exact Nat.succ_le_succ (ih hsplit b a (List.cons.inj hs).2)

theorem splitFirst?_eq_some_iff {separator before after : Text} :
    splitFirst? separator s = some (before, after) ↔ CutsFirst separator s before after := by
  refine ⟨splitFirst?_cutsFirst, ?_⟩
  intro h
  cases hsplit : splitFirst? separator s with
  | none =>
    refine absurd ⟨before, after, ?_⟩ (splitFirst?_eq_none hsplit)
    rw [h.eq, List.append_assoc]
  | some e =>
    obtain ⟨rfl, rfl⟩ := (splitFirst?_cutsFirst hsplit).unique h
    rfl

theorem splitFirst?_eq_none_iff {separator : Text} :
    splitFirst? separator s = none ↔ ¬separator <:+: s := by
  refine ⟨splitFirst?_eq_none, ?_⟩
  intro h
  cases hsplit : splitFirst? separator s with
  | none => rfl
  | some e => exact absurd (hasInfix_iff.mp (by rw [hasInfix, hsplit]; rfl)) h

theorem splitFirst?_cons {c : CodePoint} {separator : Text}
    (h : dropPrefix? separator (c :: s) = none) :
    splitFirst? separator (c :: s)
      = (splitFirst? separator s).map fun (before, after) => (c :: before, after) := by
  rw [splitFirst?, h]

/-- Where a separator cannot begin, it is not found. -/
theorem splitFirst?_append_of_not_mem {c : CodePoint} {separator : Text} (h : c ∉ s) (t : Text) :
    splitFirst? (c :: separator) (s ++ t)
      = (splitFirst? (c :: separator) t).map fun (before, after) => (s ++ before, after) := by
  induction s with
  | nil =>
    rw [List.nil_append]
    cases splitFirst? (c :: separator) t <;> rfl
  | cons d s ih =>
    rw [List.mem_cons, not_or] at h
    have hnone : dropPrefix? (c :: separator) (d :: (s ++ t)) = none := if_neg h.1
    rw [List.cons_append, splitFirst?_cons hnone, ih h.2, Option.map_map]
    rfl

/-- A separator whose second code point does not stand before it is found where it stands. -/
theorem splitFirst?_append_separator {a b : CodePoint} (hab : a ≠ b) (hb : b ∉ s)
    (separator r : Text) :
    splitFirst? (a :: b :: separator) (s ++ (a :: b :: separator ++ r)) = some (s, r) := by
  induction s with
  | nil =>
    have hbegins : dropPrefix? (a :: b :: separator) (a :: b :: (separator ++ r)) = some r :=
      dropPrefix?_eq_some_iff.mpr rfl
    show splitFirst? (a :: b :: separator) (a :: b :: (separator ++ r)) = some ([], r)
    rw [splitFirst?, hbegins]
  | cons d s ih =>
    rw [List.mem_cons, not_or] at hb
    have hnone :
        dropPrefix? (a :: b :: separator) (d :: (s ++ (a :: b :: separator ++ r))) = none := by
      rw [Option.eq_none_iff_forall_ne_some]
      intro x hx
      have htail := (List.cons.inj (dropPrefix?_eq_some_iff.mp hx)).2
      -- the second code point would be the next of the part in front or the first of the separator
      cases s with
      | nil => exact hab (List.cons.inj htail).1
      | cons e s => exact hb.2 (List.mem_cons.mpr (.inl (List.cons.inj htail).1.symm))
    rw [List.cons_append, splitFirst?_cons hnone, ih hb.2]
    rfl

theorem flatten_intersperse_cons (c : CodePoint) (p separator : Text) (parts : List Text) :
    (((c :: p) :: parts).intersperse separator).flatten
      = c :: ((p :: parts).intersperse separator).flatten := by
  cases parts <;> rfl

/-- Commas with a blank behind them separate parts that begin with a blank, the first one apart. -/
theorem flatten_intersperse_comma (p : Text) (parts : List Text) :
    ((p :: parts).intersperse (ofString ", ")).flatten
      = ((p :: parts.map (.ofChar ' ' :: ·)).intersperse [.ofChar ',']).flatten := by
  induction parts generalizing p with
  | nil => rfl
  | cons q parts ih =>
    rw [List.map_cons, List.intersperse_cons_cons, List.intersperse_cons_cons, List.flatten_cons,
      List.flatten_cons, List.flatten_cons, List.flatten_cons, ih, flatten_intersperse_cons]
    rfl

end Registry.Text
