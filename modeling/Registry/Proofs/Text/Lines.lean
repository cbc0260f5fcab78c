import Mathlib.Data.List.TakeWhile
import Registry.Text

/-!
# Lines

A text is cut into lines at its boundaries (`Text.Cut`): every line but the last has one at its end,
and none has one inside. There is exactly one such cut, and `Text.lines` is it (`Text.cut_iff`).
The lines of two texts together are those of the first and those of the second, if the first ends
with a boundary (`Text.lines_append`); only a carriage return takes a line feed that follows
(`Text.lines_append_pair`).
-/

namespace Registry.Text

variable {c : CodePoint} {body sep rest t a b : Text} {ls : List Text}

/-- What ends a line when a text follows: a carriage return with a line feed, or a boundary that is
no carriage return in front of a line feed. -/
inductive LineEnd : Text → Text → Prop
  | pair (rest : Text) : LineEnd [.ofChar '\r', .ofChar '\n'] rest
  | single {c : CodePoint} {rest : Text} (hc : c.isLineBoundary = true)
      (hpair : ¬(c = .ofChar '\r' ∧ rest.head? = some (.ofChar '\n'))) : LineEnd [c] rest

/-- The lines that a text is cut into. -/
inductive Cut : Text → List Text → Prop
  | nil : Cut [] []
  | last {body : Text} (hne : body ≠ []) (hbody : ∀ c ∈ body, c.isLineBoundary = false) :
      Cut body [body]
  | line {body sep rest : Text} {ls : List Text} (hbody : ∀ c ∈ body, c.isLineBoundary = false)
      (hsep : LineEnd sep rest) (hrest : Cut rest ls) :
      Cut (body ++ (sep ++ rest)) ((body ++ sep) :: ls)

/-! ## Where a line ends -/

theorem endsLine_iff : endsLine c rest = true ↔
    c.isLineBoundary = true ∧ ¬(c = .ofChar '\r' ∧ rest.head? = some (.ofChar '\n')) := by
  have hreturn : c.val = 0x0D ↔ c = .ofChar '\r' :=
    ⟨fun h => CodePoint.val_injective h, fun h => h ▸ rfl⟩
  have hfeed : (rest.head?.any fun d => d.val == 0x0A) = true
      ↔ rest.head? = some (.ofChar '\n') := by
    cases rest with
    | nil => simp
    | cons d rest =>
      have hd : d.val = 0x0A ↔ d = .ofChar '\n' :=
        ⟨fun h => CodePoint.val_injective h, fun h => h ▸ rfl⟩
      simp [hd]
  rw [← hreturn, ← hfeed]
  simp only [endsLine, Bool.and_eq_true, Bool.not_eq_true', Bool.and_eq_false_imp, beq_iff_eq,
    not_and, Bool.not_eq_true]

theorem endsLine_eq_false (h : c.isLineBoundary = false) (rest : Text) :
    endsLine c rest = false := by
  simp [endsLine, h]

/-- Whether a line ends depends on the next code point only. -/
theorem endsLine_congr (h : rest.head? = t.head?) : endsLine c rest = endsLine c t := by
  simp [endsLine, h]

theorem lines_of_endsLine (h : endsLine c rest = true) : lines (c :: rest) = [c] :: lines rest := by
  rw [lines, if_pos h]

theorem lines_of_not_endsLine (h : endsLine c rest = false) {line : Text} {more : List Text}
    (hlines : lines rest = line :: more) : lines (c :: rest) = (c :: line) :: more := by
  rw [lines, if_neg (by simp [h]), hlines]

theorem lines_ne_nil (h : t ≠ []) : lines t ≠ [] := by
  intro hnil
  have hflatten := lines_flatten t
  rw [hnil] at hflatten
  exact h hflatten.symm

theorem lines_singleton (c : CodePoint) : lines [c] = [[c]] := by
  rw [lines]
  split
  · rfl
  · rfl

theorem lines_pair (rest : Text) :
    lines (.ofChar '\r' :: .ofChar '\n' :: rest)
      = [.ofChar '\r', .ofChar '\n'] :: lines rest := by
  have hfeed : endsLine (.ofChar '\n') rest = true := rfl
  exact lines_of_not_endsLine rfl (lines_of_endsLine hfeed)

/-! ## The only cut -/

theorem lines_eq_singleton (hne : body ≠ []) (hbody : ∀ c ∈ body, c.isLineBoundary = false) :
    lines body = [body] := by
  induction body with
  | nil => exact absurd rfl hne
  | cons c rest ih =>
    obtain ⟨hc, hrest⟩ := List.forall_mem_cons.mp hbody
    cases rest with
    | nil => exact lines_singleton c
    | cons d rest =>
      exact lines_of_not_endsLine (endsLine_eq_false hc _) (ih (List.cons_ne_nil d rest) hrest)

theorem lines_append_end (hbody : ∀ c ∈ body, c.isLineBoundary = false) (hsep : LineEnd sep rest) :
    lines (body ++ (sep ++ rest)) = (body ++ sep) :: lines rest := by
  induction body with
  | nil =>
    cases hsep with
    | pair => exact lines_pair rest
    | single hc hpair => exact lines_of_endsLine (endsLine_iff.mpr ⟨hc, hpair⟩)
  | cons c body ih =>
    obtain ⟨hc, hbody⟩ := List.forall_mem_cons.mp hbody
    exact lines_of_not_endsLine (endsLine_eq_false hc _) (ih hbody)

theorem Cut.lines_eq (h : Cut t ls) : lines t = ls := by
  induction h with
  | nil => rfl
  | last hne hbody => exact lines_eq_singleton hne hbody
  | line hbody hsep _ ih => rw [lines_append_end hbody hsep, ih]

/-- Every text can be cut: the first line is what stands before the first boundary, with it. -/
theorem exists_cut (t : Text) : ∃ ls, Cut t ls := by
  induction hn : t.length using Nat.strongRecOn generalizing t with
  | _ n ih =>
    have hbody : ∀ c ∈ t.takeWhile fun c => !c.isLineBoundary, c.isLineBoundary = false := by
      intro c hc
      simpa using List.mem_takeWhile_imp hc
    have htext := List.takeWhile_append_dropWhile (p := fun c => !c.isLineBoundary) (l := t)
    generalize t.takeWhile (fun c => !c.isLineBoundary) = body at hbody htext
    cases hrest : t.dropWhile fun c => !c.isLineBoundary with
    | nil =>
      rw [hrest, List.append_nil] at htext
      subst htext
      by_cases hne : body = []
      · exact ⟨[], hne ▸ .nil⟩
      · exact ⟨[body], .last hne hbody⟩
    | cons c rest =>
      have hc : c.isLineBoundary = true := by
        have := List.head_dropWhile_not (fun c : CodePoint => !c.isLineBoundary) (l := t)
          (by simp [hrest])
        simpa [hrest] using this
      rw [hrest] at htext
      have hlength := congrArg List.length htext
      simp only [List.length_append, List.length_cons] at hlength
      by_cases hpair : c = .ofChar '\r' ∧ rest.head? = some (.ofChar '\n')
      · obtain ⟨rfl, hfeed⟩ := hpair
        obtain ⟨rest, rfl⟩ := List.head?_eq_some_iff.mp hfeed
        simp only [List.length_cons] at hlength
        obtain ⟨ls, hls⟩ := ih rest.length (by omega) rest rfl
        rw [← htext]
        exact ⟨_, Cut.line hbody (.pair rest) hls⟩
      · obtain ⟨ls, hls⟩ := ih rest.length (by omega) rest rfl
        rw [← htext]
        exact ⟨_, Cut.line hbody (.single hc hpair) hls⟩

/-- The lines of a text are the only cut of it. -/
theorem cut_iff : Cut t ls ↔ lines t = ls := by
  refine ⟨Cut.lines_eq, ?_⟩
  rintro rfl
  obtain ⟨ls, h⟩ := exists_cut t
  rw [h.lines_eq]
  exact h

/-! ## Two texts together -/

theorem lines_append (h : ∀ c ∈ a.getLast?, endsLine c b = true) :
    lines (a ++ b) = lines a ++ lines b := by
  induction a with
  | nil => rfl
  | cons c rest ih =>
    cases rest with
    | nil =>
      have hc : endsLine c b = true := h c rfl
      rw [lines_singleton]
      exact lines_of_endsLine hc
    | cons d rest =>
      have ih := ih (by simpa using h)
      have hcongr : endsLine c (d :: rest ++ b) = endsLine c (d :: rest) := endsLine_congr rfl
      obtain ⟨line, more, hlines⟩ :=
        List.exists_cons_of_ne_nil (lines_ne_nil (List.cons_ne_nil d rest))
      rw [hlines] at ih
      cases hc : endsLine c (d :: rest) with
      | true =>
        rw [lines_of_endsLine hc, List.cons_append, lines_of_endsLine (hcongr.trans hc), ih, hlines]
        rfl
      | false =>
        rw [lines_of_not_endsLine hc hlines, List.cons_append,
          lines_of_not_endsLine (hcongr.trans hc) ih]
        rfl

/-- A line that ends with a carriage return takes the line feed that follows. -/
theorem lines_append_pair (h : a.getLast? = some (.ofChar '\r')) (b : Text) :
    ∃ init last, lines a = init ++ [last]
      ∧ lines (a ++ .ofChar '\n' :: b) = init ++ (last ++ [.ofChar '\n']) :: lines b := by
  induction a with
  | nil => cases h
  | cons c rest ih =>
    cases rest with
    | nil =>
      obtain rfl : c = .ofChar '\r' := by simpa using h
      exact ⟨[], _, lines_singleton _, lines_pair b⟩
    | cons d rest =>
      obtain ⟨init, last, hlines, happend⟩ := ih (by simpa using h)
      have hcongr : endsLine c (d :: rest ++ .ofChar '\n' :: b) = endsLine c (d :: rest) :=
        endsLine_congr rfl
      cases hc : endsLine c (d :: rest) with
      | true =>
        refine ⟨[c] :: init, last, ?_, ?_⟩
        · rw [lines_of_endsLine hc, hlines]
          rfl
        · rw [List.cons_append, lines_of_endsLine (hcongr.trans hc), happend]
          rfl
      | false =>
        cases init with
        | nil =>
          exact ⟨[], c :: last, lines_of_not_endsLine hc hlines,
            lines_of_not_endsLine (hcongr.trans hc) happend⟩
        | cons line init =>
          exact ⟨(c :: line) :: init, last, lines_of_not_endsLine hc hlines,
            lines_of_not_endsLine (hcongr.trans hc) happend⟩

end Registry.Text
